import Provision.Run.Console
import Provision.SearchPath
import Provision.Toolchain.Installation

namespace Provision

namespace Toolchain

/-!
# Activating a toolchain

The activation script is run in a shell that dumps its environment afterwards.
What the script changed, among the variables that may be changed, is what the
build needs. If the compiler is still not found, it is searched for.
-/

/-- The processor for which the toolchain is activated. -/
def hostArchitecture : String := "x64"

/-- Runs an activation script and dumps the environment it leaves. -/
def activationCommand (script : Path) (architecture : String) : Invocation where
  program := "cmd"
  arguments := ["/C", "call \"" ++ script.text ++ "\" " ++ architecture ++ " && set"]
  verbatim := true

/-- What an activation changes. -/
structure Activation where
  delta : Delta
  /-- The compiler, if it was found with the changes carried out. -/
  compiler : Option Path
  deriving Repr, DecidableEq

/-- The environment after a dump was read into it. -/
def readDump (env : Environment) (dump : String) : Environment :=
  env.merge (env.snapshot.diff (Snapshot.parse dump.toList))

/-- Search an edition for the compiler, and put its directory in front of the search path. -/
def searchCompiler (root : Path) (compiler : String) (env : Environment) :
    Run (Option Path × Environment) := do
  Run.caution
    ("Could not find " ++ compiler ++ " even after activation, scanning " ++ root.text)
  let matching ← Run.observe fun disk dir => disk.find dir root compiler
  match ← firstMatch ("several " ++ compiler ++ " found, using the first") matching with
  | none => return (none, env)
  | some found =>
      match found.parent? with
      | none => return (some found, env)
      | some dir =>
          let env ← env.extendPath .front dir
          Run.inform ("Added to PATH: " ++ dir.text)
          return (some found, env)

/-- The compiler in an activated environment, which changes if a search finds it. -/
def findCompiler (root : Path) (compiler : String) (env : Environment) :
    Run (Option Path × Environment) := do
  match ← env.find? compiler with
  | some found => return (some found, env)
  | none => searchCompiler root compiler env

/--
Run an activation script in an environment. There is no activation if the
script cannot be run or fails.
-/
def activate
    (script : Path)
    (architecture : String)
    (root : Path)
    (compiler : String)
    (env : Environment) :
    Run (Option Activation) := do
  match ← Run.command (activationCommand script architecture) with
  | .error reason =>
      Run.caution ("Error running " ++ script.text ++ ": " ++ reason.message)
      return none
  | .ok output =>
      if output.succeeded then
        let activated := readDump env output.stdout
        Run.inform "Compiler environment variables captured"
        let (found, activated) ← findCompiler root compiler activated
        return some ⟨activated.pending, found⟩
      else
        let complaint := Text.trimBy Unicode.isWhitespace output.stderr.toList
        Run.caution ("Error running " ++ script.text ++ ": " ++ String.ofList complaint)
        return none

end Toolchain

end Provision
