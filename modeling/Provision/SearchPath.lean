import Provision.Environment.Effective
import Provision.Run.Basic

namespace Provision

/-!
# The search path

A program is found by its name in the directories that the search path lists.
A name that is a path itself is found where it leads to.
-/

namespace SearchPath

/-- Whether a program is called by a path and not by a name alone. -/
def isPathName (program : Path) : Bool :=
  1 < program.components.length

/-- The directory that an entry of the search path means: `~` is the home directory. -/
def directoryOf (home : Option Path) (entry : Path) : Path :=
  match home, entry.components with
  | some home, .name name :: rest =>
      if name = "~" then
        rest.foldl
          (fun dir component =>
            match component with
            | .root => "/"
            | .here => dir.child "."
            | .up => dir.child ".."
            | .name name => dir.child name)
          home
      else
        entry
  | _, _ => entry

/-- Paths at which a program may be, in the order in which they are tried. -/
def candidates
    (home : Option Path)
    (workingDirectory : Path)
    (value : Option String)
    (program : Path) :
    List Path :=
  if isPathName program then
    [if program.isAbsolute then program else workingDirectory.join program]
  else
    match value with
    | none => []
    | some value =>
        (SearchList.allEntries value).map fun entry =>
          (directoryOf home entry).join program

/-- Warns of a directory that cannot be an entry of the search path. -/
def unlistable (dir : Path) : Warning where
  message := "cannot add directory to PATH: path segment contains separator `:`"
  fields := [("dir", dir.text)]

end SearchPath

/-- Where the search path of an environment finds a program. -/
def Environment.find? (env : Environment) (program : String) : Run (Option Path) := do
  let machine ← read
  let tried := SearchPath.candidates machine.home machine.workingDirectory
    (env.var? Variable.path.name) program
  Run.observe fun disk dir => tried.find? (disk.isProgram dir)

/-- Whether the search path of an environment finds a program. -/
def Environment.finds (env : Environment) (program : String) : Run Bool := do
  return (← env.find? program).isSome

/--
The environment with a directory on the search path; a directory that cannot be
listed there leaves a warning.
-/
def Environment.extendPath (env : Environment) (place : SearchList.Place) (dir : Path) :
    Run Environment := do
  if !SearchList.lists env.pathEntries dir && SearchList.cannotHold dir then
    Run.warn (SearchPath.unlistable dir)
  return env.addPath place dir

end Provision
