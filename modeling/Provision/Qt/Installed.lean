import Provision.Run.Basic
import Provision.Unicode.Classes
import Provision.Version

namespace Provision.Qt

/-!
# The installed Qt

The program `qmake` of an installed Qt tells its version. It may be installed
under two names, which are asked in turn.
-/

/-- Names under which the program that knows the version may be installed. -/
def qmakeNames : List String :=
  ["qmake6", "qmake"]

/-- What stands before the version in the answer. -/
def versionLabel : Text :=
  "Qt version".toList

/-- The version in the first line of an answer that has the label. -/
def reportedVersion? (answer : Text) : Option Version := do
  let (_, rest) ← answer.lines.findSome? (Text.splitOnce? versionLabel)
  let token ← (Text.wordsBy Unicode.isWhitespace rest).head?
  Version.parse? (String.ofList token)

/-- The version that a program reports, if it is one of the release line. -/
def askVersion (major : Nat) (program : String) : Run (Option Version) := do
  match ← Run.command { program := program, arguments := ["-v"] } with
  | .error _ => return none
  | .ok output =>
      if output.succeeded then
        return (reportedVersion? output.stdout.toList).filter (·.major == major)
      else
        return none

/-- The first version of the release line that one of some programs reports. -/
def firstReported (major : Nat) : List String → Run (Option Version)
  | [] => return none
  | program :: rest => do
      match ← askVersion major program with
      | some version => return some version
      | none => firstReported major rest

/-- The installed version of a release line. -/
def installedVersion (major : Nat) : Run (Option Version) :=
  firstReported major qmakeNames

end Provision.Qt
