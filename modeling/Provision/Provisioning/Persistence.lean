import Provision.Disk.Files
import Provision.Run.Basic
import Provision.Unicode.Classes
import Provision.Unicode.Lowercase

namespace Provision.Persistence

/-!
# Lasting changes of the search path

Future shells find a directory by a line in a profile, or by the stored value
of the search path. A profile gets a line once: a line that is there already is
not added again, and nothing that the profile held is changed.
-/

/-- The comment above a line that was added to a profile. -/
def addedBy : String := "# Added by netter-setup"

/-- The line of a profile that puts a directory on the search path. -/
def exportLine (dir : Path) : String :=
  "export PATH=\"$PATH:" ++ dir.text ++ "\""

/-- The profile that all users read. -/
def systemProfile (projectName : String) : Path :=
  Path.join "/etc/profile.d"
    (.ofText (String.ofList (Unicode.lowercase projectName.toList) ++ ".sh"))

/-- The profile that one user reads. -/
def userProfile (home : Path) : Path :=
  home.child ".bashrc"

/-- Whether a profile has a line, white space around it not counted. -/
def hasLine (profile : Text) (line : String) : Bool :=
  profile.lines.any fun present => Text.trimBy Unicode.isWhitespace present == line.toList

/-- What is added to a profile with a line: a last line that is open is closed first. -/
def addition (profile : Text) (line : String) : Text :=
  let closing : Text :=
    if profile.isEmpty || profile.getLast? == some '\n' then [] else ['\n']
  closing ++ ("\n" ++ addedBy ++ "\n" ++ line ++ "\n").toList

/-- The contents of a profile; one that is missing is empty. -/
def readProfile (disk : Disk) (dir : Location) (profile : Path) : Except SystemError Text :=
  match disk.read dir profile with
  | .error .notFound => .ok []
  | .error reason => .error reason
  | .ok bytes =>
      match Utf8.decode? bytes with
      | some text => .ok text
      | none => .error .notText

/-- Add a line to a profile unless it is there. Answers whether the profile changed. -/
def appendIfAbsent (profile : Path) (line : String) : Attempt Bool := do
  let present ←
    Attempt.orFail
      (fun reason => .fileUnreadable profile.text reason.message)
      (Run.readStep fun disk dir => readProfile disk dir profile)
  if hasLine present line then
    return false
  else
    Attempt.orFail
      (fun reason => .fileUnwritable profile.text reason.message)
      (Run.writeStep fun disk dir =>
        disk.append dir profile (Utf8.encode (addition present line)))
    return true

/-- The command that stores a value of the search path, for the user or for the system. -/
def storeCommand (value : String) (system : Bool) : Invocation where
  program := "setx"
  arguments := ["PATH", value] ++ if system then ["/M"] else []

/-- Store a value of the search path. -/
def storePath (value : String) (system : Bool) : Attempt Unit := do
  let named := "setx PATH"
  let output ←
    Attempt.orFail
      (fun reason => .commandFailed named reason.message)
      (Run.command (storeCommand value system))
  unless output.succeeded do
    throw (.commandFailed named output.statusText)

end Provision.Persistence
