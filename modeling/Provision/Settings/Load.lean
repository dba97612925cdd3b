import Provision.Disk.Files
import Provision.Run.Basic
import Provision.Settings.Read

namespace Provision

/-!
# Loading settings

A project may have a settings file in its directory. Without one it has the
default settings.
-/

/-- Whether a path leads anywhere. -/
def Run.leadsSomewhere (path : Path) : Run Bool :=
  Run.observe fun disk dir => (disk.target? dir path).isSome

/-- Read a file as text. -/
def Run.readText (path : Path) : Run (Except SystemError Text) :=
  Run.readStep fun disk dir => do
    match Utf8.decode? (← disk.read dir path) with
    | some text => .ok text
    | none => .error .notText

/-- The settings of the project in a directory. -/
def Settings.load (projectDir : Path) : Attempt Settings := do
  let path := projectDir.child settingsFile
  if ← Run.leadsSomewhere path then
    let content ←
      Attempt.orFail
        (fun reason => .configUnreadable path.text reason.message)
        (Run.readText path)
    Settings.parse content path.text
  else
    return {}

end Provision
