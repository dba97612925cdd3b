import Provision.LaunchScript.Write
import Provision.Settings.Load

namespace Provision

/-!
# Projects

A command is about one project: a directory with its settings. The path of the
directory is freed of links, so it can be written into scripts.
-/

/-- A project directory with its settings. -/
structure Project where
  dir : Path
  settings : Settings
  deriving Repr, DecidableEq

namespace Project

/-- Where a path leads to, links followed, if it leads to something that is there. -/
def existing? (path : Path) (disk : Disk) (dir : Location) : Option Location :=
  match disk.locate .followed dir path with
  | .error _ => none
  | .ok location => (disk.node? location).map fun _ => location

/-- The project directory: the one that was given, or the working directory. -/
def directory (given : Option Path) : Attempt Path := do
  let path := given.getD (← read).workingDirectory
  let found ← (Run.observe (existing? path) : Run (Option Location))
  match found with
  | some location => return Path.ofLocation location
  | none => throw (.fileNotFound path.text)

/-- The project that a command is about. -/
def load (given : Option Path) : Attempt Project := do
  let dir ← directory given
  return ⟨dir, ← Settings.load dir⟩

/-- The path of the build descriptor. -/
def descriptor (project : Project) : Path :=
  project.dir.join project.settings.descriptor

/-- Write the launch script and report it. Answers where it was written. -/
def writeLaunchScript (project : Project) (platform : Platform) : Attempt Path := do
  let activation ← (LaunchScript.activationScript platform project.settings : Run (Option Path))
  let paths := LaunchScript.Paths.ofProject project.dir project.settings platform activation
  let script ← LaunchScript.write platform paths
  Run.confirm ("Created startup script: " ++ script.text)
  return script

end Project

end Provision
