import Provision.Disk.Files
import Provision.LaunchScript.Batch
import Provision.LaunchScript.Shell

namespace Provision.LaunchScript

/-!
# Writing launch scripts

The launch script goes into the project directory and can be run at once.
-/

/-- The text of the launch script of a platform. -/
def text (platform : Platform) (paths : Paths) : String :=
  match platform with
  | .windows => Batch.text paths
  | .unix => Shell.text paths

/-- Permission bits of a program. -/
def programMode : Nat := 0o755

/-- Write the launch script. Answers where it was written. -/
def write (platform : Platform) (paths : Paths) : Attempt Path := do
  let path := paths.projectDir.child (fileName platform)
  let unwritable (reason : SystemError) : Failure :=
    .fileUnwritable path.text reason.message
  Attempt.orFail unwritable <| Run.writeStep fun disk dir =>
    disk.write dir path (Utf8.encode (text platform paths).toList)
  Attempt.orFail unwritable <| Run.writeStep fun disk dir =>
    disk.setMode dir path programMode
  return path

/-- The script that activates the vendor's toolchain, where a platform has one. -/
def activationScript (platform : Platform) (settings : Settings) : Run (Option Path) := do
  match platform with
  | .unix => return none
  | .windows =>
      return (← Toolchain.locate settings.toolchain).map Toolchain.Installation.script

end Provision.LaunchScript
