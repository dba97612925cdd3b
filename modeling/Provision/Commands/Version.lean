import Provision.Provisioning.Platform
import Provision.Run.Console
import Provision.Settings

namespace Provision.Commands

/-!
# Version of the program

The report names the release, how it was built, and what it would use without
any settings.
-/

/-- What is known about a build of the program. -/
structure Build where
  release : String := "0.3.0"
  minimumCompiler : String := "1.85"
  target : String := "linux-x86_64"
  profile : String := "debug"
  deriving Repr, DecidableEq

/-- The lines of the version report. -/
def versionLines (platform : Platform) (build : Build) (qt : QtSettings) : List String := [
  "netter-setup " ++ build.release,
  "",
  "Build info:",
  "  Minimum Rust version: " ++ build.minimumCompiler,
  "  Target: " ++ build.target,
  "  Profile: " ++ build.profile,
  "  Provisioning strategy: " ++ platform.name,
  "  Qt release line: " ++ toString qt.major ++ " (fallback " ++ qt.fallbackVersion ++ ")"
]

/-- Report the version. -/
def version (platform : Platform) : Run Unit := do
  for line in versionLines platform {} {} do
    Run.printLine line

end Provision.Commands
