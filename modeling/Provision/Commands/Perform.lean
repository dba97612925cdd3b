import Provision.CommandLine.Request
import Provision.Commands.Check
import Provision.Commands.Resolve
import Provision.Commands.Setup
import Provision.Commands.Version

namespace Provision.Commands

/-!
# Performing requests

Every request of a command line is performed as one attempt, whose failure is
the failure of the program.
-/

/-- Patch the descriptor of a project; a dry run shows the text instead. -/
def patch (given : Option Path) (dryRun : Bool) : Attempt Unit := do
  let project ← Project.load given
  let patched ← Descriptor.apply project.descriptor dryRun
  if dryRun && patched.outcome == .patched then
    Run.printLine ""
    Run.print (String.ofList patched.text)

/-- Write the launch script of a project. -/
def script (platform : Platform) (given : Option Path) : Attempt Unit := do
  let project ← Project.load given
  let _ ← project.writeLaunchScript platform
  return ()

/--
Perform a request. A request for completions changes nothing: their text is left
to the shells.
-/
def perform (platform : Platform) (request : CommandLine.Request) : Attempt Unit :=
  let given := request.project
  match request.command with
  | .setup assumeYes noLaunch => setup platform given assumeYes noLaunch
  | .check => check platform given
  | .resolve json => resolve platform given json
  | .patch dryRun => patch given dryRun
  | .script => script platform given
  | .version => version platform
  | .completions _ => return ()

end Provision.Commands
