import Provision.Commands.Project
import Provision.Descriptor.Apply
import Provision.Provisioning.Provision

namespace Provision.Commands

/-!
# Setting a project up

The tools are provisioned, the descriptor is patched, and the launch script is
written and run. A descriptor that cannot be patched and a script that ends
badly are reported, but do not fail the command.
-/

/-- Report what was installed and what is still missing. -/
def reportProvisioned (outcome : Provisioned) : Run Unit := do
  if let some resolution := outcome.resolution then
    Run.confirm
      ("Qt " ++ resolution.version.shown ++ " (" ++ resolution.architecture ++
        ") installed with aqt")
  let missing := outcome.statuses.filter fun status => !status.present
  unless missing.isEmpty do
    Run.caution
      ("Still missing: " ++ String.intercalate ", " (missing.map (·.tool.shown)))

/-- Hand the collected changes over to the environment of the process. -/
def adoptChanges (delta : Delta) : Run Unit := do
  unless delta.isEmpty do
    Run.inform ("Updating environment: " ++ String.intercalate ", " delta.names)
  modify fun world => { world with environment := delta.applyTo world.environment }

/-- Patch the descriptor of a project; a failure is reported only. -/
def patchDescriptor (project : Project) : Run Unit := do
  match ← (Descriptor.apply project.descriptor false).run with
  | .ok _ => return ()
  | .error failure =>
      Run.complain
        ("Could not update " ++ project.descriptor.text ++ ": " ++ failure.message)

/-- The command that runs a launch script. -/
def launchCommand (platform : Platform) (script : Path) : Invocation :=
  match platform with
  | .windows => Invocation.onTerminal script.text []
  | .unix => Invocation.onTerminal "bash" [script.text]

/-- Run the launch script; a failure is reported only. -/
def launch (platform : Platform) (script : Path) : Run Unit := do
  match ← Run.command (launchCommand platform script) with
  | .ok output =>
      unless output.succeeded do
        Run.complain ("Script exited with " ++ output.statusText)
  | .error reason =>
      Run.complain ("Error running script: " ++ reason.message)
      Run.inform "Please run the script manually."

/-- Provision the tools in a session of their own. -/
def provisionTools (platform : Platform) (settings : Settings) (assumeYes : Bool) :
    Attempt Provisioned :=
  ExceptT.mk do
    let session : Session :=
      { env := .ofSnapshot (← getThe World).environment, assumeYes := assumeYes }
    return (← (Provisioning.provision platform settings).run.run session).1

/-- Set a project up, and run it unless `noLaunch` is set. -/
def setup (platform : Platform) (given : Option Path) (assumeYes noLaunch : Bool) :
    Attempt Unit := do
  let project ← Project.load given
  let name := project.settings.projectName
  Run.announce ("Setting up dependencies for " ++ name ++ " project...")
  let outcome ← provisionTools platform project.settings assumeYes
  reportProvisioned outcome
  adoptChanges outcome.environment.pending
  patchDescriptor project
  let script ← project.writeLaunchScript platform
  Run.printLine ""
  Run.announce "Setup complete!"
  Run.inform ("To build and run " ++ name ++ ", execute the script: " ++ script.text)
  unless noLaunch do
    Run.printLine ""
    Run.announce ("Starting " ++ name ++ "...")
    launch platform script

end Provision.Commands
