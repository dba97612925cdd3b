import Provision.Provisioning.Strategy

namespace Provision

/-!
# Install plans

Every tool is probed once, in the order of installation, and the probe decides
what is done about the tool.
-/

/-- What is done about a tool. -/
inductive InstallAction where
  | skip
  /-- Install with the installer of the platform. -/
  | install
  /-- Install from the index with an isolated installer. -/
  | installIsolated
  deriving Repr, DecidableEq

/-- How users know an action. -/
def InstallAction.shown : InstallAction → String
  | skip => "present"
  | install => "install"
  | installIsolated => "install (fallback)"

/-- A tool with what is done about it. -/
structure PlanStep where
  tool : Tool
  action : InstallAction
  /-- What the action was decided from. -/
  status : ToolStatus
  deriving Repr, DecidableEq

namespace InstallPlan

/-- Decide what is done about a tool, from its status. -/
def decide (platform : Platform) (status : ToolStatus) (tool : Tool) :
    SessionRun InstallAction := do
  if status.present then
    return .skip
  else if tool != .guiRuntime then
    return .install
  else if ← platform.hasInstaller tool then
    return .install
  else
    return .installIsolated

/-- Probe a tool and decide what is done about it. -/
def step (platform : Platform) (settings : Settings) (tool : Tool) : SessionRun PlanStep := do
  let status ← platform.probe settings tool
  let action ← decide platform status tool
  return ⟨tool, action, status⟩

/-- The plan for every tool. -/
def build (platform : Platform) (settings : Settings) : SessionRun (List PlanStep) :=
  Tool.all.mapM (step platform settings)

/-- How many tools of a plan are missing. -/
def pending (plan : List PlanStep) : Nat :=
  plan.countP (·.action != .skip)

end InstallPlan

end Provision
