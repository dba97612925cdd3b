import Provision.Commands.Project
import Provision.Provisioning.Plan

namespace Provision.Commands

/-!
# Checking the tools

Every tool is probed and nothing is installed. One line for each tool says
where it was found, or what would be done about it.
-/

/-- How wide the column of tool names is. -/
def toolColumn : Nat := 14

/-- A text filled up with blanks to a width. -/
def padded (width : Nat) (text : String) : String :=
  text ++ String.ofList (List.replicate (width - text.length) ' ')

/-- Where a tool was found, or what would be done about it. -/
def whereabouts (step : PlanStep) : String :=
  match step.status.path, step.action with
  | some path, _ => " (" ++ path.text ++ ")"
  | none, .skip => ""
  | none, action => " [" ++ action.shown ++ "]"

/-- The line of a tool. -/
def statusLine (step : PlanStep) : String :=
  let mark := if step.status.present then "✓" else "✗"
  let detail := (step.status.detail.map (" " ++ ·)).getD ""
  "  " ++ mark ++ " " ++ padded toolColumn step.tool.shown ++ detail ++ whereabouts step

/-- The last line: how many tools are missing. -/
def verdict (pending : Nat) : String :=
  if pending = 0 then
    "Everything is installed."
  else
    toString pending ++ " tool(s) missing. Run `netter-setup setup` to install them."

/-- Probe every tool and report what would be done. -/
def check (platform : Platform) (given : Option Path) : Attempt Unit := do
  let project ← Project.load given
  let session : Session := { env := .ofSnapshot (← getThe World).environment }
  let (plan, _) ← ((InstallPlan.build platform project.settings).run session : Run _)
  Run.printLine ("Toolchain status (" ++ platform.name ++ ")")
  for step in plan do
    Run.printLine (statusLine step)
  Run.printLine ""
  Run.printLine (verdict (InstallPlan.pending plan))

end Provision.Commands
