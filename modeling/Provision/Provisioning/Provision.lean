import Provision.Provisioning.Plan

namespace Provision

/-!
# Provisioning

The plan is carried out tool by tool. An install that fails ends the run, except
for Qt: it is then installed from its index with an isolated installer. The
directory of an installed Qt goes on the search path, now and for future shells.
-/

/-- What a provisioning run leaves. -/
structure Provisioned where
  /-- The status of every tool, in the order of installation. -/
  statuses : List ToolStatus
  /-- What was resolved, if Qt was installed from its index. -/
  resolution : Option Qt.Resolution
  /-- The environment with all changes. -/
  environment : Environment

namespace Provisioning

/-- A failure of the second way of installing Qt. -/
def isolatedFailure (failure : Failure) : Failure :=
  .fallbackFailed Tool.guiRuntime.shown failure.message

/-- Any failure becomes one of the second way of installing Qt. -/
def orIsolatedFailure (attempt : SessionAttempt α) : SessionAttempt α :=
  ExceptT.mk do
    return (← attempt.run).mapError isolatedFailure

/-- Creates the environment of an isolated installer. -/
def createInstaller (platform : Platform) (dir : Path) : Invocation :=
  Invocation.onTerminal platform.python ["-m", "venv", dir.text]

/-- Installs the program of the index into an isolated environment. -/
def equipInstaller (programs : Path) : Invocation :=
  Invocation.onTerminal (programs.child "pip").text ["install", "aqtinstall"]

/-- Install Qt from its index with an isolated installer. -/
def installIsolated (platform : Platform) (settings : Settings) :
    SessionAttempt Qt.Resolution := do
  Run.announce "Creating a virtual environment for aqtinstall..."
  orIsolatedFailure platform.prepareFallback
  let dir ← SessionAttempt.ofAttempt settings.qt.installerPath
  let programs := dir.child platform.scriptsDir
  let tool := Tool.guiRuntime.shown
  orIsolatedFailure <| SessionAttempt.ofAttempt do
    runInstaller tool (createInstaller platform dir)
    runInstaller tool (equipInstaller programs)
    installFromIndex settings.qt (.atPath (programs.child "aqt") platform.host)

/-- Put the programs of an installed Qt on the search path, now and later. -/
def registerQt (platform : Platform) (settings : Settings) (resolution : Qt.Resolution) :
    SessionAttempt Path := do
  let installDir ← SessionAttempt.ofAttempt settings.qt.installPath
  let bin := Qt.binDir installDir resolution
  let env ← (← SessionRun.env).extendPath .back bin
  SessionRun.setEnv env
  Run.inform "Adding Qt to PATH..."
  match ← (SessionAttempt.ofAttempt (platform.persistPath settings env bin)).outcome with
  | .ok () => pure ()
  | .error failure =>
      Run.caution
        ("Could not persist PATH (" ++ failure.message ++ "). Add " ++ bin.text ++
          " to PATH manually.")
  return bin

/--
Install a tool in the way that its step says. Qt has a second way for when the
first one fails.
-/
def installTool (platform : Platform) (settings : Settings) (step : PlanStep) :
    SessionAttempt (Option Qt.Resolution) := do
  match step.action, step.tool with
  | .installIsolated, _ => return some (← installIsolated platform settings)
  | _, .guiRuntime =>
      match ← (platform.install settings .guiRuntime).outcome with
      | .ok resolution => return resolution
      | .error failure =>
          Run.complain ("Installing Qt failed: " ++ failure.message)
          return some (← installIsolated platform settings)
  | _, tool => platform.install settings tool

/-- The status of a tool after it was installed. -/
def statusAfterInstall
    (platform : Platform)
    (settings : Settings)
    (tool : Tool) :
    Option Qt.Resolution → SessionAttempt ToolStatus
  | some resolution => do
      let bin ← registerQt platform settings resolution
      return { ToolStatus.found tool bin with detail := some resolution.version.shown }
  | none => do
      let status ← platform.probe settings tool
      unless status.present do
        Run.caution (tool.shown ++ " is still not reachable through PATH after installing")
      return status

/-- Report a tool that is present. -/
def reportPresent (status : ToolStatus) : Run Unit :=
  match status.detail with
  | some detail => Run.confirm (status.tool.shown ++ " " ++ detail ++ " found!")
  | none => Run.confirm (status.tool.shown ++ " found!")

/-- Carry out one step of a plan. -/
def carryOut (platform : Platform) (settings : Settings) (step : PlanStep) :
    SessionAttempt (ToolStatus × Option Qt.Resolution) := do
  match step.action with
  | .skip =>
      reportPresent step.status
      return (step.status, none)
  | _ =>
      Run.announce (step.tool.shown ++ " not found, installing...")
      let resolution ← installTool platform settings step
      let status ← statusAfterInstall platform settings step.tool resolution
      return (status, resolution)

/-- Probe every tool and install what is missing. -/
def provision (platform : Platform) (settings : Settings) : SessionAttempt Provisioned := do
  Run.announce ("Checking dependencies for " ++ platform.name ++ "...")
  let plan ← InstallPlan.build platform settings
  let results ← plan.mapM (carryOut platform settings)
  return {
    statuses := results.map Prod.fst
    resolution := (results.filterMap Prod.snd).getLast?
    environment := ← SessionRun.env
  }

end Provisioning

end Provision
