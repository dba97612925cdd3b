import Provision.Provisioning.Persistence
import Provision.Provisioning.Platform
import Provision.Provisioning.Session
import Provision.Qt.Installed
import Provision.Qt.Resolver
import Provision.Tool
import Provision.Toolchain.Activation

namespace Provision

/-!
# How platforms probe and install

On Unix every tool is looked up on the search path and comes from the package
manager. On Windows the compiler may have to be activated, and the other tools
come from the interpreter's package installer.

## Installers

An installer is a command whose output goes to the user's terminal. One that
cannot be run or ends badly is a failure. Qt is installed through its index:
what to install is resolved first.
-/

/-- Run an installer for a tool. -/
def runInstaller (tool : String) (invocation : Invocation) : Attempt Unit := do
  Run.inform ("Executing command: " ++ invocation.shown)
  let output ←
    Attempt.orFail
      (fun reason => .commandFailed invocation.shown reason.message)
      (Run.command invocation)
  unless output.succeeded do
    throw (.installFailed tool invocation.shown output.statusText)

/-- Resolve and install Qt through an index. -/
def installFromIndex (settings : QtSettings) (index : Qt.Index) : Attempt Qt.Resolution := do
  let resolution ← Qt.resolve index settings
  let dir ← settings.installPath
  Run.announce ("Installing Qt " ++ resolution.version.shown ++ " in " ++ dir.text ++ "...")
  runInstaller Tool.guiRuntime.shown (index.install resolution dir)
  return resolution

/-! ## The tools of a platform -/

/-- Whether Qt of the configured release line is installed. -/
def probeQt (settings : Settings) (env : Environment) : Run ToolStatus := do
  match ← Qt.installedVersion settings.qt.major with
  | none => return .absent .guiRuntime
  | some version =>
      let path ←
        match ← env.find? "qmake6" with
        | some found => pure (some found)
        | none => env.find? "qmake"
      return {
        tool := .guiRuntime
        present := true
        path := path
        detail := some version.shown
      }

namespace Platform

/-- Activate the vendor's toolchain, and say whether it has the compiler. -/
def activateCompiler (settings : Settings) (compiler : String) : SessionRun ToolStatus := do
  Run.inform "Setting up MSVC environment..."
  match ← Toolchain.locate settings.toolchain with
  | none =>
      Run.caution ("Could not find " ++ Toolchain.activationScript)
      return .absent .compiler
  | some installation =>
      Run.inform
        ("Found " ++ Toolchain.activationScript ++ ": " ++ installation.script.text)
      let env ← SessionRun.env
      match ← Toolchain.activate installation.script Toolchain.hostArchitecture
          installation.root compiler env with
      | none => return .absent .compiler
      | some activation =>
          SessionRun.setEnv (env.merge activation.delta)
          return .ofSearch .compiler activation.compiler

/-- Whether the compiler is present. On Windows the search may activate it. -/
def probeCompiler (platform : Platform) (settings : Settings) : SessionRun ToolStatus := do
  let compiler := platform.executable .compiler
  match platform, ← (← SessionRun.env).find? compiler with
  | unix, found => return .ofSearch .compiler found
  | windows, some path => return .found .compiler path
  | windows, none => activateCompiler settings compiler

/-- Whether a tool is present. -/
def probe (platform : Platform) (settings : Settings) (tool : Tool) :
    SessionRun ToolStatus := do
  match tool with
  | .compiler => platform.probeCompiler settings
  | .guiRuntime => probeQt settings (← SessionRun.env)
  | other =>
      return .ofSearch other (← (← SessionRun.env).find? (platform.executable other))

/-- The program of the package manager. -/
def packageManager : String := "apt-get"

/-- Whether the platform has an installer for a tool. -/
def hasInstaller (platform : Platform) (tool : Tool) : SessionRun Bool := do
  match platform, tool with
  | windows, .compiler => return true
  | windows, _ => (← SessionRun.env).finds "pip"
  | unix, _ => (← SessionRun.env).finds packageManager

/-- A command of the package manager. -/
def packageCommand (arguments : List String) : Invocation :=
  Invocation.onTerminal "sudo" (packageManager :: arguments)

/-- Brings the package lists up to date. -/
def updateLists : Invocation :=
  packageCommand ["update"]

/-- Installs packages. -/
def installPackages (packages : List String) : Invocation :=
  packageCommand (["install", "-y"] ++ packages)

/-- Install packages for a tool, after the package lists were updated once. -/
def packageInstall (tool : String) (packages : List String) : SessionAttempt Unit := do
  unless (← get).listsUpdated do
    SessionAttempt.ofAttempt (runInstaller tool updateLists)
    modify fun session => { session with listsUpdated := true }
  SessionAttempt.ofAttempt (runInstaller tool (installPackages packages))

/-- The packages of a tool. -/
def packagesOf : Tool → List String
  | .compiler => ["g++"]
  | .buildGenerator => ["cmake"]
  | .buildRunner => ["ninja-build"]
  | .guiRuntime => ["qt6-base-dev", "qt6-declarative-dev", "qt6-tools-dev-tools"]

/-- Install Qt with the package manager, and say what was installed. -/
def installQtPackages (settings : Settings) : SessionAttempt Unit := do
  Run.inform "Installing Qt 6 via system packages..."
  packageInstall Tool.guiRuntime.shown (packagesOf .guiRuntime)
  match ← Qt.installedVersion settings.qt.major with
  | some version =>
      Run.confirm ("Installed Qt " ++ version.shown ++ " via system packages")
  | none => Run.caution "Qt installation via apt may not have succeeded"

/--
Ask the user to install the compiler, then look for it again. A user who does
not want to go on with it goes on without a compiler.
-/
def guideCompilerInstall (settings : Settings) : SessionAttempt Unit := do
  Run.caution
    "MSVC (Visual Studio) not found. Please install Visual Studio with C++ development tools."
  Run.inform "You can download it from: https://visualstudio.microsoft.com/downloads/"
  Run.inform "Make sure that the 'Desktop development with C++' component is selected"
  if ← SessionAttempt.goesOn then
    unless (← (windows.probeCompiler settings : SessionRun ToolStatus)).present do
      Run.caution "MSVC still not found. The build will fail until it is installed."
  else
    Run.caution "Continuing without a C++ compiler"

/-- A command of the interpreter's package installer. -/
def interpreterInstall (package : String) : Invocation :=
  Invocation.onTerminal "pip" ["install", package]

/-- Install a tool. Answers what was resolved if Qt came from its index. -/
def install (platform : Platform) (settings : Settings) (tool : Tool) :
    SessionAttempt (Option Qt.Resolution) := do
  match platform, tool with
  | unix, .guiRuntime =>
      installQtPackages settings
      return none
  | unix, tool =>
      packageInstall tool.shown (packagesOf tool)
      return none
  | windows, .compiler =>
      guideCompilerInstall settings
      return none
  | windows, .guiRuntime =>
      SessionAttempt.ofAttempt do
        runInstaller Tool.guiRuntime.shown (interpreterInstall "aqtinstall")
        return some (← installFromIndex settings.qt (.onPath windows.host))
  | windows, tool =>
      SessionAttempt.ofAttempt
        (runInstaller tool.shown (interpreterInstall (windows.executable tool)))
      return none

/-- Install what an isolated installer needs. -/
def prepareFallback (platform : Platform) : SessionAttempt Unit := do
  match platform with
  | windows => return ()
  | unix =>
      if ← unix.hasInstaller .guiRuntime then
        packageInstall Tool.guiRuntime.shown ["python3-venv"]

/-- Whether changes may be made for all users. -/
def isElevated : Platform → Run Bool
  | unix => return (← read).elevated
  | windows => do
      match ← Run.command { program := "net", arguments := ["session"] } with
      | .ok output => return output.succeeded
      | .error _ => return false

/-- Make a directory part of the search path of future shells. -/
def persistPath (platform : Platform) (settings : Settings) (env : Environment) (dir : Path) :
    Attempt Unit := do
  match platform with
  | windows =>
      let system ← windows.isElevated
      Persistence.storePath ((env.var? Variable.path.name).getD "") system
      unless system do
        Run.inform
          "Note: added to the user PATH only. Run as administrator to change the system PATH."
  | unix =>
      let profile ←
        if ← unix.isElevated then
          pure (Persistence.systemProfile settings.projectName)
        else do
          pure (Persistence.userProfile (← Attempt.home))
      if ← Persistence.appendIfAbsent profile (Persistence.exportLine dir) then
        Run.inform ("PATH updated in " ++ profile.text)

end Platform

end Provision
