import Provision.Environment.Effective
import Provision.Run.Console
import Provision.Settings

namespace Provision

/-!
# Provisioning sessions

During a session the changes to the environment are collected, and it is known
whether the package lists are up to date. Both outlast a step that fails. A
session asks the user before it goes on without having installed something
itself, unless it was told to assume the answer.
-/

/-- What a session keeps between its steps. -/
structure Session where
  /-- The environment of the process with the changes collected so far. -/
  env : Environment
  /-- Whether questions count as answered with yes, and are not asked. -/
  assumeYes : Bool := false
  /-- Whether the package lists were brought up to date. -/
  listsUpdated : Bool := false

/-- A part of a session that always comes to its end. -/
abbrev SessionRun := StateT Session Run

/-- A part of a session that can fail. -/
abbrev SessionAttempt := ExceptT Failure SessionRun

/-- A part of a run that does not look at the session is a part of the session. -/
def SessionAttempt.ofAttempt (attempt : Attempt α) : SessionAttempt α :=
  ExceptT.mk (liftM attempt.run)

/-- How a part of a session ends; a failure does not end the whole. -/
def SessionAttempt.outcome (attempt : SessionAttempt α) :
    SessionAttempt (Except Failure α) :=
  ExceptT.lift attempt.run

/-- The environment of a session. -/
def SessionRun.env : SessionRun Environment := do
  return (← get).env

/-- Change the environment of a session. -/
def SessionRun.setEnv (env : Environment) : SessionRun Unit :=
  modify fun session => { session with env := env }

/-- Whether the user wants to go on. Nobody is asked if the answer is assumed. -/
def SessionAttempt.goesOn : SessionAttempt Bool := do
  if (← getThe Session).assumeYes then
    return true
  else
    match ← (Run.confirmation : Run (Except String Bool)) with
    | .ok answer => return answer
    | .error reason => throw (.promptFailed reason)

/-- The user's home directory. -/
def Attempt.home : Attempt Path := do
  match (← read).home with
  | some home => return home
  | none => throw .homeUnavailable

/-- Where Qt is installed. -/
def QtSettings.installPath (settings : QtSettings) : Attempt Path := do
  match settings.installDir with
  | some dir => return dir
  | none => return (← Attempt.home).child "Qt"

/-- Where the isolated installer lives. -/
def QtSettings.installerPath (settings : QtSettings) : Attempt Path := do
  match settings.installerDir with
  | some dir => return dir
  | none => return (← Attempt.home).child ".venv-qt-installer"

end Provision
