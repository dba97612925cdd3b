import Provision.Command
import Provision.Disk.Walk
import Provision.Environment.Snapshot
import Provision.Failure

namespace Provision

/-!
# Runs

A run of this program changes a world: files on a disk, the environment of the
process, and what was printed. Commands are answered by a runner, which can be
any function of the command and of the world it is run in, so what holds of
every run holds whatever the commands do; the user's answers are a function of
the world as well. The world keeps the commands of the run in their order.
-/

/-- A warning for developers: a message with values that are named. -/
structure Warning where
  message : String
  /-- Names with their values, in ascending order of names. -/
  fields : List (String × String)
  deriving Repr, DecidableEq

/-- A warning on one line. -/
def Warning.shown (warning : Warning) : String :=
  warning.fields.foldl
    (fun line (name, value) => line ++ " " ++ name ++ "=" ++ value)
    warning.message

/-- What a run can see and change. -/
structure World where
  disk : Disk
  /-- The environment of the process. -/
  environment : Snapshot
  /-- Commands that were run, in order. -/
  calls : List Invocation := []
  /-- What was printed to the standard output. -/
  out : String := ""
  /-- What was printed to the standard error output. -/
  err : String := ""
  warnings : List Warning := []
  /-- How many steps of the file system were asked for. -/
  fileSteps : Nat := 0
  /-- Whether status lines are held back. -/
  quiet : Bool := false

/-- What a command does to the world, and what comes back from it. -/
structure Reply where
  outcome : Except SystemError CommandOutput
  /-- The disk after the command. -/
  disk : Disk
  /-- What the command printed to the user's terminal. -/
  out : String := ""
  err : String := ""

/-- What a run cannot change. -/
structure Machine where
  /-- Answers commands. -/
  runner : World → Invocation → Reply
  /-- The working directory. -/
  directory : Location := []
  /-- The user's home directory, if it is known. -/
  home : Option Path := none
  /-- Whether the process has the rights of the administrator. -/
  elevated : Bool := false
  /-- What the user answers to a question, or why there is no answer. -/
  confirmation : World → Except String Bool := fun _ => .ok true
  /-- Why the system refuses a step of the file system, by the number of the step. -/
  refusal : Nat → Option SystemError := fun _ => none

/-- The path of the working directory. -/
def Machine.workingDirectory (machine : Machine) : Path :=
  Path.ofLocation machine.directory

/-- A part of a run that always comes to its end. -/
abbrev Run := ReaderT Machine (StateM World)

/-- A part of a run that can fail. What it did before it failed stays done. -/
abbrev Attempt := ExceptT Failure Run

namespace Run

/-- Run a command. -/
def command (invocation : Invocation) : Run (Except SystemError CommandOutput) := do
  let reply := (← read).runner (← get) invocation
  modify fun world => { world with
    calls := world.calls ++ [invocation]
    disk := reply.disk
    out := world.out ++ reply.out
    err := world.err ++ reply.err }
  return reply.outcome

/-- Ask the user whether to go on. The question is not kept with what was printed. -/
def confirmation : Run (Except String Bool) := do
  return (← read).confirmation (← get)

/-- Look at the disk from the working directory. -/
def observe (look : Disk → Location → α) : Run α := do
  return look (← get).disk (← read).directory

/-- Whether a path leads to a regular file. -/
def isFile (path : Path) : Run Bool :=
  observe fun disk dir => disk.isFile dir path

/-- Carry out a step of the file system, which changes nothing if it is refused. -/
def fileStep (step : Disk → Location → Except SystemError (α × Disk)) :
    Run (Except SystemError α) := do
  let machine ← read
  let world ← get
  set { world with fileSteps := world.fileSteps + 1 }
  match machine.refusal world.fileSteps with
  | some reason => return .error reason
  | none =>
      match step world.disk machine.directory with
      | .error reason => return .error reason
      | .ok (result, disk) =>
          modify fun world => { world with disk := disk }
          return .ok result

/-- Carry out a step of the file system that reads only. -/
def readStep (look : Disk → Location → Except SystemError α) : Run (Except SystemError α) :=
  fileStep fun disk dir => (look disk dir).map (·, disk)

/-- Carry out a step of the file system that gives back nothing. -/
def writeStep (change : Disk → Location → Except SystemError Disk) :
    Run (Except SystemError Unit) :=
  fileStep fun disk dir => (change disk dir).map ((), ·)

/-- Leave a warning for developers. -/
def warn (warning : Warning) : Run Unit :=
  modify fun world => { world with warnings := world.warnings ++ [warning] }

end Run

namespace Attempt

/-- Fail for a reason that the system gave. -/
def orFail (failure : SystemError → Failure) (step : Run (Except SystemError α)) :
    Attempt α := do
  match ← (step : Run _) with
  | .ok result => return result
  | .error reason => throw (failure reason)

end Attempt

end Provision
