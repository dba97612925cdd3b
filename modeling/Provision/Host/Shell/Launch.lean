import Provision.Host.Programs.Program
import Provision.Host.Shell.Session

namespace Provision.Shell

open Programs

/-!
# Subshells and programs

A subshell is the shell once more: it starts from the same situation, and only
what it did to the system remains. Commands in the background wait until the
shell waits for them, sleeps or ends.
-/

namespace Sh

/-- A number for a new process. -/
def newProcess : Sh Nat := do
  let state ← get
  let number := state.system.latest + 1
  set { state with system := { state.system with latest := number } }
  return number

/-- The traps that a subshell keeps: those that ignore signals. -/
def keptTraps (traps : List (TrapEvent × Octets)) : List (TrapEvent × Octets) :=
  traps.filter fun entry => entry.2.isEmpty && entry.1 != .exit

/-- The signals that programs of the shell ignore. -/
def ignoredSignals (traps : List (TrapEvent × Octets)) : List Signal :=
  traps.filterMap fun
    | (.signal signal, []) => some signal
    | _ => none

/-- Run the commands in the background that wait. -/
def runJobs (engine : Engine) : (fuel : Nat) → Sh Unit
  | 0 => return ()
  | fuel + 1 => do
      match (← get).jobs.find? fun job => job.waiting.isSome with
      | none => return ()
      | some job =>
          match job.waiting with
          | none => return ()
          | some (situation, command) =>
              let outer ← get
              set { outer with
                toSituation := situation
                jobs := []
                pending := [] }
              let answer ← catching (engine.run true command)
              let ending ← ending engine answer
              runJobs engine fuel
              let system := (← get).system
              let done : Job := { job with waiting := none, ending := ending }
              let jobs := outer.jobs.map fun other =>
                if other.number == job.number then done else other
              set { outer with system := system, jobs := jobs }
              runJobs engine fuel

/-- How many commands in the background are run at most. -/
def jobLimit : Nat := 1000

/-- Run all commands in the background. -/
def finishJobs (engine : Engine) : Sh Unit := do
  runJobs engine jobLimit

/-- Report a process that a signal ended. -/
def reportEnding (ending : Ending) : Sh Unit := do
  match ending with
  | .exited _ => return ()
  | .killed signal =>
      if signal != 2 && signal != Signal.pipe then
        match ← dialect with
        | .dash => discard (writeTo 2 (Signal.words signal ++ ['\n']))
        | .bash =>
            let start ← withoutBuiltin complaintStart
            let number := decimal ((← get).system.latest : Int)
            discard (writeTo 2 (start ++ number ++ [' '] ++ Signal.words signal ++ ['\n']))

/-- Run a step in a subshell. Answers how the subshell ended. -/
def inSubshell (engine : Engine) (step : Sh Unit) : Sh Ending := do
  let outer ← get
  let number ← newProcess
  modify fun state => { state with
    process := { state.process with number := number, parent := outer.process.number }
    traps := keptTraps state.traps
    outerTraps := state.traps ++ state.outerTraps
    jobs := []
    pending := []
    level := state.level + 1 }
  let answer ← catching step
  let ending ← ending engine answer
  finishJobs engine
  let inner ← get
  set { outer with system := inner.system, nextText := inner.nextText }
  return ending

/-- Note how a process ended that the shell waited for. -/
def noteEnding (ending : Ending) : Sh Unit := do
  reportEnding ending
  setStatus ending.status
  receiveSent

/-- Run a command in a subshell and take over its status. -/
def runSubshell (engine : Engine) (step : Sh Unit) : Sh Unit := do
  noteEnding (← inSubshell engine step)

/-- Drop the line ends behind a text. -/
def dropLineEnds (text : Octets) : Octets :=
  (text.reverse.dropWhile (· == '\n')).reverse

/-- What a step prints in a subshell. -/
def outputOf (engine : Engine) (step : Sh Unit) : Sh Octets := do
  let before ← get
  let (reading, writing, system) := before.system.openPipe []
  set { before with system := system }
  let bash ← isBash
  let ending ← inSubshell engine do
    setDescriptor 1 (some writing)
    modify fun state => { state with tested := false, depth := state.depth + 1 }
    if bash then
      modify fun state => { state with flags := state.flags.filter (· != 'e') }
    step
  modify fun state => { state with
    substituted := some ending.status
    status := if bash then ending.status else state.status }
  if !bash then
    reportEnding ending
  receiveSent
  match (← get).system.ahead reading with
  | .ok bytes =>
      return dropLineEnds ((Octets.ofBytes bytes).filter (· != '\x00'))
  | .error _ => return []

/-- A file name that stands for a command that is read or written. -/
def channelOf (engine : Engine) (reads : Bool) (command : Command) : Sh Octets := do
  let before ← get
  let (reading, writing, system) := before.system.openPipe []
  let used := system.opened.size
  set { before with system := system }
  let number := 63 - used % 32
  if reads then
    discard (inSubshell engine do
      setDescriptor 1 (some writing)
      engine.run true command)
    setDescriptor number (some reading)
  else
    let situation := (← get).toSituation
    let process := situation.process.setDescriptor 0 (some reading)
    let job : Job := {
      number := ← newProcess
      waiting := some ({ situation with process := process }, command)
      hidden := true }
    modify fun state => { state with jobs := state.jobs ++ [job] }
    setDescriptor number (some writing)
  return "/dev/fd/".toList ++ decimal number

/-- How substituted commands are run. -/
def substitution (engine : Engine) : Substitution where
  output command := outputOf engine (engine.run true command)
  lateOutput source := do
    let line := max 1 (← get).line
    outputOf engine (runText engine true .substituted line source)
  channel := channelOf engine

/-- Start a command in the background. -/
def startJob (command : Command) : Sh Unit := do
  let number ← newProcess
  let state ← get
  let situation := state.toSituation
  let (nothing, system) := state.system.addOpen { channel := .device .null, reads := true }
  let process := { situation.process.setDescriptor 0 (some nothing) with
    number := number
    parent := state.process.number }
  let job : Job := {
    number := number
    waiting := some ({ situation with
      process := process
      traps := keptTraps situation.traps
      tested := false
      loops := 0
      level := situation.level + 1 }, command) }
  set { state with
    system := system
    jobs := state.jobs ++ [job]
    background := some number
    status := 0 }

/-- The entries of the search path. -/
def searchEntries : Sh (List Octets) := do
  return Text.splitOn ':' ((← setting? "PATH").getD [])

/-- The files that a name may mean, each in an entry of the search path. -/
def candidates (name : Octets) : Sh (List Octets) := do
  if isPathName name then
    return [name]
  else
    let bash ← isBash
    let place (entry : Octets) : Octets :=
      if bash then inWrittenEntry entry name else inEntry entry name
    return (← searchEntries).map place

/-- Whether a path leads to a file that may be run. -/
def isRunnable (path : Octets) : Sh Bool := do
  let state ← get
  return state.system.disk.isProgram state.process.directory (pathOf path)

/-- The path of the program that a name calls, if there is one. -/
def programPath? (name : Octets) : Sh (Option Octets) := do
  for path in ← candidates name do
    if ← isRunnable path then
      return some path
  return none

/-- Remember where a program was found, and that it is run `uses` more times. -/
def remember (name path : Octets) (uses : Nat) : Sh Unit := do
  unless isPathName name do
    modify fun state =>
      let before := ((state.known.lookup name).map Remembered.uses).getD 0
      { state with known := setEntry name ⟨path, before + uses⟩ state.known }

/-- Start the program at a path in a process; a file without an interpreter is a script. -/
def startAt (engine : Engine) (process : Process) (path : Octets) (arguments : List Octets) :
    Sh (Except SystemError Ending) := do
  let start (path : Octets) (arguments : List Octets) : Sh (Except SystemError Ending) := do
    let state ← get
    let (answer, system) := (engine.launcher process path arguments).run state.system
    set { state with system := system }
    return answer
  match ← start path arguments with
  | .error .notAProgram =>
      let shell := if ← isBash then "/bin/bash".toList else "/bin/sh".toList
      start shell (shell :: path :: arguments.drop 1)
  | answer => return answer

/-- Start the first program that a name may mean. -/
def startFirst (engine : Engine) (process : Process) (arguments : List Octets) :
    (refusal : SystemError) → List Octets → Sh (Except (Octets × SystemError) Ending)
  | refusal, [] => return .error (arguments.head?.getD [], refusal)
  | refusal, path :: rest => do
      match ← startAt engine process path arguments with
      | .ok ending => return .ok ending
      | .error reason =>
          let missing := reason == .notFound || reason == .notADirectory
          let bash ← isBash
          let state ← get
          let there := state.system.disk.isFile state.process.directory (pathOf path)
          if bash && there then
            return .error (path, reason)
          else
            startFirst engine process arguments (if missing || bash then refusal else reason) rest

/-- The process in which a program is started. -/
def childProcess (exits : Bool) (name : Octets) : Sh Process := do
  let state ← get
  let number ← if exits then pure state.process.number else newProcess
  let parent := if exits then state.process.parent else state.process.number
  return { state.process with
    number := number
    parent := parent
    name := name
    environment := ← environment
    ignored := state.process.ignored ++ ignoredSignals state.traps }

/-- Complain that a program cannot be run. Answers the status for that. -/
def refuseProgram (name path : Octets) (reason : SystemError) : Sh Nat := do
  let missing := reason == .notFound || reason == .notADirectory
  match ← dialect with
  | .dash =>
      let words := if missing then "not found".toList else reason.words.toList
      complain (name ++ ": ".toList ++ words)
      let isMissing :=
        missing || reason == .tooManyLinks || reason == .nameTooLong || !isPathName name
      return if isMissing then 127 else 126
  | .bash =>
      let state ← get
      let here := state.process.directory
      let isFile := state.system.disk.isFile here (pathOf path)
      let isFile := isFile && isPathName path
      if isFile && reason == .notFound then
        complain (path ++ ": cannot execute: required file not found".toList)
        return 127
      else if isFile then
        complain (path ++ ": ".toList ++ reason.words.toList)
        return 126
      else if !isPathName name then
        let searches := ((← setting? "PATH").getD []) != []
        let words := if searches then "command not found".toList else reason.words.toList
        complain (name ++ ": ".toList ++ words)
        return 127
      else if state.system.disk.isDirectory here (pathOf path) then
        complain (name ++ ": Is a directory".toList)
        return 126
      else
        complain (name ++ ": ".toList ++ reason.words.toList)
        return if reason == .notFound then 127 else 126

/-- Run a program; the shell may become the program. -/
def runProgram (engine : Engine) (exits : Bool) (arguments : List Octets) : Sh Unit := do
  let name := arguments.head?.getD []
  if name == "sleep".toList then
    finishJobs engine
  let state ← get
  let exits := exits && state.traps.all (fun entry => entry.2.isEmpty) && state.jobs.isEmpty
  let process ← childProcess exits name
  let lengths := Disk.nameLimit < name.length && !isPathName name
  let paths ← if lengths then pure [] else candidates name
  match ← programPath? name with
  | some path => remember name path 1
  | none => pure ()
  match ← startFirst engine process arguments .notFound paths with
  | .ok ending =>
      if exits then
        match ending with
        | .exited code => jump (.exit code)
        | .killed signal => jump (.killed signal)
      else
        noteEnding ending
  | .error (path, reason) =>
      setStatus (← refuseProgram name path reason)

end Sh

end Provision.Shell
