import Provision.Host.Programs.System

namespace Provision.Programs

/-!
# What a program does

A program knows its process, reads and writes through its descriptors, changes
the disk, and may end at any point. What it did before it ended stays done.
-/

/-- A part of what a program does. -/
abbrev Act := ReaderT Process (ExceptT Ending (StateM System))

/--
Starts the program at a path in a process and waits for its end. The first
argument is the name by which the program is called.
-/
abbrev Launcher := Process → Octets → List Octets → StateM System (Except SystemError Ending)

namespace Act

/-- The state of the system. -/
def system : Act System := getThe System

/-- End the program. -/
def finish (ending : Ending) : Act α :=
  throw ending

/-- End the program with a code. -/
def exit (code : Nat) : Act α :=
  finish (.exited code)

/-- Write through a descriptor. -/
def writeTo (descriptor : Nat) (text : Octets) : Act (Except SystemError Unit) := do
  match (← read).descriptor? descriptor with
  | none => return .error .badDescriptor
  | some place =>
      match (← system).write place (Octets.toBytes text) with
      | .ok system =>
          set system
          return .ok ()
      | .error reason => return .error reason

/-- Complain on the standard error output. -/
def complain (message : Octets) : Act Unit := do
  let line := (← read).name ++ ": ".toList ++ message ++ ['\n']
  discard (writeTo 2 line)

/-- Complain, and end the program with a code. -/
def fail (message : Octets) (code : Nat) : Act α := do
  complain message
  exit code

/-- Print on the standard output. A program whose output nobody reads is killed. -/
def print (text : Octets) : Act Unit := do
  unless text.isEmpty do
    match ← writeTo 1 text with
    | .ok () => return ()
    | .error .brokenPipe =>
        if (← read).ignored.contains Signal.pipe then
          fail "write error: Broken pipe".toList 1
        else
          finish (.killed Signal.pipe)
    | .error reason => fail ("write error: " ++ reason.words).toList 1

/-- Print a line on the standard output. -/
def printLine (line : Octets) : Act Unit :=
  print (line ++ ['\n'])

/-- Read everything that is left behind a descriptor. -/
def readDescriptor (descriptor : Nat) : Act (Except SystemError Octets) := do
  match (← read).descriptor? descriptor with
  | none => return .error .badDescriptor
  | some place =>
      match (← system).ahead place with
      | .ok bytes =>
          modify fun system => system.consume place bytes.length
          return .ok (Octets.ofBytes bytes)
      | .error reason => return .error reason

/-- Read a whole file. -/
def readFile (path : Octets) : Act (Except SystemError Octets) := do
  match (← read).openFile (← system) path .reading with
  | .error reason => return .error reason
  | .ok (place, system) =>
      set system
      match system.ahead place with
      | .ok bytes =>
          set (system.consume place bytes.length)
          return .ok (Octets.ofBytes bytes)
      | .error reason => return .error reason

/-- Read a file, or the standard input where the name is a dash. -/
def readOperand (operand : Octets) : Act (Except SystemError Octets) :=
  if operand == ['-'] then readDescriptor 0 else readFile operand

/-- Write a whole file, or add to it. -/
def writeFile (path text : Octets) (opening : Opening) : Act (Except SystemError Unit) := do
  match (← read).openFile (← system) path opening with
  | .error reason => return .error reason
  | .ok (place, system) =>
      match system.write place (Octets.toBytes text) with
      | .ok system =>
          set system
          return .ok ()
      | .error reason =>
          set system
          return .error reason

/-- Look at the disk from the working directory. -/
def observe (look : Disk → Location → α) : Act α := do
  return look (← system).disk (← read).directory

/-- Change the disk, or learn why the change is refused. -/
def change (step : Disk → Location → Except SystemError Disk) : Act (Except SystemError Unit) := do
  match step (← system).disk (← read).directory with
  | .ok disk =>
      modify fun system => { system with disk := disk }
      return .ok ()
  | .error reason => return .error reason

/-- The node at a path, links followed or not. -/
def nodeAt (last : Disk.LastLink) (path : Octets) : Act (Except SystemError Node) :=
  observe fun disk dir => do
    let location ← disk.locate last dir (pathOf path)
    match disk.node? location with
    | some node => .ok node
    | none => .error .notFound

/-- Whether a path leads to a directory. -/
def isDirectory (path : Octets) : Act Bool :=
  observe fun disk dir => disk.isDirectory dir (pathOf path)

/-- The value of a variable of the environment. -/
def variableNamed? (name : String) : Act (Option Octets) := do
  return (← read).variableNamed? name

/-- A number for a new process. -/
def newProcess : Act Nat := do
  let number := (← system).latest + 1
  modify fun system => { system with latest := number }
  return number

/-- Start the program at a path and wait for its end. -/
def launch (launcher : Launcher) (process : Process) (path : Octets) (arguments : List Octets) :
    Act (Except SystemError Ending) := do
  let number ← newProcess
  let process := { process with number := number, parent := (← read).number }
  return ← (launcher process path arguments : StateM System _)

end Act

/-- A program that every system has: what it does with its arguments, and its exit code. -/
abbrev Utility := Launcher → List Octets → Act Nat

/-- Run a utility in a process. -/
def Utility.start (utility : Utility) (launcher : Launcher) (process : Process)
    (arguments : List Octets) : StateM System Ending := do
  match ← ((utility launcher arguments).run process).run with
  | .ok code => return .exited code
  | .error ending => return ending

end Provision.Programs
