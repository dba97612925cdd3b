import Provision.Run.Basic
import Provision.Host.Shell.Start
import Provision.Host.Utilities.Table

namespace Provision.Programs

/-!
# Running processes

A runner that starts programs from the disk of the world. A program is found on
the search path of the process. Its output is collected, or goes to the user's
terminal.
-/

/-- Run a machine program in a process. A program that nothing is known of fails. -/
def runMachine (launcher : Launcher) (name : String) (process : Process)
    (arguments : List Octets) : StateM System Ending :=
  match name with
  | "dash" => Shell.start .dash launcher process arguments
  | "bash" => Shell.start .bash launcher process arguments
  | name =>
      match Utilities.utility? name with
      | some utility => utility.start launcher process arguments
      | none => return .exited 1

/-- How a process ends that the system cannot start because too many wait for each other. -/
def overloaded : SystemError :=
  .other "Resource temporarily unavailable"

/-- A launcher of programs that start each other only so deep. -/
def launcherOf : (depth : Nat) → Launcher
  | 0, _, _, _ => return .error overloaded
  | depth + 1, process, path, words => do
      match resolve (← get).disk process.directory interpreterLimit path words with
      | .error reason => return .error reason
      | .ok (name, words) =>
          let process := { process with name := words.head?.getD [] }
          return .ok (← runMachine (launcherOf depth) name process (words.drop 1))

/-- How deep programs may start each other. -/
def depthLimit : Nat := 400

/-- Whether a command can be handed to the system, which ends texts with a NUL. -/
def isSpeakable (invocation : Invocation) : Bool :=
  (invocation.program :: invocation.arguments).all fun word => !word.toList.contains '\x00'

/-- What a finished process leaves behind. -/
structure Finished where
  ending : Ending
  disk : Disk
  out : Bytes
  err : Bytes
  deriving Repr, DecidableEq

/-- Files that are open when a process starts: no input, and two pipes for its outputs. -/
def initialSystem (disk : Disk) : System where
  disk := disk
  opened := #[
    { channel := .device .null, reads := true },
    { channel := .pipe 0, writes := true },
    { channel := .pipe 1, writes := true }]
  pipes := #[{ room := 1000000000 }, { room := 1000000000 }]

/-- The process in which a program starts. -/
def initialProcess (dir : Location) (environment : Snapshot) (name : Octets) : Process where
  number := 4711
  parent := 4000
  name := name
  descriptors := [(0, 0), (1, 1), (2, 2)]
  directory := dir
  environment := environment.entries.map fun entry =>
    (Octets.ofString entry.1, Octets.ofString entry.2)

/-- What was written to a pipe of a system. -/
def writtenTo (system : System) (pipe : Nat) : Bytes :=
  (system.pipes[pipe]?.map Pipe.contents).getD []

/-- Start the program of a command and wait for its end. -/
def start (dir : Location) (world : World) (invocation : Invocation) :
    Except SystemError Finished := do
  unless isSpeakable invocation do
    .error .holdsNul
  let name := Octets.ofString invocation.program
  let searchPath := (world.environment.named? "PATH").map Octets.ofString
  let path ← search world.disk dir searchPath name
  let words := name :: invocation.arguments.map Octets.ofString
  let process := initialProcess dir world.environment name
  let (answer, system) := (launcherOf depthLimit process path words).run (initialSystem world.disk)
  return {
    ending := ← answer
    disk := system.disk
    out := writtenTo system 0
    err := writtenTo system 1 }

/-- The exit code of a process that ended. -/
def Ending.code? : Ending → Option Int
  | .exited code => some code
  | .killed _ => none

/-- The text of what a process wrote. -/
def shownText (written : Bytes) : String :=
  String.ofList (Utf8.decodeLossy written)

/-- The runner that starts programs. -/
def runner (dir : Location) (world : World) (invocation : Invocation) : Reply :=
  match start dir world invocation with
  | .error reason => { outcome := .error reason, disk := world.disk }
  | .ok finished =>
      let out := shownText finished.out
      let err := shownText finished.err
      let code := finished.ending.code?
      match invocation.capture with
      | .collected => { outcome := .ok (.ofProcess code out err), disk := finished.disk }
      | .shown =>
          { outcome := .ok (.ofProcess code "" ""), disk := finished.disk, out := out, err := err }

end Provision.Programs
