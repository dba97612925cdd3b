import Provision.Encoding.Octets
import Provision.Host.Installed

namespace Provision.Programs

/-!
# Open files and processes

A process sees files through numbered descriptors. Several descriptors, also of
several processes, may share one open file, and then they share its place in
the file. Processes run one after the other, so a pipe holds what was written
to it until it is read.
-/

/-!
## Signals and endings

A signal is told by its number. A process ends by itself, with a code, or a
signal ends it.
-/

/-- A signal, by its number. -/
abbrev Signal := Nat

namespace Signal

/-- Names of signals, with the words in which an ended process is reported. -/
def table : List (Signal × String × String) := [
  (1, "HUP", "Hangup"),
  (2, "INT", "Interrupt"),
  (3, "QUIT", "Quit"),
  (4, "ILL", "Illegal instruction"),
  (5, "TRAP", "Trace/breakpoint trap"),
  (6, "ABRT", "Aborted"),
  (7, "BUS", "Bus error"),
  (8, "FPE", "Floating point exception"),
  (9, "KILL", "Killed"),
  (10, "USR1", "User defined signal 1"),
  (11, "SEGV", "Segmentation fault"),
  (12, "USR2", "User defined signal 2"),
  (13, "PIPE", "Broken pipe"),
  (14, "ALRM", "Alarm clock"),
  (15, "TERM", "Terminated"),
  (16, "STKFLT", "Stack fault"),
  (17, "CHLD", "Child exited"),
  (18, "CONT", "Continued"),
  (19, "STOP", "Stopped (signal)"),
  (20, "TSTP", "Stopped"),
  (21, "TTIN", "Stopped (tty input)"),
  (22, "TTOU", "Stopped (tty output)"),
  (23, "URG", "Urgent I/O condition"),
  (24, "XCPU", "CPU time limit exceeded"),
  (25, "XFSZ", "File size limit exceeded"),
  (26, "VTALRM", "Virtual timer expired"),
  (27, "PROF", "Profiling timer expired"),
  (28, "WINCH", "Window changed"),
  (29, "POLL", "I/O possible"),
  (30, "PWR", "Power failure"),
  (31, "SYS", "Bad system call")
]

/-- The signal that ends a process in any case. -/
def kill : Signal := 9

/-- The signal that ends a process which writes what nobody reads. -/
def pipe : Signal := 13

/-- The signal that asks a process to end. -/
def terminate : Signal := 15

/-- The name of a signal. -/
def name? (signal : Signal) : Option Octets :=
  (table.lookup signal).map fun entry => entry.1.toList

/-- The words in which a process is reported that a signal ended. -/
def words (signal : Signal) : Octets :=
  match table.lookup signal with
  | some (_, words) => words.toList
  | none => ("Unknown signal " ++ toString signal).toList

/-- The signal that a name calls, in capitals and without a prefix. -/
def ofName? (name : Octets) : Option Signal :=
  (table.find? fun entry => entry.2.1.toList == name).map Prod.fst

/-- Signals that do nothing to a process which does not care for them. -/
def harmless : List Signal := [17, 18, 19, 20, 21, 22, 23, 28]

end Signal

/-- How a process ended. -/
inductive Ending where
  | exited (code : Nat)
  /-- A signal ended the process. -/
  | killed (signal : Signal)
  deriving Repr, DecidableEq

/-- The status that a shell sees of a process that ended. -/
def Ending.status : Ending → Nat
  | exited code => code
  | killed signal => 128 + signal

/-! ## Channels and descriptors -/

/-- What an open file leads to. -/
inductive Channel where
  | file (location : Location)
  | directory (location : Location)
  | device (device : Device)
  | pipe (number : Nat)
  deriving Repr, DecidableEq

/-- A file that was opened. -/
structure OpenFile where
  channel : Channel
  /-- Where the next byte is read or written. -/
  offset : Nat := 0
  /-- Whether everything is written behind what is there. -/
  appends : Bool := false
  reads : Bool := false
  writes : Bool := false
  deriving Repr, DecidableEq

/-- How many writes a pipe takes while nobody reads. -/
def pipeRoom : Nat := 20000

/-- What was written to a pipe and not yet read. -/
structure Pipe where
  waiting : Bytes := []
  /-- What was written since the last read, the latest first. -/
  written : List Bytes := []
  room : Nat := pipeRoom
  deriving Repr, DecidableEq

namespace Pipe

/-- Everything that waits in a pipe. -/
def contents (pipe : Pipe) : Bytes :=
  pipe.waiting ++ pipe.written.reverse.flatten

/-- The pipe after some bytes were written. -/
def add (pipe : Pipe) (bytes : Bytes) : Pipe :=
  { pipe with written := bytes :: pipe.written, room := pipe.room - 1 }

/-- The pipe with other contents. -/
def holding (bytes : Bytes) : Pipe where
  waiting := bytes

end Pipe

/-- What all processes share. -/
structure System where
  disk : Disk
  opened : Array OpenFile := #[]
  pipes : Array Pipe := #[]
  /-- The number of the latest process. -/
  latest : Nat := 4711
  /-- Signals that were sent and not yet taken, with the processes they were sent to. -/
  sent : List (Nat × Signal) := []

/-- A process. -/
structure Process where
  number : Nat
  parent : Nat
  /-- The name by which the program was called. -/
  name : Octets
  /-- Descriptors with the open files they stand for. -/
  descriptors : List (Nat × Nat)
  directory : Location
  environment : List (Octets × Octets)
  /-- Permission bits that new files do not get. -/
  mask : Nat := 0o022
  /-- Signals that do nothing to the process. -/
  ignored : List Signal := []

/-- The path that octets write. -/
def pathOf (octets : Octets) : Path :=
  ⟨Octets.toBytes octets⟩

/-- A path as octets. -/
def octetsOf (path : Path) : Octets :=
  Octets.ofBytes path.bytes

/-- The name that octets write. -/
def nameOf (octets : Octets) : FileName :=
  ⟨Octets.toBytes octets⟩

/-- A name as octets. -/
def nameOctets (name : FileName) : Octets :=
  Octets.ofBytes name.bytes

/-- How a file is opened. -/
inductive Opening where
  | reading
  /-- What the file held is lost. -/
  | writing
  | adding
  | updating
  deriving Repr, DecidableEq

namespace Opening

/-- Whether the file is read. -/
def reads : Opening → Bool
  | reading | updating => true
  | writing | adding => false

/-- Whether the file is written. -/
def writes : Opening → Bool
  | reading => false
  | writing | adding | updating => true

end Opening

namespace System

/-- Add an open file. Answers its place. -/
def addOpen (system : System) (file : OpenFile) : Nat × System :=
  (system.opened.size, { system with opened := system.opened.push file })

/-- Open a new pipe. Answers the ends for reading and for writing. -/
def openPipe (system : System) (contents : Bytes) : Nat × Nat × System :=
  let channel := Channel.pipe system.pipes.size
  let system := { system with pipes := system.pipes.push (.holding contents) }
  let (reading, system) := system.addOpen { channel := channel, reads := true }
  let (writing, system) := system.addOpen { channel := channel, writes := true }
  (reading, writing, system)

/-- Create an empty file with permission bits. -/
def createFile (system : System) (dir : Location) (path : Path) (mode : Nat) :
    Except SystemError System := do
  let disk ← system.disk.write dir path []
  return { system with disk := ← disk.setMode dir path mode }

/-- Open the file at a path. Answers its place among the open files. -/
def openPath (system : System) (dir : Location) (mask : Nat) (path : Path) (opening : Opening) :
    Except SystemError (Nat × System) := do
  let opened (system : System) (channel : Channel) : Nat × System :=
    system.addOpen {
      channel := channel
      appends := opening == .adding
      reads := opening.reads
      writes := opening.writes }
  if path.endsInSeparator && opening.writes then
    .error (system.disk.refusalOfDirectory dir path)
  let location ← system.disk.locate .followed dir path
  match system.disk.node? location with
  | some (.file ..) =>
      let system ←
        if opening == .writing then
          pure { system with disk := ← system.disk.write dir path [] }
        else
          pure system
      return opened system (.file location)
  | some .directory =>
      if opening.writes then .error .isADirectory else return opened system (.directory location)
  | some (.device .terminal) => .error .noDevice
  | some (.device device) => return opened system (.device device)
  | some (.link _) => .error .tooManyLinks
  | none =>
      if opening.writes then
        let mode := 0o666 &&& (0o777 - (mask &&& 0o777))
        return opened (← system.createFile dir path mode) (.file location)
      else
        .error .notFound

/-- Replace part of a file's contents, which is filled up with zeros if it is too short. -/
def overwritten (content : Bytes) (offset : Nat) (bytes : Bytes) : Bytes :=
  if offset == content.length then
    content ++ bytes
  else
    let gap := List.replicate (offset - content.length) (0 : UInt8)
    (content ++ gap).take offset ++ bytes ++ content.drop (offset + bytes.length)

/-- Write to an open file. -/
def write (system : System) (place : Nat) (bytes : Bytes) : Except SystemError System :=
  match system.opened[place]? with
  | none => .error .badDescriptor
  | some file =>
      if !file.writes then
        .error .badDescriptor
      else
        match file.channel with
        | .directory _ => .error .isADirectory
        | .device device =>
            match if bytes.isEmpty then none else Disk.deviceRefusal? device with
            | some reason => .error reason
            | none => .ok system
        | .pipe number =>
            match system.pipes[number]? with
            | none => .error .badDescriptor
            | some pipe =>
                if pipe.room == 0 then
                  .error .brokenPipe
                else
                  .ok { system with pipes := system.pipes.setIfInBounds number (pipe.add bytes) }
        | .file location =>
            match system.disk.node? location with
            | some (.file content mode) =>
                let offset := if file.appends then content.length else file.offset
                let changed := overwritten content offset bytes
                let file := { file with offset := offset + bytes.length }
                .ok { system with
                  disk := system.disk.put location (.file changed mode)
                  opened := system.opened.setIfInBounds place file }
            | _ => .ok system

/-- What can be read from an open file, if it is not read without end. -/
def ahead (system : System) (place : Nat) : Except SystemError Bytes :=
  match system.opened[place]? with
  | none => .error .badDescriptor
  | some file =>
      if !file.reads then
        .error .badDescriptor
      else
        match file.channel with
        | .directory _ => .error .isADirectory
        | .device _ => .ok []
        | .pipe number => .ok ((system.pipes[number]?.map Pipe.contents).getD [])
        | .file location =>
            match system.disk.node? location with
            | some (.file content _) => .ok (content.drop file.offset)
            | _ => .ok []

/-- Move over a number of bytes of what can be read. -/
def consume (system : System) (place : Nat) (count : Nat) : System :=
  match system.opened[place]? with
  | none => system
  | some file =>
      match file.channel with
      | .pipe number =>
          let contents := (system.pipes[number]?.map Pipe.contents).getD []
          { system with
            pipes := system.pipes.setIfInBounds number (.holding (contents.drop count)) }
      | .file _ =>
          let file := { file with offset := file.offset + count }
          { system with opened := system.opened.setIfInBounds place file }
      | _ => system

/-- Whether bytes never end, and then what they are. -/
def endless? (system : System) (place : Nat) : Option UInt8 :=
  match system.opened[place]?.map OpenFile.channel with
  | some (.device .zero) => some 0
  | some (.device .full) => some 0
  | _ => none

/-- Read at most a number of bytes. -/
def read (system : System) (place : Nat) (count : Nat) : Except SystemError (Bytes × System) :=
  match system.endless? place with
  | some byte => .ok (List.replicate count byte, system)
  | none => do
      let bytes := (← system.ahead place).take count
      return (bytes, system.consume place bytes.length)

end System

namespace Process

/-- The open file that a descriptor stands for. -/
def descriptor? (process : Process) (number : Nat) : Option Nat :=
  process.descriptors.lookup number

/-- Let a descriptor stand for an open file, or for none. -/
def setDescriptor (process : Process) (number : Nat) (place : Option Nat) : Process :=
  let others := process.descriptors.filter fun entry => entry.1 != number
  { process with descriptors := (place.map (number, ·)).toList ++ others }

/-- The value of a variable of the environment. -/
def variableNamed? (process : Process) (name : String) : Option Octets :=
  process.environment.lookup name.toList

/-- Paths that stand for descriptors of the process. -/
def descriptorOfPath? (path : Octets) : Option Nat :=
  let numbered (directory : String) : Option Nat :=
    let text := directory.toList
    if text.isPrefixOf path then
      let digits := path.drop text.length
      if !digits.isEmpty && digits.all Char.isDigit then (String.ofList digits).toNat? else none
    else
      none
  if path == "/dev/stdin".toList then some 0
  else if path == "/dev/stdout".toList then some 1
  else if path == "/dev/stderr".toList then some 2
  else (numbered "/dev/fd/").orElse fun _ => numbered "/proc/self/fd/"

/-- Open the file at a path. Answers its place among the open files. -/
def openFile (process : Process) (system : System) (path : Octets) (opening : Opening) :
    Except SystemError (Nat × System) :=
  match descriptorOfPath? path with
  | some number =>
      match process.descriptor? number with
      | some place => .ok (place, system)
      | none => .error .notFound
  | none => system.openPath process.directory process.mask (pathOf path) opening

end Process

end Provision.Programs
