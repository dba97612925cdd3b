import Provision.Host.Programs.System

namespace Provision.Programs

/-!
# Programs

A program is a machine program or a script that names its interpreter. A name
without a separator is searched for in the directories of the search path.
-/

/-- What runs a script. -/
structure Interpreter where
  path : Octets
  /-- Stands before the path of the script. -/
  argument : Option Octets := none
  deriving Repr, DecidableEq

/-- What is run. -/
inductive Program where
  | machine (name : String)
  | script (interpreter : Interpreter)
  deriving Repr, DecidableEq

/-- How many bytes of a script are looked at for its interpreter. -/
def firstLineLimit : Nat := 255

/-- Whether a character stands between the words of a first line. -/
def separatesWords (c : Char) : Bool :=
  c == ' ' || c == '\t'

/-- The interpreter that the words of a first line name. -/
def interpreterOfLine (line : Octets) : Interpreter :=
  let line := (Text.trimBy separatesWords line).takeWhile (· != '\x00')
  let name := line.takeWhile fun c => !separatesWords c
  let argument := (line.drop name.length).dropWhile separatesWords
  { path := name, argument := if argument.isEmpty then none else some argument }

/--
The interpreter that a script names in its first line; the rest is one argument.
A line that does not end in time must at least show where the name ends.
-/
def interpreter? (content : Octets) : Option Interpreter :=
  match content with
  | '#' :: '!' :: rest =>
      let seen := rest.take (firstLineLimit - 2)
      let line := rest.takeWhile (· != '\n')
      let isTerminated := line.length < rest.length && line.length < firstLineLimit - 1
      if isTerminated then
        if line.all separatesWords then none else some (interpreterOfLine line)
      else
        let padded := seen ++ List.replicate (firstLineLimit - 2 - seen.length) '\x00'
        let behind := padded.dropWhile separatesWords
        if behind.any fun c => separatesWords c || c == '\x00' then
          some (interpreterOfLine padded)
        else
          none
  | _ => none

/-- Load the program at a path. -/
def load (disk : Disk) (dir : Location) (path : Octets) : Except SystemError Program := do
  let location ← disk.locate .followed dir (pathOf path)
  match disk.node? location with
  | some (.file content mode) =>
      if !isExecutableMode mode then
        .error .permissionDenied
      else
        match machineProgram? content with
        | some name => .ok (.machine name)
        | none =>
            match interpreter? (Octets.ofBytes (content.take (firstLineLimit + 1))) with
            | some interpreter => .ok (.script interpreter)
            | none => .error .notAProgram
  | some .directory => .error .permissionDenied
  | some (.device _) => .error .permissionDenied
  | some (.link _) => .error .tooManyLinks
  | none => .error .notFound

/-- How many programs may stand behind each other, each the interpreter of the one before it. -/
def interpreterLimit : Nat := 6

/--
The machine program that runs the program at a path, and the arguments that it
gets. The first argument is the name by which the program is called.
-/
def resolve (disk : Disk) (dir : Location) :
    (fuel : Nat) → (path : Octets) → List Octets → Except SystemError (String × List Octets)
  | 0, _, _ => .error .tooManyLinks
  | fuel + 1, path, arguments =>
      match load disk dir path with
      | .error reason => .error reason
      | .ok (.machine name) => .ok (name, arguments)
      | .ok (.script interpreter) =>
          let arguments :=
            interpreter.path :: interpreter.argument.toList ++ path :: arguments.drop 1
          resolve disk dir fuel interpreter.path arguments

/-- What a shell or the system finds out about a program before it is run. -/
def runnable (disk : Disk) (dir : Location) (path : Octets) : Except SystemError Unit := do
  discard (resolve disk dir interpreterLimit path [path])

/-- Whether a program is called by a path. -/
def isPathName (name : Octets) : Bool :=
  name.contains '/'

/-- The search path that counts when there is none. -/
def defaultPath : Octets := "/bin:/usr/bin".toList

/-- The path of a name in an entry of a search path. -/
def inEntry (entry name : Octets) : Octets :=
  if entry.isEmpty then name
  else if entry.getLast? == some '/' then entry ++ name
  else entry ++ '/' :: name

/-- The path of a name in an entry of a search path, where an empty entry is written out. -/
def inWrittenEntry (entry name : Octets) : Octets :=
  if entry.isEmpty then "./".toList ++ name else inEntry entry name

/-- Refusals behind which a search goes on. -/
def searchGoesOn (reason : SystemError) : Bool :=
  [.notFound, .notADirectory, .permissionDenied].contains reason

/--
Search directories for a program. If there is none, the last refusal is reported,
or that a file may not be run, if there was one.
-/
def searchIn (disk : Disk) (dir : Location) (name : Octets) (refusal : SystemError) :
    List Octets → Except SystemError Octets
  | [] => .error refusal
  | entry :: rest =>
      let path := inWrittenEntry entry name
      match runnable disk dir path with
      | .ok () => .ok path
      | .error reason =>
          if searchGoesOn reason then
            let refusal := if refusal == .permissionDenied then refusal else reason
            searchIn disk dir name refusal rest
          else
            .error reason

/-- Find the path of the program that a name calls. -/
def search (disk : Disk) (dir : Location) (searchPath : Option Octets) (name : Octets) :
    Except SystemError Octets :=
  if isPathName name then do
    runnable disk dir name
    return name
  else if name.isEmpty then
    .error .notFound
  else if Disk.nameLimit < name.length then
    .error .nameTooLong
  else
    searchIn disk dir name .notFound (Text.splitOn ':' (searchPath.getD defaultPath))

end Provision.Programs
