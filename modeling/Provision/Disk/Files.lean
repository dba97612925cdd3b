import Provision.Disk.Walk

namespace Provision.Disk

/-!
# Reading and changing files

Each function carries out one step of the system on a disk, or says why it is
refused. Paths start in the directory at `dir` unless they are absolute. A file
that is created gets the usual permission bits; a file that is written over
keeps its own.
-/

/-- Permission bits of a file that is created. -/
def createdMode : Nat := 0o644

/-- Permission bits of a temporary file, which is its creator's alone. -/
def temporaryMode : Nat := 0o600

/-- Permission bits of a device. -/
def deviceMode : Nat := 0o666

/-- What is written to a device. Answers why it is refused, if it is. -/
def deviceRefusal? : Device → Option SystemError
  | .null => none
  | .zero => none
  | .full => some .noSpace
  | .terminal => some .noDevice

/-- The contents and permission bits of the file at a path. -/
def file (disk : Disk) (dir : Location) (path : Path) : Except SystemError (Bytes × Nat) := do
  let location ← disk.locate .followed dir path
  match disk.node? location with
  | some (.file content mode) => .ok (content, mode)
  | some .directory => .error .isADirectory
  | some (.link _) => .error .tooManyLinks
  | some (.device .terminal) => .error .noDevice
  | some (.device _) => .ok ([], deviceMode)
  | none => .error .notFound

/-- The contents of the file at a path. -/
def read (disk : Disk) (dir : Location) (path : Path) : Except SystemError Bytes := do
  return (← disk.file dir path).1

/-- The permission bits of the file at a path. -/
def mode (disk : Disk) (dir : Location) (path : Path) : Except SystemError Nat := do
  return (← disk.file dir path).2

/-- Why there can be no file at a path that ends in a separator. -/
def refusalOfDirectory (disk : Disk) (dir : Location) (path : Path) : SystemError :=
  let named := path.withoutEndSeparators
  if named.isEmpty then
    .isADirectory
  else
    match disk.locate .kept dir named with
    | .ok _ => .isADirectory
    | .error reason => reason

/-- Change the file at a path, or create it from nothing. -/
def update
    (disk : Disk)
    (dir : Location)
    (path : Path)
    (change : Bytes → Bytes) :
    Except SystemError Disk := do
  if path.endsInSeparator then
    .error (disk.refusalOfDirectory dir path)
  let location ← disk.locate .followed dir path
  match disk.node? location with
  | some (.file content mode) => .ok (disk.put location (.file (change content) mode))
  | none => .ok (disk.put location (.file (change []) createdMode))
  | some .directory => .error .isADirectory
  | some (.link _) => .error .tooManyLinks
  | some (.device device) =>
      match deviceRefusal? device with
      | some reason => .error reason
      | none => .ok disk

/-- Write a file, in place of what it held. -/
def write (disk : Disk) (dir : Location) (path : Path) (content : Bytes) :
    Except SystemError Disk :=
  disk.update dir path fun _ => content

/-- Add to the end of a file. -/
def append (disk : Disk) (dir : Location) (path : Path) (content : Bytes) :
    Except SystemError Disk :=
  disk.update dir path fun present => present ++ content

/-- Give a file other permission bits. -/
def setMode (disk : Disk) (dir : Location) (path : Path) (mode : Nat) :
    Except SystemError Disk := do
  let location ← disk.locate .followed dir path
  match disk.node? location with
  | some (.file content _) => .ok (disk.put location (.file content mode))
  | some _ => .ok disk
  | none => .error .notFound

/-- Length of the longest of some names. -/
def longestName (names : List FileName) : Nat :=
  names.foldl (fun longest name => max longest name.bytes.length) 0

/-- A name that is longer than those that are taken, so it is none of them. -/
def freshName (taken : List FileName) : FileName :=
  ⟨Utf8.encode ".tmp".toList ++ List.replicate (longestName taken) 0x30⟩

/-- Create an empty file with a new name in a directory. -/
def createTemporary (disk : Disk) (dir : Location) (directory : Path) :
    Except SystemError (Path × Disk) := do
  let location ← disk.locate .followed dir directory
  match disk.node? location with
  | some .directory =>
      let name := freshName (disk.names location)
      .ok (directory.child name, disk.put (location ++ [name]) (.file [] temporaryMode))
  | some _ => .error .notADirectory
  | none => .error .notFound

/--
Give a file another path. A file or link that has that path is replaced in the
same step; a link is not followed.
-/
def rename (disk : Disk) (dir : Location) (source target : Path) :
    Except SystemError Disk := do
  let place ← disk.locate .kept dir source
  let newPlace ← disk.locate .kept dir target
  match disk.node? place, disk.node? newPlace with
  | none, _ => .error .notFound
  | some _, some .directory => .error .isADirectory
  | some node, _ =>
      .ok (if place = newPlace then disk else (disk.remove place).put newPlace node)

/-- Remove a file; a link is removed itself. -/
def removeFile (disk : Disk) (dir : Location) (path : Path) : Except SystemError Disk := do
  let location ← disk.locate .kept dir path
  match disk.node? location with
  | none => .error .notFound
  | some .directory => .error .isADirectory
  | some _ => .ok (disk.remove location)

/-- Create the directories of a path that are missing. -/
def makeDirectories (disk : Disk) (dir : Location) (path : Path) : Except SystemError Disk :=
  (List.range path.steps.length).foldlM
    (fun disk done => do
      let location ←
        disk.walk .followed linkLimit (startOf dir path) (path.steps.take (done + 1))
      match disk.node? location with
      | none => .ok (disk.put location .directory)
      | some .directory => .ok disk
      | some _ => .error .alreadyExists)
    disk

/-- Create something on the disk, with the directories that lead to it. -/
def create (disk : Disk) (dir : Location) (path : Path) (node : Node) :
    Except SystemError Disk := do
  let disk ←
    match path.parent? with
    | some parent => disk.makeDirectories dir parent
    | none => pure disk
  match node with
  | .directory => disk.makeDirectories dir path
  | .file content mode => do
      let disk ← disk.write dir path content
      disk.setMode dir path mode
  | .link _ | .device _ =>
      let location ← disk.locate .kept dir path
      match disk.node? location with
      | none => .ok (disk.put location node)
      | some _ => .error .alreadyExists

/-- Create nodes in turn. One that is refused is left out. -/
def createAll (disk : Disk) (dir : Location) (created : List (Path × Node)) : Disk :=
  created.foldl
    (fun disk (path, node) => (disk.create dir path node).toOption.getD disk)
    disk

/-- Remove whatever a path leads to, with all that is below it. -/
def removeTree (disk : Disk) (dir : Location) (path : Path) : Except SystemError Disk := do
  return disk.remove (← disk.locate .kept dir path)

end Provision.Disk
