import Provision.Encoding.Utf8
import Provision.Path
import Provision.SystemError

namespace Provision

/-!
# Disks

A disk holds files, directories and symbolic links. A node is found by its
location: the names that lead to it from the root. Locations are exact; how a
path that goes through links leads to a location is said elsewhere.
-/

/-- The names that lead from the root to a place on a disk. -/
abbrev Location := List FileName

/-- The path of a location. -/
def Path.ofLocation (location : Location) : Path :=
  if location.isEmpty then
    ⟨[separator]⟩
  else
    ⟨location.flatMap fun name => separator :: name.bytes⟩

/-- The location that a path names by its components alone, links not followed. -/
def Path.plainLocation (path : Path) (dir : Location) : Location :=
  path.components.foldl
    (fun location component =>
      match component with
      | .root => []
      | .here => location
      | .up => location.dropLast
      | .name name => location ++ [name])
    dir

/-- A file of the system that stores nothing. -/
inductive Device where
  /-- Is empty and swallows what is written to it. -/
  | null
  /-- Is full of zeros and swallows what is written to it. -/
  | zero
  /-- Is full of zeros and has room for nothing. -/
  | full
  /-- The terminal, of which there is none. -/
  | terminal
  deriving Repr, DecidableEq

/-- What stands at a location. -/
inductive Node where
  /-- A regular file with its contents and its permission bits. -/
  | file (content : Bytes) (mode : Nat)
  | directory
  /-- A symbolic link. -/
  | link (target : Path)
  | device (device : Device)
  deriving Repr, DecidableEq

/-- The permission bits of a node. -/
def Node.mode : Node → Nat
  | .file _ mode => mode
  | .directory => 0o755
  | .link _ => 0o777
  | .device _ => 0o666

/-- What is stored, with the location of each node. -/
structure Disk where
  nodes : List (Location × Node)
  deriving Repr, DecidableEq

namespace Disk

/-- The disk that holds nothing but its root directory. -/
def empty : Disk where
  nodes := []

/-- The node at a location. The root is always a directory. -/
def node? (disk : Disk) (location : Location) : Option Node :=
  if location.isEmpty then some .directory else disk.nodes.lookup location

/-- Put a node into a list of nodes, in place of one that has the same location. -/
def putNode (location : Location) (node : Node) :
    List (Location × Node) → List (Location × Node)
  | [] => [(location, node)]
  | (other, present) :: rest =>
      if location = other then
        (location, node) :: rest
      else
        (other, present) :: putNode location node rest

/-- The disk with a node at a location, whatever was there before. -/
def put (disk : Disk) (location : Location) (node : Node) : Disk where
  nodes := putNode location node disk.nodes

/-- The disk without a location and what lies below it. -/
def remove (disk : Disk) (location : Location) : Disk where
  nodes := disk.nodes.filter fun entry => !location.isPrefixOf entry.1

/-- Names in the directory at a location, in the order in which the disk lists them. -/
def names (disk : Disk) (location : Location) : List FileName :=
  disk.nodes.filterMap fun entry =>
    if entry.1.dropLast = location then entry.1.getLast? else none

/-- Length of the longest location that holds a node. -/
def depth (disk : Disk) : Nat :=
  disk.nodes.foldl (fun deepest entry => max deepest entry.1.length) 0

end Disk

/-- The permission bits by which a file can be run. -/
def executeBits : Nat := 0o111

/-- Whether the permission bits of a file let someone run it. -/
def isExecutableMode (mode : Nat) : Bool :=
  mode &&& executeBits != 0

end Provision
