import Provision.Disk.Walk
import Provision.Names

namespace Provision.Disk

/-!
# Searching directory trees

A tree is searched depth first, and each directory in the order of its names.
Links below the start of the search are not followed and are no files.
-/

/-- Locations, below a location, of the files whose name is `name`. -/
def filesBelow (disk : Disk) (name : FileName) : (depth : Nat) → Location → List Location
  | 0, _ => []
  | depth + 1, location =>
      (sortedNames (disk.names location)).flatMap fun child =>
        let place := location ++ [child]
        match disk.node? place with
        | some (.file ..) => if child = name then [place] else []
        | some .directory => filesBelow disk name depth place
        | _ => []

/-- Whether a path itself, links not followed, is a file called `name`. -/
def isNamedFile (disk : Disk) (dir : Location) (path : Path) (name : FileName) : Bool :=
  match disk.locate .kept dir path with
  | .error _ => false
  | .ok location =>
      match disk.node? location with
      | some (.file ..) => path.fileName? == some name
      | _ => false

/--
Paths of the files called `name` in the tree at a path, in the order of the
search. A file is a tree of its own; a path that leads nowhere has no tree.
-/
def find (disk : Disk) (dir : Location) (root : Path) (name : FileName) : List Path :=
  if disk.isNamedFile dir root name then
    [root]
  else
    match disk.locate .followed dir root with
    | .error _ => []
    | .ok location =>
        (disk.filesBelow name (disk.depth + 1) location).map fun found =>
          (found.drop location.length).foldl Path.child root

end Provision.Disk
