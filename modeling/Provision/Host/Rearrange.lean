import Provision.Disk.Files

namespace Provision.Disk

/-!
# Rearranging a disk

Steps that create, remove, copy and move what stands at single locations.
-/

/-- The location of a path at which something is to be created. -/
def newLocation (disk : Disk) (dir : Location) (path : Path) : Except SystemError Location := do
  let location ← disk.locate .kept dir path
  match disk.node? location.dropLast, disk.node? location with
  | some .directory, none => .ok location
  | some .directory, some _ => .error .alreadyExists
  | none, _ => .error .notFound
  | some _, _ => .error .notADirectory

/-- Create a directory. -/
def makeDirectory (disk : Disk) (dir : Location) (path : Path) : Except SystemError Disk := do
  return disk.put (← disk.newLocation dir path.withoutEndSeparators) .directory

/-- Create a link. -/
def makeLink (disk : Disk) (dir : Location) (target path : Path) : Except SystemError Disk := do
  return disk.put (← disk.newLocation dir path) (.link target)

/-- Remove a directory that holds nothing. -/
def removeDirectory (disk : Disk) (dir : Location) (path : Path) : Except SystemError Disk := do
  let location ← disk.locate .kept dir path.withoutEndSeparators
  match disk.node? location with
  | none => .error .notFound
  | some .directory =>
      if location.isEmpty then .error .notPermitted
      else if (disk.names location).isEmpty then .ok (disk.remove location)
      else .error .notEmpty
  | some _ => .error .notADirectory

/-- What stands at a location and below it, with the ways from there. -/
def below (disk : Disk) (location : Location) : List (Location × Node) :=
  disk.nodes.filterMap fun (other, node) =>
    if location.isPrefixOf other then some (other.drop location.length, node) else none

/-- Put nodes at their ways from a location. -/
def plant (disk : Disk) (location : Location) (nodes : List (Location × Node)) : Disk :=
  nodes.foldl (fun disk (way, node) => disk.put (location ++ way) node) disk

/-- Move what stands at a location, with all that is below it. -/
def moveTree (disk : Disk) (source target : Location) : Disk :=
  let nodes := disk.below source
  ((disk.remove source).remove target).plant target nodes

end Provision.Disk
