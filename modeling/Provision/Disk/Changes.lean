import Provision.Disk.Basic

namespace Provision.Disk

/-!
# What changed on a disk

Two disks are compared by their regular files alone: links and directories do
not count.
-/

/-- The contents and permission bits of the regular file at a location. -/
def fileAt? (disk : Disk) (location : Location) : Option (Bytes × Nat) :=
  match disk.node? location with
  | some (.file content mode) => some (content, mode)
  | _ => none

/-- The locations of all regular files. -/
def fileLocations (disk : Disk) : List Location :=
  (disk.nodes.map Prod.fst).filter fun location => (disk.fileAt? location).isSome

/-- A regular file that differs, as it is afterwards; it may be gone. -/
structure FileChange where
  location : Location
  file : Option (Bytes × Nat)
  deriving Repr, DecidableEq

/-- The regular files that differ between two disks. -/
def changes (before after : Disk) : List FileChange :=
  let gone := before.fileLocations.filter fun location => (after.fileAt? location).isNone
  let written :=
    after.fileLocations.filter fun location =>
      after.fileAt? location != before.fileAt? location
  (gone ++ written).map fun location => ⟨location, after.fileAt? location⟩

end Provision.Disk
