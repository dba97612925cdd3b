import Provision.Disk.Files
import Provision.Proofs.Disk.Walks
import Provision.Proofs.Text.Pieces

namespace Provision

/-!
# Files by their paths

What a path must be like to be looked up, where it leads, and what reading the
file there gives. A temporary file gets a name that its directory does not hold
yet, and the path it is given back under leads to it.
-/

namespace Path

/-- A path that the system looks up at all. -/
structure IsLookedUp (path : Path) : Prop where
  nonempty : path.isEmpty = false
  noNul : 0 ∉ path.bytes
  short : path.bytes.length < Disk.pathLimit

end Path

namespace Disk

variable {disk : Disk} {last : LastLink} {dir place : Location} {path : Path}

/-- A path is located where its steps lead. -/
theorem locate_eq_ok_iff :
    disk.locate last dir path = .ok place ↔
      path.IsLookedUp ∧
        Leads disk last linkLimit (startOf dir path) path.steps place := by
  rw [locate]
  split
  · rename_i empty
    constructor
    · intro impossible
      cases impossible
    · rintro ⟨lookedUp, -⟩
      rw [lookedUp.nonempty] at empty
      cases empty
  · rename_i nonempty
    split
    · rename_i nul
      constructor
      · intro impossible
        cases impossible
      · rintro ⟨lookedUp, -⟩
        exact (lookedUp.noNul (by simpa using nul)).elim
    · rename_i noNul
      split
      · rename_i long
        constructor
        · intro impossible
          cases impossible
        · rintro ⟨lookedUp, -⟩
          exact (Nat.not_lt.mpr long lookedUp.short).elim
      · rename_i short
        have lookedUp : path.IsLookedUp :=
          ⟨by simpa using nonempty, by simpa using noNul, Nat.not_le.mp short⟩
        constructor
        · intro arrives
          exact ⟨lookedUp, leads_of_walk_eq arrives⟩
        · rintro ⟨-, leads⟩
          exact leads.walk_eq

/-- A path leads to a regular file with these contents and permission bits. -/
def HasFile (disk : Disk) (dir : Location) (path : Path)
    (content : Bytes) (mode : Nat) : Prop :=
  ∃ place, disk.locate .followed dir path = .ok place ∧
    disk.node? place = some (.file content mode)

theorem isFile_iff :
    disk.isFile dir path = true ↔
      ∃ content mode, disk.HasFile dir path content mode := by
  simp only [isFile, target?, HasFile]
  cases located : disk.locate .followed dir path with
  | error reason => simp
  | ok place =>
      cases found : disk.node? place with
      | none => simp [found]
      | some node => cases node <;> simp [found]

theorem isDirectory_iff :
    disk.isDirectory dir path = true ↔
      ∃ place, disk.locate .followed dir path = .ok place ∧
        disk.node? place = some .directory := by
  rw [isDirectory, target?, beq_iff_eq]
  cases disk.locate .followed dir path <;> simp

theorem HasFile.file_eq
    {content : Bytes}
    {mode : Nat}
    (has : disk.HasFile dir path content mode) :
    disk.file dir path = .ok (content, mode) := by
  obtain ⟨place, located, found⟩ := has
  simp only [file, located, bind, Except.bind, found]

theorem HasFile.read_eq
    {content : Bytes}
    {mode : Nat}
    (has : disk.HasFile dir path content mode) :
    disk.read dir path = .ok content := by
  rw [read, has.file_eq]
  rfl

theorem HasFile.mode_eq
    {content : Bytes}
    {mode : Nat}
    (has : disk.HasFile dir path content mode) :
    disk.mode dir path = .ok mode := by
  rw [Disk.mode, has.file_eq]
  rfl

/-- A path with a separator at its end leads to no file. -/
theorem HasFile.endsInSeparator_eq
    {content : Bytes}
    {mode : Nat}
    (has : disk.HasFile dir path content mode) :
    path.endsInSeparator = false := by
  obtain ⟨place, located, found⟩ := has
  rw [Bool.eq_false_iff]
  intro ends
  have lastIs : path.bytes.getLast? = some Path.separator := by
    simpa [Path.endsInSeparator] using ends
  obtain ⟨front, shape⟩ := List.getLast?_eq_some_iff.mp lastIs
  have steps :
      path.steps = (Text.splitOn Path.separator front).map PathStep.ofPiece ++ [.stay] := by
    rw [Path.steps, Path.pieces, shape, Text.splitOn_append_cons, List.map_append]
    rfl
  obtain ⟨-, leads⟩ := locate_eq_ok_iff.mp located
  rw [steps] at leads
  obtain ⟨between, -, stays⟩ := leads.split (by simp)
  cases stays with
  | stay isDirectory arrives =>
      cases arrives
      rw [isDirectory] at found
      cases found

/-- What no way leads through may be another file. -/
theorem sameWays_put
    {content : Bytes}
    {mode : Nat}
    (notDirectory : disk.node? place ≠ some .directory)
    (noLink : ∀ target, disk.node? place ≠ some (.link target)) :
    SameWays disk (disk.put place (.file content mode)) := by
  have notRoot : place ≠ [] := by
    rintro rfl
    exact notDirectory (node?_root disk)
  constructor
  · intro location
    rw [node?_put notRoot]
    split
    · rename_i isPlace
      subst isPlace
      simp [notDirectory]
    · exact Iff.rfl
  · intro location target
    rw [node?_put notRoot]
    split
    · rename_i isPlace
      subst isPlace
      simp [noLink target]
    · exact Iff.rfl

/-- A path leads to the file that was put where it leads. -/
theorem hasFile_put
    (located : disk.locate .followed dir path = .ok place)
    (notDirectory : disk.node? place ≠ some .directory)
    (noLink : ∀ target, disk.node? place ≠ some (.link target))
    (content : Bytes)
    (mode : Nat) :
    (disk.put place (.file content mode)).HasFile dir path content mode := by
  have notRoot : place ≠ [] := by
    rintro rfl
    exact notDirectory (node?_root disk)
  obtain ⟨lookedUp, leads⟩ := locate_eq_ok_iff.mp located
  refine ⟨place, locate_eq_ok_iff.mpr ⟨lookedUp, ?_⟩, ?_⟩
  · exact leads.of_sameWays (sameWays_put notDirectory noLink)
  · rw [node?_put notRoot, if_pos rfl]

/-- The largest of some sizes is found by one pass over them. -/
theorem le_foldl_max
    {α : Type}
    (size : α → Nat)
    (items : List α)
    (start : Nat) :
    start ≤ items.foldl (fun largest item => max largest (size item)) start ∧
      ∀ item ∈ items,
        size item ≤
          items.foldl (fun largest item => max largest (size item)) start := by
  induction items generalizing start with
  | nil =>
      simp
  | cons first items inductionHypothesis =>
      obtain ⟨fromStart, fromItems⟩ :=
        inductionHypothesis (max start (size first))
      rw [List.foldl_cons]
      refine ⟨by omega, ?_⟩
      intro item member
      rcases List.mem_cons.mp member with rfl | inItems
      · omega
      · exact fromItems item inItems

/-- A fresh name is longer than those that are taken. -/
theorem freshName_notMem
    (taken : List FileName) :
    freshName taken ∉ taken := by
  intro member
  have bounded := (le_foldl_max (fun name => name.bytes.length) taken 0).2 _ member
  rw [← longestName, freshName, List.length_append, List.length_replicate] at bounded
  have dotted : (Utf8.encode ".tmp".toList).length = 4 := by decide
  omega

/-- A directory lists the names under which something is stored. -/
theorem mem_names_iff
    {name : FileName} :
    name ∈ disk.names place ↔ disk.node? (place ++ [name]) ≠ none := by
  rw [node?_of_ne_root (by simp), ne_eq, List.lookup_eq_none_iff, names,
    List.mem_filterMap]
  simp only [bne_iff_ne, ne_eq, not_forall, not_not, exists_prop]
  constructor
  · rintro ⟨entry, stored, named⟩
    split at named
    · rename_i below
      obtain ⟨front, shape⟩ := List.getLast?_eq_some_iff.mp named
      refine ⟨entry, stored, ?_⟩
      rw [shape, List.dropLast_concat] at below
      rw [shape, below]
    · cases named
  · rintro ⟨entry, stored, shape⟩
    refine ⟨entry, stored, ?_⟩
    rw [← shape, List.dropLast_concat, if_pos rfl, List.getLast?_concat]

/-- Where a directory holds no entry of a name, nothing is stored. -/
theorem node?_eq_none_of_notMem_names
    {name : FileName}
    (absent : name ∉ disk.names place) :
    disk.node? (place ++ [name]) = none :=
  Classical.byContradiction fun stored => absent (mem_names_iff.mpr stored)

/-- A name that is a piece of a path by itself. -/
structure IsPlainName (name : FileName) : Prop where
  noSeparator : Path.separator ∉ name.bytes
  step : PathStep.ofPiece name.bytes = .enter name

theorem isPlainName_freshName
    (taken : List FileName) :
    IsPlainName (freshName taken) := by
  have shape :
      (freshName taken).bytes =
        0x2E :: 0x74 :: 0x6D :: 0x70 :: List.replicate (longestName taken) 0x30 :=
    rfl
  constructor
  · rw [shape]
    simp [Path.separator]
  · rw [PathStep.ofPiece, shape, if_neg (by simp [Path.dot]), if_neg (by simp [Path.dot]),
      ← shape]

end Disk

/-- The path of a name in a directory enters the name where the directory's own path ends. -/
theorem Path.steps_child
    {directory : Path}
    {name : FileName}
    (nonempty : directory.isEmpty = false)
    (plain : Disk.IsPlainName name) :
    (directory.child name).isAbsolute = directory.isAbsolute ∧
      ∃ front,
        (directory.steps = front ∨ directory.steps = front ++ [.stay]) ∧
          (directory.child name).steps = front ++ [.enter name] := by
  have nameRelative : (Path.mk name.bytes).isAbsolute = false := by
    rw [isAbsolute, beq_eq_false_iff_ne]
    intro starts
    exact plain.noSeparator (List.mem_of_head? starts)
  have bytesNonempty : directory.bytes ≠ [] := by
    simpa [isEmpty] using nonempty
  rw [child, join, nameRelative, nonempty]
  simp only [Bool.false_eq_true, ↓reduceIte, Bool.false_or]
  by_cases ends : directory.endsInSeparator = true
  · -- The separator at the end stands for a last piece, which is empty.
    have lastIs : directory.bytes.getLast? = some separator := by
      simpa [endsInSeparator] using ends
    obtain ⟨front, shape⟩ := List.getLast?_eq_some_iff.mp lastIs
    have joined : directory.bytes ++ name.bytes = front ++ separator :: name.bytes := by
      simp [shape]
    rw [if_pos ends, joined]
    refine ⟨?_, (Text.splitOn separator front).map PathStep.ofPiece, .inr ?_, ?_⟩
    · rw [isAbsolute, isAbsolute, shape]
      cases front <;> rfl
    · rw [steps, pieces, shape, Text.splitOn_append_cons, List.map_append]
      rfl
    · rw [steps, pieces, Text.splitOn_append_cons,
        Text.splitOn_of_notMem plain.noSeparator, List.map_append,
        List.map_singleton, plain.step]
  · rw [if_neg ends]
    refine ⟨?_, directory.steps, .inl rfl, ?_⟩
    · obtain ⟨first, rest, shape⟩ := List.exists_cons_of_ne_nil bytesNonempty
      rw [isAbsolute, isAbsolute, shape]
      rfl
    · rw [steps, pieces, Text.splitOn_append_cons,
        Text.splitOn_of_notMem plain.noSeparator, List.map_append,
        List.map_singleton, plain.step]
      rfl

end Provision
