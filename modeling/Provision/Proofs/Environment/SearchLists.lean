import Provision.Environment.Effective
import Provision.Proofs.Environment.Deltas
import Provision.Proofs.Paths

namespace Provision

/-!
# Editing search paths

A search path is read as what is shown of the entries it was written from, unless
one of them is empty or holds the separator. So an entry that is added is read
back behind, or before, those that were there; but it is the directory that was
added only if that is a text.
-/

namespace SearchList

/-- What a search path can list: entries that name something and are not split. -/
structure Listable (entry : Path) : Prop where
  nonempty : entry.isEmpty = false
  unsplit : cannotHold entry = false

instance (entry : Path) : Decidable (Listable entry) :=
  decidable_of_iff (entry.isEmpty = false ∧ cannotHold entry = false)
    ⟨fun can => ⟨can.1, can.2⟩, fun listable => ⟨listable.nonempty, listable.unsplit⟩⟩

theorem cannotHold_shown
    (entry : Path) :
    cannotHold entry.shown = cannotHold entry := by
  rw [Bool.eq_iff_iff, cannotHold, cannotHold, List.contains_iff_mem, List.contains_iff_mem]
  exact Utf8.mem_rewritten_iff (by decide)

theorem Listable.shown
    {entry : Path}
    (listable : Listable entry) :
    Listable entry.shown :=
  ⟨(Path.isEmpty_shown entry).trans listable.nonempty,
    (cannotHold_shown entry).trans listable.unsplit⟩

theorem notMem_of_unsplit
    {entry : Path}
    (unsplit : cannotHold entry = false) :
    separator ∉ entry.bytes := by
  simpa [cannotHold] using unsplit

theorem listable_of_mem_entries
    {entry : Path}
    {value : String}
    (member : entry ∈ entries value) :
    Listable entry := by
  obtain ⟨isEntry, nonempty⟩ := List.mem_filter.mp member
  obtain ⟨piece, isPiece, rfl⟩ := List.mem_map.mp isEntry
  refine ⟨by simpa using nonempty, ?_⟩
  have unsplit := Text.notMem_of_mem_splitOn isPiece
  simpa [cannotHold] using unsplit

/-- Whatever is read from a search path is a text. -/
theorem map_shown_allEntries
    (value : String) :
    (allEntries value).map Path.shown = allEntries value := by
  have pieces := Utf8.splitOn_rewritten (by decide : separator.toNat < 0x80)
    (Utf8.encode value.toList)
  rw [Utf8.rewritten_encode] at pieces
  rw [allEntries, List.map_map]
  conv_rhs => rw [pieces, List.map_map]
  rfl

theorem isText_of_mem_entries
    {entry : Path}
    {value : String}
    (member : entry ∈ entries value) :
    entry.IsText := by
  have isEntry := (List.mem_filter.mp member).1
  rw [← map_shown_allEntries] at isEntry
  obtain ⟨original, -, rfl⟩ := List.mem_map.mp isEntry
  exact original.isText_shown

/-- A search path is read as what is shown of the entries that were written. -/
theorem allEntries_ofEntries
    {listed : List Path}
    (nonempty : listed ≠ [])
    (unsplit : ∀ entry ∈ listed, cannotHold entry = false) :
    allEntries (ofEntries listed) = listed.map Path.shown := by
  have written :
      Utf8.encode (ofEntries listed).toList =
        [separator].intercalate (listed.map fun entry => entry.shown.bytes) := by
    rw [ofEntries, String.toList_ofList]
    refine (Utf8.rewritten_intercalate (by decide) _).trans ?_
    rw [List.map_map]
    rfl
  have whole : ∀ piece ∈ listed.map (fun entry => entry.shown.bytes), separator ∉ piece := by
    intro piece member
    obtain ⟨entry, isEntry, rfl⟩ := List.mem_map.mp member
    exact notMem_of_unsplit ((cannotHold_shown entry).trans (unsplit entry isEntry))
  rw [allEntries, written, Text.splitOn_intercalate (by simpa using nonempty) whole,
    List.map_map]
  rfl

/-- A search path is read as it was written, as far as that is shown. -/
theorem entries_ofEntries
    {listed : List Path}
    (listable : ∀ entry ∈ listed, Listable entry) :
    entries (ofEntries listed) = listed.map Path.shown := by
  cases listed with
  | nil => decide
  | cons first rest =>
      rw [entries,
        allEntries_ofEntries (List.cons_ne_nil _ _) fun entry member =>
          (listable entry member).unsplit,
        List.filter_eq_self]
      intro entry member
      obtain ⟨original, isEntry, rfl⟩ := List.mem_map.mp member
      rw [(listable original isEntry).shown.nonempty, Bool.not_false]

theorem mem_add_iff
    {entry dir : Path}
    {listed : List Path}
    (place : Place) :
    entry ∈ add listed place dir ↔ entry = dir ∨ entry ∈ listed := by
  cases place with
  | front => exact List.mem_cons
  | back => rw [add, List.mem_append, List.mem_singleton, or_comm]

theorem add_ne_nil
    (listed : List Path)
    (place : Place)
    (dir : Path) :
    add listed place dir ≠ [] := by
  cases place <;> simp [add]

theorem length_add
    (listed : List Path)
    (place : Place)
    (dir : Path) :
    (add listed place dir).length = listed.length + 1 := by
  cases place with
  | front => rfl
  | back => exact List.length_append

theorem map_shown_add
    (listed : List Path)
    (place : Place)
    (dir : Path) :
    (add listed place dir).map Path.shown = add (listed.map Path.shown) place dir.shown := by
  cases place with
  | front => rfl
  | back => exact List.map_append

@[simp] theorem lists_add
    (listed : List Path)
    (place : Place)
    (dir : Path) :
    lists (add listed place dir) dir = true := by
  cases place <;> simp [lists, add, Path.sameAs]

end SearchList

namespace Environment

variable {env : Environment} {dir : Path}

@[simp] theorem var?_set_path
    (env : Environment)
    (value : String) :
    var? { env with pending := env.pending.set .path value } Variable.path.name =
      some value := by
  have isPath : Variable.ofName? Variable.path.name = some .path :=
    Variable.ofName?_eq_some_iff.mpr (Name.sameIgnoringCase_refl _)
  rw [var?, Delta.getNamed?, isPath, Option.bind_some, Delta.get?_set, if_pos rfl,
    Option.some_or]

/-- An environment where the search path has a new value. -/
theorem pathEntries_set
    (env : Environment)
    (value : String) :
    pathEntries { env with pending := env.pending.set .path value } =
      SearchList.entries value := by
  rw [pathEntries, var?_set_path, Option.getD_some]

/-- What is listed, and what is added to it, can be listed. -/
theorem listable_of_mem_add
    {entry : Path}
    {place : SearchList.Place}
    (listable : SearchList.Listable dir)
    (member : entry ∈ SearchList.add env.pathEntries place dir) :
    SearchList.Listable entry := by
  rcases (SearchList.mem_add_iff place).mp member with rfl | present
  · exact listable
  · exact SearchList.listable_of_mem_entries present

theorem addPath_of_listed
    (place : SearchList.Place)
    (listed : SearchList.lists env.pathEntries dir = true) :
    env.addPath place dir = env := by
  rw [addPath, if_pos]
  rw [listed, Bool.true_or]

theorem addPath_of_new
    (place : SearchList.Place)
    (unsplit : SearchList.cannotHold dir = false)
    (new : SearchList.lists env.pathEntries dir = false) :
    env.addPath place dir =
      { env with
        pending :=
          env.pending.set .path
            (SearchList.ofEntries (SearchList.add env.pathEntries place dir)) } := by
  rw [addPath, if_neg]
  rw [new, unsplit]
  exact Bool.false_ne_true

/-- The entries of the search path of an environment are texts. -/
theorem map_shown_pathEntries
    (env : Environment) :
    env.pathEntries.map Path.shown = env.pathEntries := by
  refine (List.map_congr_left fun entry member => ?_).trans (List.map_id _)
  exact Path.shown_eq_self_iff.mpr (SearchList.isText_of_mem_entries member)

/-- Only a directory that is a text can be listed. -/
theorem isText_of_lists
    (listed : SearchList.lists env.pathEntries dir = true) :
    dir.IsText := by
  obtain ⟨entry, member, same⟩ := List.any_eq_true.mp listed
  exact (SearchList.isText_of_mem_entries member).of_sameAs same

theorem lists_eq_false_of_not_isText
    (env : Environment)
    (noText : ¬ dir.IsText) :
    SearchList.lists env.pathEntries dir = false :=
  Bool.eq_false_iff.mpr fun listed => noText (isText_of_lists listed)

/-- What is shown of a new directory is read back at its place among the entries. -/
theorem pathEntries_addPath_of_new
    (place : SearchList.Place)
    (listable : SearchList.Listable dir)
    (new : SearchList.lists env.pathEntries dir = false) :
    (env.addPath place dir).pathEntries =
      SearchList.add env.pathEntries place dir.shown := by
  rw [addPath_of_new place listable.unsplit new, pathEntries_set,
    SearchList.entries_ofEntries fun _ => listable_of_mem_add listable,
    SearchList.map_shown_add, map_shown_pathEntries]

/-- A directory without a name is written as an empty entry, which is not read back. -/
theorem pathEntries_addPath_of_nameless
    (place : SearchList.Place)
    (nameless : dir.isEmpty = true)
    (unsplit : SearchList.cannotHold dir = false)
    (new : SearchList.lists env.pathEntries dir = false) :
    (env.addPath place dir).pathEntries = env.pathEntries := by
  have allUnsplit :
      ∀ entry ∈ SearchList.add env.pathEntries place dir,
        SearchList.cannotHold entry = false := by
    intro entry member
    rcases (SearchList.mem_add_iff place).mp member with rfl | present
    · exact unsplit
    · exact (SearchList.listable_of_mem_entries present).unsplit
  have allNamed :
      env.pathEntries.filter (fun entry => !entry.isEmpty) = env.pathEntries :=
    List.filter_eq_self.mpr fun entry member => by
      rw [(SearchList.listable_of_mem_entries member).nonempty, Bool.not_false]
  rw [addPath_of_new place unsplit new, pathEntries_set, SearchList.entries,
    SearchList.allEntries_ofEntries (SearchList.add_ne_nil _ place dir) allUnsplit,
    SearchList.map_shown_add, map_shown_pathEntries]
  cases place <;> simp [SearchList.add, nameless, allNamed]

/-- What is shown of a directory that was added is listed. -/
theorem lists_addPath_shown
    (env : Environment)
    (place : SearchList.Place)
    (listable : SearchList.Listable dir)
    (new : SearchList.lists env.pathEntries dir = false) :
    SearchList.lists (env.addPath place dir).pathEntries dir.shown = true := by
  rw [pathEntries_addPath_of_new place listable new, SearchList.lists_add]

/-- A directory that was added is listed exactly if it is a text. -/
theorem lists_addPath_iff
    (env : Environment)
    (place : SearchList.Place)
    (listable : SearchList.Listable dir) :
    SearchList.lists (env.addPath place dir).pathEntries dir = true ↔ dir.IsText := by
  constructor
  · exact isText_of_lists
  · intro isText
    cases listed : SearchList.lists env.pathEntries dir with
    | true =>
        rwa [addPath_of_listed place listed]
    | false =>
        have added := lists_addPath_shown env place listable listed
        rwa [Path.shown_eq_self_iff.mpr isText] at added

/--
Where nothing was pending, what is shown of a new directory is all that is; that
is the directory itself exactly if it is a text.
-/
theorem pending_addPath
    (fresh : env.pending = Delta.empty)
    (nonempty : dir.isEmpty = false) :
    if SearchList.lists env.pathEntries dir || SearchList.cannotHold dir then
      (env.addPath .back dir).pending = Delta.empty
    else
      ∃ value,
        (env.addPath .back dir).pending = Delta.empty.set .path value ∧
          SearchList.allEntries value = env.pathEntries ++ [dir.shown] ∧
          (SearchList.allEntries value = env.pathEntries ++ [dir] ↔ dir.IsText) := by
  rw [addPath]
  split
  · exact fresh
  · rename_i added
    simp only [Bool.or_eq_true, not_or, Bool.not_eq_true] at added
    have written :
        SearchList.allEntries
            (SearchList.ofEntries (SearchList.add env.pathEntries .back dir)) =
          env.pathEntries ++ [dir.shown] := by
      rw [SearchList.allEntries_ofEntries (SearchList.add_ne_nil _ .back dir)
          fun entry member => (listable_of_mem_add ⟨nonempty, added.2⟩ member).unsplit,
        SearchList.map_shown_add, map_shown_pathEntries]
      rfl
    rw [← fresh]
    refine ⟨_, rfl, written, ?_⟩
    rw [written, List.append_cancel_left_eq, List.singleton_inj, Path.shown_eq_self_iff]

end Environment

end Provision
