import Provision.Environment.Delta
import Provision.Proofs.Environment.Snapshots

namespace Provision

/-!
# What a delta holds

A delta gives back what was last set for a variable, under every spelling of
its name. The difference of two snapshots holds the variables that the second
one defines with another value than the first.
-/

namespace Variable

theorem mem_all
    (target : Variable) :
    target ∈ all := by
  cases target <;> decide

/-- The variables that may be changed have different names in every letter case. -/
theorem eq_of_sameIgnoringCase
    {first second : Variable}
    (same : Name.sameIgnoringCase first.name second.name = true) :
    first = second := by
  revert same
  cases first <;> cases second <;> decide

theorem sameIgnoringCase_of_ofName?
    {name : String}
    {target : Variable}
    (found : ofName? name = some target) :
    Name.sameIgnoringCase target.name name = true := by
  rw [ofName?] at found
  have same := List.find?_some found
  exact same

theorem ofName?_eq_some_iff
    {name : String}
    {target : Variable} :
    ofName? name = some target ↔
      Name.sameIgnoringCase target.name name = true := by
  refine ⟨sameIgnoringCase_of_ofName?, fun same => ?_⟩
  cases found : ofName? name with
  | none =>
      exact absurd same (List.find?_eq_none.mp found target (mem_all target))
  | some other =>
      have otherSame := sameIgnoringCase_of_ofName? found
      rw [Name.sameIgnoringCase_comm] at same
      rw [eq_of_sameIgnoringCase (Name.sameIgnoringCase_trans otherSame same)]

theorem ofName?_eq_none_iff
    {name : String} :
    ofName? name = none ↔
      ∀ target : Variable, Name.sameIgnoringCase target.name name = false := by
  simp [ofName?, mem_all]

end Variable

namespace Delta

variable {delta : Delta} {name value : String}

/-- A delta is what it gives back. -/
theorem ext_get?
    {first second : Delta}
    (same : ∀ target, first.get? target = second.get? target) :
    first = second := by
  have includeDirs := same .includeDirs
  have libDirs := same .libDirs
  have libPath := same .libPath
  have path := same .path
  cases first
  cases second
  simp_all [get?]

@[simp] theorem get?_empty
    (target : Variable) :
    empty.get? target = none := by
  cases target <;> rfl

theorem get?_set
    (delta : Delta)
    (target other : Variable)
    (value : String) :
    (delta.set target value).get? other =
      if target = other then some value else delta.get? other := by
  cases target <;> cases other <;> rfl

@[simp] theorem get?_merge
    (first second : Delta)
    (target : Variable) :
    (first.merge second).get? target =
      (second.get? target).or (first.get? target) := by
  cases target <;> rfl

/-- A value that is set under a name is that of the variable of this name. -/
theorem get?_setNamed
    (delta : Delta)
    (name value : String)
    (target : Variable) :
    (delta.setNamed name value).get? target =
      if Name.sameIgnoringCase target.name name then some value
      else delta.get? target := by
  rw [setNamed]
  cases found : Variable.ofName? name with
  | none =>
      rw [Variable.ofName?_eq_none_iff.mp found target]
      rfl
  | some other =>
      simp only [get?_set, ← Variable.ofName?_eq_some_iff, found,
        Option.some.injEq]

/-- The entries are the variables with their values. -/
theorem mem_entries_iff
    (entry : String × String) :
    entry ∈ delta.entries ↔
      ∃ target : Variable,
        entry.1 = target.name ∧ delta.get? target = some entry.2 := by
  obtain ⟨name, value⟩ := entry
  simp only [entries, List.mem_filterMap, Option.map_eq_some_iff,
    Prod.mk.injEq, Variable.mem_all, true_and]
  constructor
  · rintro ⟨target, found, isFound, rfl, rfl⟩
    exact ⟨target, rfl, isFound⟩
  · rintro ⟨target, rfl, isFound⟩
    exact ⟨target, value, isFound, rfl, rfl⟩

/-- A value under a name is that of an entry with the name in some spelling. -/
theorem getNamed?_eq_some_iff :
    delta.getNamed? name = some value ↔
      ∃ stored, (stored, value) ∈ delta.entries ∧
        Name.sameIgnoringCase stored name = true := by
  simp only [getNamed?, Option.bind_eq_some_iff, Variable.ofName?_eq_some_iff,
    mem_entries_iff]
  constructor
  · rintro ⟨target, same, isValue⟩
    exact ⟨target.name, ⟨target, rfl, isValue⟩, same⟩
  · rintro ⟨-, ⟨target, rfl, isValue⟩, same⟩
    exact ⟨target, same, isValue⟩

theorem getNamed?_eq_none_iff :
    delta.getNamed? name = none ↔
      ∀ entry ∈ delta.entries, Name.sameIgnoringCase entry.1 name = false := by
  simp only [Option.eq_none_iff_forall_ne_some, ne_eq, getNamed?_eq_some_iff,
    not_exists, not_and, Bool.not_eq_true, Prod.forall]
  exact forall_comm

/-- No two entries have the same name in any spelling. -/
theorem pairwise_entries
    (delta : Delta) :
    delta.entries.Pairwise fun earlier later =>
      Name.sameIgnoringCase earlier.1 later.1 = false := by
  have distinct :
      Variable.all.Pairwise fun earlier later =>
        Name.sameIgnoringCase earlier.name later.name = false := by
    decide
  refine List.Pairwise.filterMap _ (fun earlier later differ => ?_) distinct
  intro entry isEntry other isOther
  obtain ⟨-, -, rfl⟩ := Option.map_eq_some_iff.mp isEntry
  obtain ⟨-, -, rfl⟩ := Option.map_eq_some_iff.mp isOther
  exact differ

end Delta

namespace Snapshot

/-- Of a list that names a variable once, the entry for it is set if it tells something new. -/
private theorem get?_foldl_setNamed
    {before : Snapshot}
    {entries : List (String × String)}
    {delta : Delta}
    (target : Variable)
    (distinct :
      entries.Pairwise fun earlier later =>
        Name.sameIgnoringCase earlier.1 later.1 = false) :
    (entries.foldl
        (fun delta entry =>
          if before.get? entry.1 = some entry.2 then
            delta
          else
            delta.setNamed entry.1 entry.2)
        delta).get? target =
      ((entries.find? fun entry =>
          Name.sameIgnoringCase target.name entry.1 &&
            before.get? entry.1 != some entry.2).map Prod.snd).or
        (delta.get? target) := by
  induction entries generalizing delta with
  | nil =>
      simp
  | cons entry rest inductionHypothesis =>
      obtain ⟨differs, restDistinct⟩ := List.pairwise_cons.mp distinct
      rw [List.foldl_cons, inductionHypothesis restDistinct, List.find?_cons]
      by_cases known : before.get? entry.1 = some entry.2
      · simp [known]
      · rw [if_neg known, Delta.get?_setNamed]
        cases same : Name.sameIgnoringCase target.name entry.1 with
        | false =>
            simp
        | true =>
            have noneLater :
                (rest.find? fun later =>
                  Name.sameIgnoringCase target.name later.1 &&
                    before.get? later.1 != some later.2) = none := by
              rw [List.find?_eq_none]
              intro later member
              rw [Name.sameIgnoringCase_congr same, differs later member]
              simp
            simp [noneLater, bne_iff_ne.mpr known]

/-- A snapshot without spelling variants names every variable once. -/
theorem CaseDistinct.pairwise
    {snapshot : Snapshot}
    (distinct : snapshot.CaseDistinct) :
    snapshot.entries.Pairwise fun earlier later =>
      Name.sameIgnoringCase earlier.1 later.1 = false := by
  refine snapshot.ascending.imp_of_mem ?_
  intro earlier later earlierMember laterMember below
  rw [← Bool.not_eq_true]
  intro same
  have sameName := distinct earlier earlierMember later laterMember same
  exact String.lt_irrefl _ (sameName ▸ below)

/-- The difference holds the variables that the second snapshot gives another value. -/
theorem get?_diff_eq_some_iff
    {before after : Snapshot}
    {target : Variable}
    {value : String}
    (beforeDistinct : before.CaseDistinct)
    (afterDistinct : after.CaseDistinct) :
    (before.diff after).get? target = some value ↔
      after.get? target.name = some value ∧
        before.get? target.name ≠ some value := by
  rw [diff, get?_foldl_setNamed target afterDistinct.pairwise,
    Delta.get?_empty, Option.or_none, afterDistinct.get?_eq_some_iff]
  constructor
  · intro found
    obtain ⟨⟨name, present⟩, entryFound, rfl⟩ := Option.map_eq_some_iff.mp found
    have changed := List.find?_some entryFound
    simp only [Bool.and_eq_true, bne_iff_ne] at changed
    refine ⟨⟨name, List.mem_of_find?_eq_some entryFound, ?_⟩, ?_⟩
    · rw [Name.sameIgnoringCase_comm]
      exact changed.1
    · rw [beforeDistinct.get?_congr changed.1]
      exact changed.2
  · rintro ⟨⟨name, member, same⟩, changed⟩
    rw [← beforeDistinct.get?_congr same] at changed
    rw [Option.map_eq_some_iff]
    cases found :
        after.entries.find? fun entry =>
          Name.sameIgnoringCase target.name entry.1 &&
            before.get? entry.1 != some entry.2 with
    | none =>
        have unchanged := List.find?_eq_none.mp found _ member
        rw [Name.sameIgnoringCase_comm, same] at unchanged
        simp [changed] at unchanged
    | some entry =>
        have entrySame := List.find?_some found
        simp only [Bool.and_eq_true] at entrySame
        have one :=
          afterDistinct.eq_of_same member (List.mem_of_find?_eq_some found)
            (Name.sameIgnoringCase_trans same entrySame.1)
        exact ⟨entry, rfl, congrArg Prod.snd one.symm⟩

end Snapshot

end Provision
