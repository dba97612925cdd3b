import Provision.Environment.Snapshot

namespace Provision

/-!
# Looking variables up

Operating systems that leave out letter case hold no two names that differ only
in it. Of such a snapshot, every spelling of a name finds the one variable that
has the name in some spelling.
-/

namespace Name

@[simp] theorem sameIgnoringCase_refl
    (name : String) :
    sameIgnoringCase name name = true :=
  beq_self_eq_true _

theorem sameIgnoringCase_comm
    (left right : String) :
    sameIgnoringCase left right = sameIgnoringCase right left :=
  Bool.beq_comm

theorem sameIgnoringCase_trans
    {first second third : String}
    (front : sameIgnoringCase first second = true)
    (back : sameIgnoringCase second third = true) :
    sameIgnoringCase first third = true := by
  rw [sameIgnoringCase, beq_iff_eq] at *
  exact front.trans back

/-- Spellings of one name are compared alike with any other. -/
theorem sameIgnoringCase_congr
    {first second : String}
    (same : sameIgnoringCase first second = true)
    (other : String) :
    sameIgnoringCase first other = sameIgnoringCase second other := by
  rw [sameIgnoringCase, beq_iff_eq] at same
  rw [sameIgnoringCase, sameIgnoringCase, same]

end Name

/-- An ascending list holds one value of a name. -/
theorem Ascending.eq_of_name_eq
    {entries : List (String × String)}
    (ascending : Ascending entries)
    {first second : String × String}
    (firstMember : first ∈ entries)
    (secondMember : second ∈ entries)
    (sameName : first.1 = second.1) :
    first = second := by
  induction entries with
  | nil =>
      cases firstMember
  | cons entry rest inductionHypothesis =>
      obtain ⟨below, restAscending⟩ := List.pairwise_cons.mp ascending
      rcases List.mem_cons.mp firstMember with rfl | firstInRest
      · rcases List.mem_cons.mp secondMember with rfl | secondInRest
        · rfl
        · exact (String.lt_irrefl _ (sameName ▸ below second secondInRest)).elim
      · rcases List.mem_cons.mp secondMember with rfl | secondInRest
        · exact (String.lt_irrefl _ (sameName ▸ below first firstInRest)).elim
        · exact inductionHypothesis restAscending firstInRest secondInRest

namespace Snapshot

/-- No two names differ only in letter case. -/
def CaseDistinct (snapshot : Snapshot) : Prop :=
  ∀ first ∈ snapshot.entries, ∀ second ∈ snapshot.entries,
    Name.sameIgnoringCase first.1 second.1 = true → first.1 = second.1

instance (snapshot : Snapshot) : Decidable snapshot.CaseDistinct :=
  inferInstanceAs (Decidable (∀ first ∈ snapshot.entries, ∀ second ∈ snapshot.entries,
    Name.sameIgnoringCase first.1 second.1 = true → first.1 = second.1))

variable {snapshot : Snapshot} {name value : String}

/-- Two variables of the same name in some spelling are one. -/
theorem CaseDistinct.eq_of_same
    (distinct : snapshot.CaseDistinct)
    {first second : String × String}
    (firstMember : first ∈ snapshot.entries)
    (secondMember : second ∈ snapshot.entries)
    (same : Name.sameIgnoringCase first.1 second.1 = true) :
    first = second :=
  snapshot.ascending.eq_of_name_eq firstMember secondMember
    (distinct first firstMember second secondMember same)

/-- What is found under a name is a variable of the name in some spelling. -/
theorem exists_of_get?_eq_some
    (found : snapshot.get? name = some value) :
    ∃ stored, (stored, value) ∈ snapshot.entries ∧
      Name.sameIgnoringCase stored name = true := by
  rcases Option.or_eq_some_iff.mp found with exact | ⟨-, other⟩
  · obtain ⟨front, back, shape, -⟩ := List.lookup_eq_some_iff.mp exact
    refine ⟨name, ?_, Name.sameIgnoringCase_refl name⟩
    rw [shape]
    exact List.mem_append_right front List.mem_cons_self
  · obtain ⟨⟨stored, present⟩, entryFound, rfl⟩ := Option.map_eq_some_iff.mp other
    have same := List.find?_some entryFound
    exact ⟨stored, List.mem_of_find?_eq_some entryFound, same⟩

/-- A variable is found under every spelling of its name. -/
theorem CaseDistinct.get?_eq_some_iff
    (distinct : snapshot.CaseDistinct) :
    snapshot.get? name = some value ↔
      ∃ stored, (stored, value) ∈ snapshot.entries ∧
        Name.sameIgnoringCase stored name = true := by
  constructor
  · exact exists_of_get?_eq_some
  rintro ⟨stored, member, same⟩
  have isFound : snapshot.get? name ≠ none := by
    intro nothing
    obtain ⟨-, otherMissing⟩ := Option.or_eq_none_iff.mp nothing
    rw [anyCase?, Option.map_eq_none_iff, List.find?_eq_none] at otherMissing
    exact otherMissing (stored, value) member same
  obtain ⟨found, foundShape⟩ := Option.ne_none_iff_exists'.mp isFound
  obtain ⟨other, otherMember, otherSame⟩ := exists_of_get?_eq_some foundShape
  rw [Name.sameIgnoringCase_comm] at same
  have one :=
    distinct.eq_of_same otherMember member
      (Name.sameIgnoringCase_trans otherSame same)
  rw [foundShape, (Prod.mk.inj one).2]

/-- Spellings of one name find the same. -/
theorem CaseDistinct.get?_congr
    (distinct : snapshot.CaseDistinct)
    {first second : String}
    (same : Name.sameIgnoringCase first second = true) :
    snapshot.get? first = snapshot.get? second := by
  apply Option.ext
  intro value
  rw [distinct.get?_eq_some_iff, distinct.get?_eq_some_iff]
  simp only [Name.sameIgnoringCase_comm _ first, Name.sameIgnoringCase_comm _ second,
    Name.sameIgnoringCase_congr same]

/-- The variables whose names differ from a name at most in case, in order. -/
def spellings (snapshot : Snapshot) (name : String) : List (String × String) :=
  snapshot.entries.filter fun entry => Name.sameIgnoringCase entry.1 name

/-- Variables of other names do not matter to what is found exactly. -/
theorem named?_eq_spellings
    (snapshot : Snapshot)
    (name : String) :
    snapshot.named? name = (snapshot.spellings name).lookup name := by
  rw [named?, spellings]
  induction snapshot.entries with
  | nil =>
      rfl
  | cons entry rest inductionHypothesis =>
      obtain ⟨stored, value⟩ := entry
      rw [List.filter_cons]
      split
      · rw [List.lookup_cons, List.lookup_cons, inductionHypothesis]
      · rename_i other
        have isOther : (name == stored) = false := by
          rw [beq_eq_false_iff_ne]
          rintro rfl
          exact other (Name.sameIgnoringCase_refl name)
        rw [List.lookup_cons, isOther, inductionHypothesis]

/-- Of the spellings of a name, the exact one is found, or else the first. -/
theorem get?_eq_spellings
    (snapshot : Snapshot)
    (name : String) :
    snapshot.get? name =
      ((snapshot.spellings name).lookup name).or
        ((snapshot.spellings name).head?.map Prod.snd) := by
  rw [get?, named?_eq_spellings, anyCase?, spellings, List.head?_filter]

/-- What is put in under another name leaves the spellings of a name alone. -/
theorem spellings_insert_of_other
    {stored : String}
    (other : Name.sameIgnoringCase stored name = false) :
    (snapshot.insert stored value).spellings name = snapshot.spellings name := by
  change (insertEntry stored value snapshot.entries).filter _ = snapshot.entries.filter _
  induction snapshot.entries with
  | nil =>
      simp [insertEntry, other]
  | cons first rest inductionHypothesis =>
      obtain ⟨present, old⟩ := first
      rw [insertEntry]
      split
      · simp [other]
      · split
        · rename_i same
          subst same
          simp [other]
        · rw [List.filter_cons, List.filter_cons, inductionHypothesis]

/-- Where a name has no spelling yet, what is put in under one is the only one. -/
theorem spellings_insert_of_none
    {stored : String}
    (same : Name.sameIgnoringCase stored name = true)
    (none : snapshot.spellings name = []) :
    (snapshot.insert stored value).spellings name = [(stored, value)] := by
  change (insertEntry stored value snapshot.entries).filter _ = _
  change snapshot.entries.filter _ = [] at none
  generalize snapshot.entries = entries at none ⊢
  induction entries with
  | nil =>
      simp [insertEntry, same]
  | cons first rest inductionHypothesis =>
      obtain ⟨present, old⟩ := first
      rw [List.filter_cons] at none
      split at none
      · cases none
      · rename_i notFirst
        rw [insertEntry]
        split
        · simp [same, notFirst, none]
        · split
          · simp [same, none]
          · simp [notFirst, inductionHypothesis none]

/-- A variable that is put into an ascending list replaces only that of its name. -/
theorem mem_insertEntry_iff
    {entries : List (String × String)}
    (ascending : Ascending entries)
    (entry : String × String) :
    entry ∈ insertEntry name value entries ↔
      entry = (name, value) ∨ (entry ∈ entries ∧ entry.1 ≠ name) := by
  induction entries with
  | nil =>
      simp [insertEntry]
  | cons first rest inductionHypothesis =>
      obtain ⟨other, present⟩ := first
      obtain ⟨below, restAscending⟩ := List.pairwise_cons.mp ascending
      rw [insertEntry]
      split
      · rename_i before
        have differs :
            entry ∈ (other, present) :: rest → entry.1 ≠ name := by
          rintro member rfl
          rcases List.mem_cons.mp member with rfl | inRest
          · exact String.lt_irrefl _ before
          · exact String.lt_irrefl _ (String.lt_trans before (below entry inRest))
        rw [List.mem_cons]
        exact or_congr_right (iff_self_and.mpr differs)
      · split
        · rename_i same
          subst same
          have differs : entry ∈ rest → entry.1 ≠ name :=
            fun inRest isName =>
              String.lt_irrefl _ (isName ▸ below entry inRest)
          rw [List.mem_cons, List.mem_cons]
          refine or_congr_right ⟨fun inRest => ⟨.inr inRest, differs inRest⟩, ?_⟩
          rintro ⟨rfl | inRest, isOther⟩
          · exact (isOther rfl).elim
          · exact inRest
        · rename_i different
          rw [List.mem_cons, inductionHypothesis restAscending, List.mem_cons]
          constructor
          · rintro (rfl | rfl | ⟨inRest, isOther⟩)
            · exact .inr ⟨.inl rfl, Ne.symm different⟩
            · exact .inl rfl
            · exact .inr ⟨.inr inRest, isOther⟩
          · rintro (rfl | ⟨rfl | inRest, isOther⟩)
            · exact .inr (.inl rfl)
            · exact .inl rfl
            · exact .inr (.inr ⟨inRest, isOther⟩)

theorem mem_insert_iff
    (entry : String × String) :
    entry ∈ (snapshot.insert name value).entries ↔
      entry = (name, value) ∨ (entry ∈ snapshot.entries ∧ entry.1 ≠ name) :=
  mem_insertEntry_iff snapshot.ascending entry

/--
What a snapshot holds after entries were put into it one by one, where each one
takes the place of the entries that are not free of it.
-/
theorem mem_foldl_iff
    {put : Snapshot → String × String → Snapshot}
    {free : String × String → String × String → Prop}
    (mem_put_iff :
      ∀ snapshot added entry,
        entry ∈ (put snapshot added).entries ↔
          entry = added ∨ (entry ∈ snapshot.entries ∧ free entry added))
    {entries : List (String × String)}
    (eachFree : entries.Pairwise free)
    (entry : String × String) :
    entry ∈ (entries.foldl put snapshot).entries ↔
      entry ∈ entries ∨ (entry ∈ snapshot.entries ∧ ∀ added ∈ entries, free entry added) := by
  induction entries generalizing snapshot with
  | nil =>
      simp
  | cons first rest inductionHypothesis =>
      obtain ⟨firstFree, restFree⟩ := List.pairwise_cons.mp eachFree
      rw [List.foldl_cons, inductionHypothesis restFree, mem_put_iff, List.mem_cons,
        List.forall_mem_cons]
      constructor
      · rintro (inRest | ⟨rfl | ⟨inSnapshot, notFirst⟩, notRest⟩)
        · exact .inl (.inr inRest)
        · exact .inl (.inl rfl)
        · exact .inr ⟨inSnapshot, notFirst, notRest⟩
      · rintro ((rfl | inRest) | ⟨inSnapshot, notFirst, notRest⟩)
        · exact .inr ⟨.inl rfl, firstFree⟩
        · exact .inl inRest
        · exact .inr ⟨.inr ⟨inSnapshot, notFirst⟩, notRest⟩

theorem mem_dropNames_iff
    {dropped : String → Bool}
    (entry : String × String) :
    entry ∈ (snapshot.dropNames dropped).entries ↔
      entry ∈ snapshot.entries ∧ dropped entry.1 = false := by
  simp [dropNames]

end Snapshot

end Provision
