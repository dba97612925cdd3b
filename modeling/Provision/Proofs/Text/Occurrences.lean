import Provision.Text.Basic

namespace Provision.Text

/-!
# Occurrences of a part

A part occurs in a text once for every place from which the text reads it.
Joining two texts adds their occurrences up as long as no occurrence reaches
across the seam, which a single character beside the seam can rule out.
-/

/-- How many places of a text a part can be read from. -/
def occurrences (part : Text) : Text → Nat
  | [] => if part.isEmpty then 1 else 0
  | c :: rest =>
      if part.isPrefixOf (c :: rest) then
        occurrences part rest + 1
      else
        occurrences part rest

/--
No occurrence of a part has one piece at the end of the first text and its
other piece at the start of the second.
-/
def Parted (part first second : Text) : Prop :=
  ∀ ending opening,
    ending ≠ [] →
    opening ≠ [] →
    ending <:+ first →
    opening <+: second →
    part ≠ ending ++ opening

/-- The test for a part decides whether it is an infix. -/
theorem hasInfix_iff_infix
    {text part : Text} :
    hasInfix text part = true ↔ part <:+: text := by
  induction text with
  | nil =>
      simp [hasInfix]
  | cons c rest inductionHypothesis =>
      simp only [hasInfix, Bool.or_eq_true, inductionHypothesis,
        List.isPrefixOf_iff_prefix, List.infix_cons_iff]

/-- A foreign character at its start keeps a text from starting with a part. -/
theorem not_prefix_cons_of_notMem
    {part : Text}
    {c : Char}
    (nonempty : part ≠ [])
    (foreign : c ∉ part)
    (rest : Text) :
    ¬ part <+: c :: rest := by
  cases part with
  | nil =>
      exact (nonempty rfl).elim
  | cons first more =>
      rw [List.cons_prefix_cons]
      rintro ⟨rfl, -⟩
      exact foreign List.mem_cons_self

/-- Leading foreign characters take no part in an occurrence. -/
theorem infix_append_iff_of_foreign
    {part first second : Text}
    (nonempty : part ≠ [])
    (foreign : ∀ c ∈ first, c ∉ part) :
    part <:+: first ++ second ↔ part <:+: second := by
  induction first with
  | nil =>
      rfl
  | cons c rest inductionHypothesis =>
      have notHere :=
        not_prefix_cons_of_notMem nonempty
          (foreign c List.mem_cons_self) (rest ++ second)
      rw [List.cons_append, List.infix_cons_iff,
        inductionHypothesis fun d member =>
          foreign d (List.mem_cons_of_mem c member)]
      exact or_iff_right notHere

namespace Parted

/-- Characters far from the seam have no say in it. -/
theorem of_cons
    {part first second : Text}
    {c : Char}
    (parted : Parted part (c :: first) second) :
    Parted part first second := by
  intro ending opening endingNonempty openingNonempty endsFirst
  exact parted ending opening endingNonempty openingNonempty
    (endsFirst.trans (List.suffix_cons c first))

/-- A foreign character right before the seam parts every occurrence. -/
theorem of_last
    {part first second : Text}
    {c : Char}
    (last : first.getLast? = some c)
    (foreign : c ∉ part) :
    Parted part first second := by
  rintro ending opening endingNonempty - endsFirst - rfl
  obtain ⟨leading, rfl⟩ := endsFirst
  have endingLast : ending.getLast? = some c := by
    simpa [List.getLast?_append, endingNonempty] using last
  exact foreign
    (List.mem_append_left opening (List.mem_of_getLast? endingLast))

/-- A foreign character right behind the seam parts every occurrence. -/
theorem of_head
    {part first second : Text}
    {c : Char}
    (head : second.head? = some c)
    (foreign : c ∉ part) :
    Parted part first second := by
  rintro ending opening - openingNonempty - ⟨later, rfl⟩ rfl
  cases opening with
  | nil =>
      exact openingNonempty rfl
  | cons d more =>
      have sameHead : d = c := by simpa using head
      exact foreign (by simp [sameHead])

/-- An occurrence in a parted text lies on one side of the seam. -/
theorem infix_append_iff
    {part first second : Text}
    (parted : Parted part first second) :
    part <:+: first ++ second ↔
      part <:+: first ∨ part <:+: second := by
  rw [List.infix_append_iff_ne_nil]
  constructor
  · rintro (inFirst | inSecond | ⟨ending, opening, endingNonempty,
      openingNonempty, shape, endsFirst, opensSecond⟩)
    · exact Or.inl inFirst
    · exact Or.inr inSecond
    · exact (parted ending opening endingNonempty openingNonempty
        endsFirst opensSecond shape).elim
  · rintro (inFirst | inSecond)
    · exact Or.inl inFirst
    · exact Or.inr (Or.inl inSecond)

/-- An occurrence at the start of a parted text lies before the seam. -/
theorem prefix_append_iff
    {part first second : Text}
    (parted : Parted part first second)
    (nonempty : first ≠ []) :
    part <+: first ++ second ↔ part <+: first := by
  constructor
  · rintro ⟨later, shape⟩
    rcases List.append_eq_append_iff.mp shape with
        ⟨between, firstShape, -⟩ | ⟨opening, partShape, secondShape⟩
    · exact ⟨between, firstShape.symm⟩
    · by_cases openingEmpty : opening = []
      · have whole : part = first := by
          rw [partShape, openingEmpty, List.append_nil]
        exact ⟨[], by rw [whole, List.append_nil]⟩
      · exact (parted first opening nonempty openingEmpty
          List.suffix_rfl ⟨later, secondShape.symm⟩ partShape).elim
  · intro opensFirst
    exact opensFirst.trans (List.prefix_append first second)

/-- Occurrences on the two sides of a parted seam add up. -/
theorem occurrences_append
    {part first second : Text}
    (nonempty : part ≠ [])
    (parted : Parted part first second) :
    occurrences part (first ++ second) =
      occurrences part first + occurrences part second := by
  induction first with
  | nil =>
      simp [occurrences, nonempty]
  | cons c rest inductionHypothesis =>
      have sameHere :
          part.isPrefixOf (c :: (rest ++ second)) =
            part.isPrefixOf (c :: rest) := by
        rw [Bool.eq_iff_iff, List.isPrefixOf_iff_prefix,
          List.isPrefixOf_iff_prefix, ← List.cons_append]
        exact parted.prefix_append_iff (List.cons_ne_nil c rest)
      have restSum := inductionHypothesis parted.of_cons
      simp only [List.cons_append, occurrences, sameHere, restSum]
      split <;> omega

end Parted

/-- A part occurs nowhere exactly when it is no infix. -/
theorem occurrences_eq_zero_iff
    {part text : Text}
    (nonempty : part ≠ []) :
    occurrences part text = 0 ↔ ¬ part <:+: text := by
  induction text with
  | nil =>
      simp [occurrences, nonempty]
  | cons c rest inductionHypothesis =>
      rw [List.infix_cons_iff, ← List.isPrefixOf_iff_prefix, not_or,
        ← inductionHypothesis, occurrences]
      split <;> simp_all

/-- An infix occurs. -/
theorem occurrences_pos
    {part text : Text}
    (nonempty : part ≠ [])
    (occurs : part <:+: text) :
    0 < occurrences part text :=
  Nat.pos_of_ne_zero fun none =>
    (occurrences_eq_zero_iff nonempty).mp none occurs

/-- Of two readings of a part that occurs once, the second does not start later. -/
private theorem not_later_of_occurrences_eq_one
    {part before after trailing : Text}
    (nonempty : part ≠ [])
    (shape : part ++ after = before ++ (part ++ trailing))
    (once : occurrences part (part ++ after) = 1) :
    before = [] := by
  cases before with
  | nil =>
      rfl
  | cons c more =>
      have readsHere :
          part.isPrefixOf (c :: (more ++ (part ++ trailing))) = true := by
        rw [List.isPrefixOf_iff_prefix, ← List.cons_append, ← shape]
        exact List.prefix_append part after
      have readsLater :=
        occurrences_pos nonempty (List.infix_append' more part trailing)
      rw [shape, List.cons_append, occurrences, readsHere] at once
      simp only [↓reduceIte] at once
      omega

/-- Dropping leading text drops no occurrence that starts behind it. -/
theorem occurrences_le_append
    (part leading text : Text) :
    occurrences part text ≤ occurrences part (leading ++ text) := by
  induction leading with
  | nil =>
      simp
  | cons c rest inductionHypothesis =>
      rw [List.cons_append, occurrences]
      split <;> omega

/-- A part that occurs once stands at one place only. -/
theorem eq_of_occurrences_eq_one
    {part before after otherBefore otherAfter : Text}
    (nonempty : part ≠ [])
    (once : occurrences part (before ++ (part ++ after)) = 1)
    (same :
      before ++ (part ++ after) =
        otherBefore ++ (part ++ otherAfter)) :
    before = otherBefore := by
  rcases List.append_eq_append_iff.mp same with
      ⟨between, otherShape, tails⟩ | ⟨between, shape, tails⟩
  · have tailCount := occurrences_le_append part before (part ++ after)
    have tailOccurs :=
      occurrences_pos nonempty (List.prefix_append part after).isInfix
    have emptyBetween :=
      not_later_of_occurrences_eq_one nonempty tails (by omega)
    rw [otherShape, emptyBetween, List.append_nil]
  · rw [same] at once
    have tailCount :=
      occurrences_le_append part otherBefore (part ++ otherAfter)
    have tailOccurs :=
      occurrences_pos nonempty (List.prefix_append part otherAfter).isInfix
    have emptyBetween :=
      not_later_of_occurrences_eq_one nonempty tails (by omega)
    rw [shape, emptyBetween, List.append_nil]

end Provision.Text
