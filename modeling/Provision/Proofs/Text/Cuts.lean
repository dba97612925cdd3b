import Provision.Text.Basic

namespace Provision.Text

/-!
# Cuts at byte offsets

A cut of a text is named by the byte length of what stands before it. A cut
that succeeds gives back the two sides in order, and every way to write a text
as two sides is the cut at the length of the first. So offsets can be traded
for decompositions of the text, which is how every later module reads them.
-/

@[simp] theorem byteLength_nil : byteLength [] = 0 :=
  rfl

@[simp] theorem byteLength_cons
    (c : Char)
    (rest : Text) :
    byteLength (c :: rest) = c.utf8Size + byteLength rest :=
  rfl

@[simp] theorem byteLength_append
    (first second : Text) :
    byteLength (first ++ second) =
      byteLength first + byteLength second := by
  induction first with
  | nil =>
      simp
  | cons c rest inductionHypothesis =>
      simp [inductionHypothesis, Nat.add_assoc]

/-- Only the empty text has no bytes. -/
theorem byteLength_pos
    {text : Text}
    (nonempty : text ≠ []) :
    0 < byteLength text := by
  cases text with
  | nil =>
      exact (nonempty rfl).elim
  | cons c rest =>
      have positive := c.utf8Size_pos
      simp only [byteLength_cons]
      omega

/-- A text of one-byte characters has as many bytes as characters. -/
theorem byteLength_eq_length
    {text : Text}
    (oneByte : ∀ c ∈ text, c.utf8Size = 1) :
    byteLength text = text.length := by
  induction text with
  | nil =>
      rfl
  | cons c rest inductionHypothesis =>
      have restLength :=
        inductionHypothesis fun later member =>
          oneByte later (List.mem_cons_of_mem c member)
      have headSize := oneByte c List.mem_cons_self
      simp only [byteLength_cons, List.length_cons]
      omega

/-- What stands before a place, if one more character stands in front of the text. -/
theorem getLast?_cons_or
    (c : Char)
    (text : Text)
    (before : Option Char) :
    (c :: text).getLast?.or before = text.getLast?.or (some c) := by
  rw [List.getLast?_cons]
  cases text.getLast? <;> rfl

/-- Cutting inside the first character fails; cutting behind it goes on in the rest. -/
private theorem splitAtByte?_cons
    (c : Char)
    (rest : Text)
    (offset : Nat) :
    splitAtByte? (c :: rest) (c.utf8Size + offset) =
      (splitAtByte? rest offset).map
        fun sides => (c :: sides.1, sides.2) := by
  have positive := c.utf8Size_pos
  obtain ⟨size, sizeShape⟩ : ∃ size, c.utf8Size = size + 1 :=
    ⟨c.utf8Size - 1, by omega⟩
  have within : c.utf8Size ≤ size + offset + 1 := by omega
  have remaining : size + offset + 1 - c.utf8Size = offset := by omega
  rw [show c.utf8Size + offset = size + offset + 1 by omega]
  simp only [splitAtByte?, within, ↓reduceIte, remaining]

/-- The cut at the length of one side gives both sides back. -/
@[simp] theorem splitAtByte?_append
    (before after : Text) :
    splitAtByte? (before ++ after) (byteLength before) =
      some (before, after) := by
  induction before with
  | nil =>
      cases after <;> rfl
  | cons c rest inductionHypothesis =>
      rw [List.cons_append, byteLength_cons, splitAtByte?_cons,
        inductionHypothesis]
      rfl

/-- A cut loses nothing and stands where the offset says. -/
theorem eq_append_of_splitAtByte?
    {text before after : Text}
    {offset : Nat}
    (cut : splitAtByte? text offset = some (before, after)) :
    text = before ++ after ∧ byteLength before = offset := by
  induction text generalizing offset before after with
  | nil =>
      cases offset with
      | zero =>
          simp only [splitAtByte?, Option.some.injEq, Prod.mk.injEq] at cut
          obtain ⟨rfl, rfl⟩ := cut
          exact ⟨rfl, rfl⟩
      | succ offset =>
          simp [splitAtByte?] at cut
  | cons c rest inductionHypothesis =>
      cases offset with
      | zero =>
          simp only [splitAtByte?, Option.some.injEq, Prod.mk.injEq] at cut
          obtain ⟨rfl, rfl⟩ := cut
          exact ⟨rfl, rfl⟩
      | succ offset =>
          simp only [splitAtByte?] at cut
          split at cut
          · rename_i within
            obtain ⟨⟨inner, outer⟩, restCut, sides⟩ :=
              Option.map_eq_some_iff.mp cut
            simp only [Prod.mk.injEq] at sides
            obtain ⟨rfl, rfl⟩ := sides
            obtain ⟨restShape, innerLength⟩ := inductionHypothesis restCut
            refine ⟨by rw [restShape, List.cons_append], ?_⟩
            simp only [byteLength_cons, innerLength]
            omega
          · cases cut

/-- Cuts are exactly the ways to write a text as two sides. -/
theorem splitAtByte?_eq_some_iff
    {text before after : Text}
    {offset : Nat} :
    splitAtByte? text offset = some (before, after) ↔
      text = before ++ after ∧ byteLength before = offset := by
  constructor
  · exact eq_append_of_splitAtByte?
  · rintro ⟨rfl, rfl⟩
    exact splitAtByte?_append before after

@[simp] theorem before?_append
    (before after : Text) :
    before? (before ++ after) (byteLength before) = some before := by
  simp [before?]

@[simp] theorem after?_append
    (before after : Text) :
    after? (before ++ after) (byteLength before) = some after := by
  simp [after?]

/-- What stands behind the middle one of three parts. -/
theorem after?_append_middle
    (before middle after : Text) :
    after? (before ++ (middle ++ after)) (byteLength (before ++ middle)) =
      some after := by
  rw [← List.append_assoc]
  exact after?_append (before ++ middle) after

/-- What follows an offset, as a decomposition of the text. -/
theorem after?_eq_some_iff
    {text after : Text}
    {offset : Nat} :
    after? text offset = some after ↔
      ∃ before, text = before ++ after ∧ byteLength before = offset := by
  simp [after?, splitAtByte?_eq_some_iff]

/-- The slice between two cuts is what stands between them. -/
theorem slice?_append
    (before middle after : Text) :
    slice? (before ++ (middle ++ after))
        ⟨byteLength before, byteLength (before ++ middle)⟩ =
      some middle := by
  have upToStop :
      before? (before ++ (middle ++ after)) (byteLength (before ++ middle)) =
        some (before ++ middle) := by
    rw [← List.append_assoc]
    exact before?_append (before ++ middle) after
  simp only [slice?, upToStop, Option.bind_eq_bind, Option.bind_some,
    after?_append]

/-- Two cuts at the same offset have the same sides. -/
theorem append_inj_of_byteLength
    {before after otherBefore otherAfter : Text}
    (same : before ++ after = otherBefore ++ otherAfter)
    (sameLength : byteLength before = byteLength otherBefore) :
    before = otherBefore ∧ after = otherAfter := by
  have cut := splitAtByte?_append before after
  rw [same, sameLength, splitAtByte?_append] at cut
  simpa [eq_comm] using cut

/-- Of two cuts of one text, the later one has the earlier one on its first side. -/
theorem exists_between_of_byteLength_le
    {before after laterBefore laterAfter : Text}
    (same : before ++ after = laterBefore ++ laterAfter)
    (ordered : byteLength before ≤ byteLength laterBefore) :
    ∃ between,
      laterBefore = before ++ between ∧
        after = between ++ laterAfter := by
  rcases List.append_eq_append_iff.mp same with
      ⟨between, laterShape, afterShape⟩ |
      ⟨between, beforeShape, laterAfterShape⟩
  · exact ⟨between, laterShape, afterShape⟩
  · have emptyBetween : between = [] := by
      by_cases empty : between = []
      · exact empty
      · have positive := byteLength_pos empty
        have lengths := congrArg byteLength beforeShape
        rw [byteLength_append] at lengths
        omega
    subst emptyBetween
    exact ⟨[], by simpa using beforeShape.symm,
      by simpa using laterAfterShape.symm⟩

end Provision.Text
