import Provision.Text.Basic

namespace Provision.Text

/-!
# Words of a text

The words of a text are its longest runs of characters that are not blank: what
stands before a word is empty or ends in a blank, and what follows it is empty
or begins with one.
-/

/-- A word stands in a text between blanks or the ends of the text. -/
def IsWord (blank : Char → Bool) (text word : Text) : Prop :=
  ∃ before after,
    text = before ++ (word ++ after) ∧
      word ≠ [] ∧
      (∀ c ∈ word, blank c = false) ∧
      (∀ c, before.getLast? = some c → blank c = true) ∧
      (∀ c, after.head? = some c → blank c = true)

variable {blank : Char → Bool} {text word front : Text}

/-- A text without blanks that ends in one is empty. -/
private theorem eq_nil_of_last_blank
    (run : ∀ c ∈ front, blank c = false)
    (lastBlank : ∀ c, front.getLast? = some c → blank c = true) :
    front = [] := by
  cases last : front.getLast? with
  | none =>
      exact List.getLast?_eq_none_iff.mp last
  | some c =>
      have isBlank := lastBlank c last
      rw [run c (List.mem_of_getLast? last)] at isBlank
      cases isBlank

private theorem eq_nil_of_head_blank
    (run : ∀ c ∈ front, blank c = false)
    (headBlank : ∀ c, front.head? = some c → blank c = true) :
    front = [] := by
  cases first : front.head? with
  | none =>
      exact List.head?_eq_none_iff.mp first
  | some c =>
      have isBlank := headBlank c first
      rw [run c (List.mem_of_head? first)] at isBlank
      cases isBlank

/-- A run without blanks has no word but itself. -/
theorem isWord_run_iff
    (run : ∀ c ∈ front, blank c = false) :
    IsWord blank front word ↔ front ≠ [] ∧ word = front := by
  constructor
  · rintro ⟨before, after, rfl, nonempty, -, blankBefore, blankAfter⟩
    have noBefore :=
      eq_nil_of_last_blank (fun c member => run c (List.mem_append_left _ member))
        blankBefore
    have noAfter :=
      eq_nil_of_head_blank
        (fun c member => run c (List.mem_append_right _ (List.mem_append_right _ member)))
        blankAfter
    simp [noBefore, noAfter, nonempty]
  · rintro ⟨nonempty, rfl⟩
    exact ⟨[], [], by simp, nonempty, run, by simp, by simp⟩

section Blank

variable {c : Char} {rest : Text}

/-- A word that begins in a run in front of a blank is the run. -/
private theorem eq_run_of_begins_in_run
    {middle after : Text}
    (isBlank : blank c = true)
    (nonempty : word ≠ [])
    (solid : ∀ d ∈ word, blank d = false)
    (run : ∀ d ∈ middle, blank d = false)
    (blankAfter : ∀ d, after.head? = some d → blank d = true)
    (shape : word ++ after = middle ++ c :: rest) :
    middle ≠ [] ∧ word = middle := by
  rcases List.append_eq_append_iff.mp shape with
      ⟨tail, rfl, afterShape⟩ | ⟨tail, rfl, restShape⟩
  · have noTail :=
      eq_nil_of_head_blank
        (fun d member => run d (List.mem_append_right _ member))
        (fun d first => blankAfter d (by rw [afterShape]; simp [first]))
    simpa [noTail] using nonempty
  · cases tail with
    | nil =>
        simpa using nonempty
    | cons d tail =>
        obtain ⟨rfl, -⟩ := List.cons.inj restShape
        rw [solid c (List.mem_append_right _ List.mem_cons_self)] at isBlank
        cases isBlank

/-- A word behind a blank is a word of the whole text. -/
private theorem IsWord.append_cons
    (isBlank : blank c = true)
    (isWord : IsWord blank rest word) :
    IsWord blank (front ++ c :: rest) word := by
  obtain ⟨before, after, rfl, nonempty, solid, blankBefore, blankAfter⟩ := isWord
  refine ⟨front ++ c :: before, after, by simp, nonempty, solid, ?_, blankAfter⟩
  intro d last
  cases beforeLast : before.getLast? with
  | none =>
      rw [List.getLast?_eq_none_iff.mp beforeLast] at last
      simp at last
      exact last ▸ isBlank
  | some e =>
      simp [List.getLast?_append, List.getLast?_cons, beforeLast] at last
      exact last ▸ blankBefore e beforeLast

/-- A blank ends the run before it; the other words are those behind it. -/
theorem isWord_append_cons_iff
    (run : ∀ d ∈ front, blank d = false)
    (isBlank : blank c = true) :
    IsWord blank (front ++ c :: rest) word ↔
      (front ≠ [] ∧ word = front) ∨ IsWord blank rest word := by
  constructor
  · rintro ⟨before, after, shape, nonempty, solid, blankBefore, blankAfter⟩
    rcases List.append_eq_append_iff.mp shape with
        ⟨middle, rfl, restShape⟩ | ⟨middle, rfl, wordShape⟩
    · -- The word begins behind the run, and not with the blank.
      cases middle with
      | nil =>
          obtain ⟨first, more, rfl⟩ := List.exists_cons_of_ne_nil nonempty
          obtain ⟨rfl, -⟩ := List.cons.inj restShape
          rw [solid c List.mem_cons_self] at isBlank
          cases isBlank
      | cons first middle =>
          obtain ⟨-, rfl⟩ := List.cons.inj restShape
          refine .inr ⟨middle, after, rfl, nonempty, solid, ?_, blankAfter⟩
          intro d last
          refine blankBefore d ?_
          simp [List.getLast?_append, List.getLast?_cons, last]
    · -- The word begins in the run, and the run has no blank to begin it but its start.
      have noBefore :=
        eq_nil_of_last_blank (fun d member => run d (List.mem_append_left _ member))
          blankBefore
      subst noBefore
      rw [List.nil_append] at run ⊢
      exact .inl
        (eq_run_of_begins_in_run isBlank nonempty solid run blankAfter wordShape)
  · rintro (⟨nonempty, rfl⟩ | isWord)
    · exact ⟨[], c :: rest, by simp, nonempty, run, by simp, by simp [isBlank]⟩
    · exact isWord.append_cons isBlank

end Blank

/-- With a run read so far, what is left to find are the words of the run and the rest. -/
private theorem mem_go_iff
    (run : ∀ c ∈ front, blank c = false)
    (text : Text) :
    word ∈ wordsBy.go blank text front.reverse ↔
      IsWord blank (front ++ text) word := by
  induction text generalizing front with
  | nil =>
      rw [wordsBy.go, List.append_nil, isWord_run_iff run]
      split <;> simp_all
  | cons c rest inductionHypothesis =>
      rw [wordsBy.go]
      by_cases isBlank : blank c = true
      · rw [if_pos isBlank, isWord_append_cons_iff run isBlank]
        have restWords := @inductionHypothesis [] (by simp)
        rw [List.reverse_nil, List.nil_append] at restWords
        split
        · rw [restWords]
          simp_all
        · rw [List.mem_cons, restWords, List.reverse_reverse]
          simp_all
      · rw [if_neg isBlank, ← List.reverse_concat, inductionHypothesis]
        · simp
        · intro d member
          rcases List.mem_append.mp member with inFront | isLast
          · exact run d inFront
          · rw [List.mem_singleton.mp isLast]
            simpa using isBlank

theorem mem_wordsBy_iff :
    word ∈ wordsBy blank text ↔ IsWord blank text word :=
  @mem_go_iff blank word [] (by simp) text

end Provision.Text
