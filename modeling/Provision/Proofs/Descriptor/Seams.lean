import Provision.Proofs.Descriptor.Words

namespace Provision.Descriptor

/-!
# Words in joined texts

Where no identifier reaches across the seam of two texts, the words of the
joined text are those of the first followed by those of the second, read in the
state and at the offset that the first leaves behind. What is read before a text
matters only by whether it continues an identifier.
-/

/-- Characters far from the seam have no say in it. -/
theorem SeparatesWords.of_cons
    {first second : Text}
    {c : Char}
    (separates : SeparatesWords (c :: first) second) :
    SeparatesWords first second := by
  cases first with
  | nil =>
      exact Or.inl rfl
  | cons d rest =>
      simpa [SeparatesWords, List.getLast?_cons_cons] using separates

namespace IsWord

variable {keyword : Text}

/-- A word has an identifier character at each end of each of its pieces. -/
private theorem any_of_eq_append
    (word : IsWord keyword)
    {ending opening : Text}
    (shape : keyword = ending ++ opening)
    (endingNonempty : ending ≠ [])
    (openingNonempty : opening ≠ []) :
    ending.getLast?.any isIdentifierChar = true ∧
      opening.head?.any isIdentifierChar = true := by
  have lastIdentifier :=
    word.identifier (ending.getLast endingNonempty)
      (by simp [shape, List.getLast_mem])
  have headIdentifier :=
    word.identifier (opening.head openingNonempty)
      (by simp [shape, List.head_mem])
  rw [List.getLast?_eq_some_getLast endingNonempty,
    List.head?_eq_some_head openingNonempty]
  exact ⟨lastIdentifier, headIdentifier⟩

/-- No word is read across a seam that separates words. -/
theorem opensWith_append
    (word : IsWord keyword)
    {first second : Text}
    (nonempty : first ≠ [])
    (separates : SeparatesWords first second)
    (before : Option Char) :
    opensWith keyword before (first ++ second) =
      opensWith keyword before first := by
  rw [Bool.eq_iff_iff, opensWith_iff, opensWith_iff]
  constructor
  · rintro ⟨trailing, shape, alone⟩
    rcases List.append_eq_append_iff.mp shape with
        ⟨opening, keywordShape, secondShape⟩ | ⟨between, firstShape, rfl⟩
    · by_cases openingEmpty : opening = []
      · refine ⟨[], by simp [keywordShape, openingEmpty], ?_⟩
        simp only [standsAlone, Bool.and_eq_true] at alone ⊢
        exact ⟨alone.1, rfl⟩
      · have ends := word.any_of_eq_append keywordShape nonempty openingEmpty
        have headAny : second.head?.any isIdentifierChar = true := by
          cases opening with
          | nil =>
              exact (openingEmpty rfl).elim
          | cons c more =>
              simpa [secondShape] using ends.2
        rcases separates with lastFree | headFree
        · simp [ends.1] at lastFree
        · simp [headAny] at headFree
    · refine ⟨between, firstShape, ?_⟩
      cases between with
      | nil =>
          simp only [standsAlone, Bool.and_eq_true] at alone ⊢
          exact ⟨alone.1, rfl⟩
      | cons c more =>
          simpa using alone
  · rintro ⟨trailing, rfl, alone⟩
    refine ⟨trailing ++ second, by rw [List.append_assoc], ?_⟩
    cases trailing with
    | nil =>
        have lastAny :
            keyword.getLast?.any isIdentifierChar = true := by
          rw [List.getLast?_eq_some_getLast word.nonempty]
          exact word.identifier _ (List.getLast_mem word.nonempty)
        rcases separates with lastFree | headFree
        · simp [lastAny] at lastFree
        · simp only [standsAlone, Bool.and_eq_true] at alone ⊢
          exact ⟨alone.1, by simpa using headFree⟩
    | cons c more =>
        simpa using alone

/-- The words of a joined text, when no identifier reaches across the seam. -/
theorem wordStartsFrom_append
    (word : IsWord keyword)
    {first second : Text}
    (separates : SeparatesWords first second)
    (state : LexicalState)
    (before : Option Char)
    (offset : Nat) :
    wordStartsFrom keyword state before offset (first ++ second) =
      wordStartsFrom keyword state before offset first ++
        wordStartsFrom keyword (state.run first) (first.getLast?.or before)
          (offset + Text.byteLength first) second := by
  induction first generalizing state before offset with
  | nil =>
      simp [wordStartsFrom]
  | cons c rest inductionHypothesis =>
      have sameHere :=
        word.opensWith_append (List.cons_ne_nil c rest) separates before
      have restSplit :=
        inductionHypothesis separates.of_cons (state.step c) (some c)
          (offset + c.utf8Size)
      rw [List.cons_append] at sameHere ⊢
      simp only [wordStartsFrom, sameHere, restSplit, Text.getLast?_cons_or,
        LexicalState.run_cons, Text.byteLength_cons, Nat.add_assoc]
      split <;> rfl

/-- Starting further on shifts every offset. -/
theorem wordStartsFrom_add
    (keyword : Text)
    (state : LexicalState)
    (before : Option Char)
    (offset distance : Nat)
    (text : Text) :
    wordStartsFrom keyword state before (offset + distance) text =
      (wordStartsFrom keyword state before offset text).map
        (· + distance) := by
  induction text generalizing state before offset with
  | nil =>
      rfl
  | cons c rest inductionHypothesis =>
      have restShift :=
        inductionHypothesis (state.step c) (some c) (offset + c.utf8Size)
      rw [Nat.add_right_comm] at restShift
      simp only [wordStartsFrom, restShift]
      split <;> rfl

/-- Two characters that both end an identifier are the same to the words after them. -/
theorem wordStartsFrom_congr_before
    (keyword : Text)
    (state : LexicalState)
    {before other : Option Char}
    (same :
      before.any isIdentifierChar = other.any isIdentifierChar)
    (offset : Nat)
    (text : Text) :
    wordStartsFrom keyword state before offset text =
      wordStartsFrom keyword state other offset text := by
  cases text with
  | nil =>
      rfl
  | cons c rest =>
      have sameOpens :
          opensWith keyword before (c :: rest) =
            opensWith keyword other (c :: rest) := by
        simp only [opensWith, standsAlone, same]
      rw [wordStartsFrom, wordStartsFrom, sameOpens]

/-- A word lies within the text it is found in. -/
theorem lt_of_mem_wordStartsFrom
    (word : IsWord keyword)
    {state : LexicalState}
    {before : Option Char}
    {offset place : Nat}
    {text : Text}
    (member : place ∈ wordStartsFrom keyword state before offset text) :
    offset ≤ place ∧ place < offset + Text.byteLength text := by
  obtain ⟨leading, trailing, rfl, rfl, -, -⟩ :=
    word.mem_wordStartsFrom_iff.mp member
  have positive := Text.byteLength_pos word.nonempty
  simp only [Text.byteLength_append]
  omega

/-- Behind a text that ends in code and in no identifier, words are found as from a start. -/
theorem keywordStarts_append
    (word : IsWord keyword)
    {first : Text}
    (inCode : LexicalState.run .code first = .code)
    (ends : first.getLast?.any isIdentifierChar = false)
    (second : Text) :
    keywordStarts (first ++ second) keyword =
      keywordStarts first keyword ++
        (keywordStarts second keyword).map
          (· + Text.byteLength first) := by
  have sameBefore :
      (first.getLast?.or none).any isIdentifierChar =
        (none : Option Char).any isIdentifierChar := by
    rw [Option.or_none, ends]
    rfl
  simp only [word.keywordStarts_eq]
  rw [word.wordStartsFrom_append (Or.inl ends), inCode,
    wordStartsFrom_congr_before keyword .code sameBefore,
    wordStartsFrom_add keyword .code none 0]

end IsWord

end Provision.Descriptor
