import Provision.Proofs.Descriptor.States
import Provision.Proofs.Text.Cuts

namespace Provision.Descriptor

/-!
# Words that stand alone in code

Looking for a keyword skips the bytes of the last one found. For a word of
identifier characters this skipping is idle: a second occurrence inside the
first would have an identifier character before it. The search is therefore
compared with one that has no memory, and the offsets it gives are exactly the
places where the word stands alone in code.
-/

/-- A keyword that one identifier can be: not empty, and of identifier characters. -/
structure IsWord (keyword : Text) : Prop where
  nonempty : keyword ≠ []
  identifier : ∀ c ∈ keyword, isIdentifierChar c = true

/-- A place between two parts of a text where a word is live and stands alone. -/
structure LiveWord (before after : Text) : Prop where
  inCode : LexicalState.run .code before = .code
  alone : standsAlone before.getLast? after.head? = true

/-- No identifier reaches from the end of the first text into the second. -/
def SeparatesWords (first second : Text) : Prop :=
  first.getLast?.any isIdentifierChar = false ∨
    second.head?.any isIdentifierChar = false

/--
Offsets of the places from which a keyword can be read alone and in code, in a
text that starts at `offset` after the character `before`.
-/
def wordStartsFrom
    (keyword : Text)
    (state : LexicalState)
    (before : Option Char)
    (offset : Nat) :
    Text → List Nat
  | [] => []
  | c :: rest =>
      if state = .code ∧ opensWith keyword before (c :: rest) = true then
        offset ::
          wordStartsFrom keyword (state.step c) (some c)
            (offset + c.utf8Size) rest
      else
        wordStartsFrom keyword (state.step c) (some c)
          (offset + c.utf8Size) rest

/-- A keyword opens a text that goes on, behind it, with no identifier character. -/
theorem opensWith_iff
    {keyword text : Text}
    {before : Option Char} :
    opensWith keyword before text = true ↔
      ∃ trailing,
        text = keyword ++ trailing ∧
          standsAlone before trailing.head? = true := by
  simp only [opensWith, Bool.and_eq_true, List.isPrefixOf_iff_prefix]
  constructor
  · rintro ⟨⟨trailing, rfl⟩, alone⟩
    rw [List.drop_left] at alone
    exact ⟨trailing, rfl, alone⟩
  · rintro ⟨trailing, rfl, alone⟩
    rw [List.drop_left]
    exact ⟨List.prefix_append keyword trailing, alone⟩

/-- Behind an identifier character no keyword stands alone. -/
theorem opensWith_of_identifier
    {before : Option Char}
    (inside : before.any isIdentifierChar = true)
    (keyword text : Text) :
    opensWith keyword before text = false := by
  simp [opensWith, standsAlone, inside]

namespace IsWord

variable {keyword : Text}

/-- Identifier characters are live and open no group. -/
theorem passive
    (word : IsWord keyword) :
    ∀ c ∈ keyword, LexicalState.isLive .code c = true ∧ c ≠ '(' := by
  intro c member
  have identifier := word.identifier c member
  refine ⟨isLive_of_isIdentifierChar identifier, ?_⟩
  rintro rfl
  exact absurd identifier (by decide)

theorem run_eq_code
    (word : IsWord keyword) :
    LexicalState.run .code keyword = .code :=
  LexicalState.run_code_of_live fun c member => (word.passive c member).1

/-- The first character of a word is live in code. -/
private theorem isLive_of_opensWith
    (word : IsWord keyword)
    {before : Option Char}
    {c : Char}
    {rest : Text}
    (opens : opensWith keyword before (c :: rest) = true) :
    LexicalState.isLive .code c = true := by
  obtain ⟨trailing, shape, -⟩ := opensWith_iff.mp opens
  cases keyword with
  | nil =>
      exact (word.nonempty rfl).elim
  | cons first more =>
      have sameHead : c = first := (List.cons.inj shape).1
      rw [sameHead]
      exact isLive_of_isIdentifierChar
        (word.identifier first List.mem_cons_self)

/--
Skipping the bytes of the last keyword loses nothing. The induction carries
the part of that keyword which is still to be read: its characters come after
an identifier character, so no word stands alone before they are over.
-/
private theorem keywordStartsFrom_eq_of_unread
    (word : IsWord keyword)
    {state : LexicalState}
    {before : Option Char}
    {offset free : Nat}
    (unread later : Text)
    (reach : free ≤ offset + Text.byteLength unread)
    (inside : unread ≠ [] → before.any isIdentifierChar = true)
    (identifier : ∀ c ∈ unread, isIdentifierChar c = true) :
    keywordStartsFrom keyword state before offset free (unread ++ later) =
      wordStartsFrom keyword state before offset (unread ++ later) := by
  generalize shape : unread ++ later = text
  induction text generalizing state before offset free unread later with
  | nil =>
      rfl
  | cons c rest inductionHypothesis =>
      rw [keywordStartsFrom, wordStartsFrom]
      by_cases found :
          state = .code ∧ opensWith keyword before (c :: rest) = true
      · obtain ⟨rfl, opens⟩ := found
        obtain ⟨trailing, restShape, -⟩ := opensWith_iff.mp opens
        have unreadEmpty : unread = [] := by
          refine Classical.byContradiction fun stillInside => ?_
          rw [opensWith_of_identifier (inside stillInside)] at opens
          cases opens
        have notSkipped : free ≤ offset := by
          simpa [unreadEmpty] using reach
        simp only [word.isLive_of_opensWith opens, notSkipped, opens,
          decide_true, Bool.and_self, ↓reduceIte, and_self]
        congr 1
        cases keyword with
        | nil =>
            exact (word.nonempty rfl).elim
        | cons first more =>
            obtain ⟨rfl, tailShape⟩ := List.cons.inj restShape
            refine inductionHypothesis more trailing ?_ ?_ ?_
              tailShape.symm
            · simp only [Text.byteLength_cons]
              omega
            · intro _
              exact word.identifier c List.mem_cons_self
            · exact fun d member =>
                word.identifier d (List.mem_cons_of_mem c member)
      · have notFound :
            (state.isLive c && decide (free ≤ offset) &&
              opensWith keyword before (c :: rest)) = false := by
          rw [Bool.eq_false_iff]
          intro holds
          simp only [Bool.and_eq_true] at holds
          exact found
            ⟨(LexicalState.isLive_iff.mp holds.1.1).1, holds.2⟩
        simp only [notFound, found, Bool.false_eq_true, ↓reduceIte]
        cases unread with
        | nil =>
            refine inductionHypothesis [] rest ?_ ?_ ?_ rfl
            · simp only [Text.byteLength_nil] at reach ⊢
              omega
            · exact fun nonempty => (nonempty rfl).elim
            · simp
        | cons first more =>
            obtain ⟨rfl, tailShape⟩ := List.cons.inj shape
            refine inductionHypothesis more later ?_ ?_ ?_ tailShape
            · simp only [Text.byteLength_cons] at reach ⊢
              omega
            · intro _
              exact identifier first List.mem_cons_self
            · exact fun d member =>
                identifier d (List.mem_cons_of_mem first member)

/-- The search for a word needs no memory. -/
theorem keywordStarts_eq
    (word : IsWord keyword)
    (text : Text) :
    keywordStarts text keyword =
      wordStartsFrom keyword .code none 0 text := by
  have notEmpty : keyword.isEmpty = false := by
    simpa using word.nonempty
  simp only [keywordStarts, notEmpty, Bool.false_eq_true, ↓reduceIte]
  exact word.keywordStartsFrom_eq_of_unread [] text
    (by simp) (by simp) (by simp)

/-- A word is found exactly where it is read in code and stands alone. -/
theorem mem_wordStartsFrom_iff
    (word : IsWord keyword)
    {state : LexicalState}
    {before : Option Char}
    {offset place : Nat}
    {text : Text} :
    place ∈ wordStartsFrom keyword state before offset text ↔
      ∃ leading trailing,
        text = leading ++ (keyword ++ trailing) ∧
          place = offset + Text.byteLength leading ∧
          state.run leading = .code ∧
          standsAlone (leading.getLast?.or before) trailing.head? = true := by
  induction text generalizing state before offset with
  | nil =>
      simp [wordStartsFrom, word.nonempty]
  | cons c rest inductionHypothesis =>
      -- The word starts at this character or, with it in front, in the rest.
      have here :
          (state = .code ∧ opensWith keyword before (c :: rest) = true) ∧
              place = offset ∨
            place ∈ wordStartsFrom keyword (state.step c) (some c)
              (offset + c.utf8Size) rest ↔
          place ∈ wordStartsFrom keyword state before offset (c :: rest) := by
        rw [wordStartsFrom]
        split <;> simp_all
      rw [← here, inductionHypothesis, opensWith_iff]
      constructor
      · rintro (⟨⟨inCode, trailing, shape, alone⟩, rfl⟩ |
          ⟨leading, trailing, rfl, rfl, inCode, alone⟩)
        · exact ⟨[], trailing, shape, by simp, inCode, by simpa using alone⟩
        · refine ⟨c :: leading, trailing, rfl, ?_, inCode, ?_⟩
          · simp only [Text.byteLength_cons]
            omega
          · rwa [Text.getLast?_cons_or]
      · rintro ⟨leading, trailing, shape, rfl, inCode, alone⟩
        cases leading with
        | nil =>
            exact Or.inl
              ⟨⟨inCode, trailing, shape, by simpa using alone⟩, by simp⟩
        | cons first more =>
            obtain ⟨rfl, tailShape⟩ := List.cons.inj shape
            rw [Text.getLast?_cons_or] at alone
            refine Or.inr ⟨more, trailing, tailShape, ?_, inCode, alone⟩
            simp only [Text.byteLength_cons]
            omega

/-- The offsets of a word are its live places. -/
theorem mem_keywordStarts_iff
    (word : IsWord keyword)
    {place : Nat}
    {text : Text} :
    place ∈ keywordStarts text keyword ↔
      ∃ before after,
        text = before ++ (keyword ++ after) ∧
          Text.byteLength before = place ∧
          LiveWord before after := by
  rw [word.keywordStarts_eq, word.mem_wordStartsFrom_iff]
  constructor
  · rintro ⟨before, after, shape, rfl, inCode, alone⟩
    exact ⟨before, after, shape, by simp, inCode, by simpa using alone⟩
  · rintro ⟨before, after, shape, rfl, inCode, alone⟩
    exact ⟨before, after, shape, by simp, inCode, by simpa using alone⟩

/-- The search gives ascending offsets. -/
theorem wordStartsFrom_pairwise
    (word : IsWord keyword)
    (state : LexicalState)
    (before : Option Char)
    (offset : Nat)
    (text : Text) :
    (wordStartsFrom keyword state before offset text).Pairwise (· < ·) := by
  induction text generalizing state before offset with
  | nil =>
      exact List.Pairwise.nil
  | cons c rest inductionHypothesis =>
      rw [wordStartsFrom]
      split
      · refine List.Pairwise.cons ?_ (inductionHypothesis _ _ _)
        intro place member
        obtain ⟨leading, trailing, -, rfl, -, -⟩ :=
          word.mem_wordStartsFrom_iff.mp member
        have positive := c.utf8Size_pos
        omega
      · exact inductionHypothesis _ _ _

/-- The offsets of a word ascend. -/
theorem keywordStarts_pairwise
    (word : IsWord keyword)
    (text : Text) :
    (keywordStarts text keyword).Pairwise (· < ·) := by
  rw [word.keywordStarts_eq]
  exact word.wordStartsFrom_pairwise .code none 0 text

end IsWord

end Provision.Descriptor
