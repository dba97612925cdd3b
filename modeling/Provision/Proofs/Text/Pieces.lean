import Mathlib.Data.List.DropRight
import Provision.Text.Basic

namespace Provision.Text

/-!
# Pieces, lines and margins

The pieces of a text put together from two are the pieces of the one and then
those of the other, if the separator stands between the two. So a line feed
closes a line, whatever comes behind it.

Of the blanks at its two ends, and of nothing else, a text is trimmed.
-/

section Splitting

variable {α : Type} [DecidableEq α]

theorem splitOn_ne_nil
    (separator : α)
    (text : List α) :
    splitOn separator text ≠ [] := by
  cases text with
  | nil =>
      simp [splitOn]
  | cons c rest =>
      rw [splitOn]
      split
      · simp
      · split <;> simp

/-- A separator splits the pieces of what is before it from those behind it. -/
theorem splitOn_append_cons
    (separator : α)
    (front back : List α) :
    splitOn separator (front ++ separator :: back) =
      splitOn separator front ++ splitOn separator back := by
  induction front with
  | nil =>
      simp [splitOn]
  | cons c front inductionHypothesis =>
      by_cases isSeparator : c = separator
      · simp [splitOn, isSeparator, inductionHypothesis]
      · rw [List.cons_append, splitOn, if_neg isSeparator, splitOn,
          if_neg isSeparator, inductionHypothesis]
        obtain ⟨piece, more, shape⟩ :=
          List.exists_cons_of_ne_nil (splitOn_ne_nil separator front)
        rw [shape]
        rfl

/-- A text without a separator is one piece. -/
theorem splitOn_of_notMem
    {separator : α}
    {text : List α}
    (none : separator ∉ text) :
    splitOn separator text = [text] := by
  induction text with
  | nil =>
      rfl
  | cons c rest inductionHypothesis =>
      rw [List.mem_cons, not_or] at none
      rw [splitOn, if_neg (Ne.symm none.1), inductionHypothesis none.2]

/-- No piece holds the separator. -/
theorem notMem_of_mem_splitOn
    {separator : α}
    {text piece : List α}
    (member : piece ∈ splitOn separator text) :
    separator ∉ piece := by
  induction text generalizing piece with
  | nil =>
      rw [List.mem_singleton.mp member]
      exact List.not_mem_nil
  | cons c rest inductionHypothesis =>
      obtain ⟨first, more, shape⟩ :=
        List.exists_cons_of_ne_nil (splitOn_ne_nil separator rest)
      rw [splitOn, shape] at member
      rw [shape] at inductionHypothesis
      split at member
      · rcases List.mem_cons.mp member with rfl | inRest
        · exact List.not_mem_nil
        · exact inductionHypothesis inRest
      · rename_i notSeparator
        rcases List.mem_cons.mp member with rfl | inRest
        · rw [List.mem_cons, not_or]
          exact ⟨Ne.symm notSeparator, inductionHypothesis List.mem_cons_self⟩
        · exact inductionHypothesis (List.mem_cons_of_mem _ inRest)

/-- The pieces with the separator between them are the text. -/
theorem intercalate_splitOn
    (separator : α)
    (text : List α) :
    [separator].intercalate (splitOn separator text) = text := by
  induction text with
  | nil =>
      rfl
  | cons c rest inductionHypothesis =>
      obtain ⟨first, more, shape⟩ :=
        List.exists_cons_of_ne_nil (splitOn_ne_nil separator rest)
      rw [shape] at inductionHypothesis
      rw [splitOn, shape]
      split
      · rename_i isSeparator
        rw [isSeparator, List.intercalate_cons_cons, inductionHypothesis]
        rfl
      · cases more with
        | nil =>
            simpa using inductionHypothesis
        | cons second more =>
            rw [List.intercalate_cons_cons] at inductionHypothesis ⊢
            rw [List.cons_append, List.cons_append, inductionHypothesis]

/-- Pieces that were put together are split again, if none of them holds the separator. -/
theorem splitOn_intercalate
    {separator : α}
    {pieces : List (List α)}
    (nonempty : pieces ≠ [])
    (unsplit : ∀ piece ∈ pieces, separator ∉ piece) :
    splitOn separator ([separator].intercalate pieces) = pieces := by
  induction pieces with
  | nil => exact (nonempty rfl).elim
  | cons first rest inductionHypothesis =>
      obtain ⟨firstUnsplit, restUnsplit⟩ := List.forall_mem_cons.mp unsplit
      cases rest with
      | nil =>
          rw [List.intercalate_singleton, splitOn_of_notMem firstUnsplit]
      | cons next others =>
          rw [List.intercalate_cons_cons, List.append_assoc, List.singleton_append,
            splitOn_append_cons, splitOn_of_notMem firstUnsplit,
            inductionHypothesis (List.cons_ne_nil _ _) restUnsplit, List.singleton_append]

end Splitting

/-- A line feed closes a line. -/
theorem lines_append_cons
    {line : Text}
    (rest : Text)
    (unbroken : '\n' ∉ line) :
    lines (line ++ '\n' :: rest) = dropReturn line :: lines rest := by
  obtain ⟨next, more, shape⟩ :=
    List.exists_cons_of_ne_nil (splitOn_ne_nil '\n' rest)
  rw [lines, splitOn_append_cons, splitOn_of_notMem unbroken, lines, shape]
  rfl

/-- What no line feed closes is a line if it is not empty. -/
theorem lines_of_notMem
    {line : Text}
    (unbroken : '\n' ∉ line) :
    lines line = if line.isEmpty then [] else [line] := by
  rw [lines, splitOn_of_notMem unbroken, closeLines]

/-- What a line feed closed is a line, whatever pieces come behind it. -/
theorem closeLines_append
    {later : List Text}
    (earlier : List Text)
    (goesOn : later ≠ []) :
    closeLines (earlier ++ later) = earlier.map dropReturn ++ closeLines later := by
  obtain ⟨next, more, rfl⟩ := List.exists_cons_of_ne_nil goesOn
  induction earlier with
  | nil =>
      rfl
  | cons closed earlier inductionHypothesis =>
      rw [List.map_cons, List.cons_append, List.cons_append, ← inductionHypothesis]
      cases earlier <;> rfl

/-- A text leaves no line open. -/
def EndsLine (text : Text) : Prop :=
  text = [] ∨ text.getLast? = some '\n'

/-- Where no line is left open, another text begins a line. -/
theorem lines_append_of_endsLine
    {front : Text}
    (ends : EndsLine front)
    (back : Text) :
    lines (front ++ back) = lines front ++ lines back := by
  rcases ends with rfl | endsInFeed
  · rfl
  · obtain ⟨closed, rfl⟩ := List.getLast?_eq_some_iff.mp endsInFeed
    have whole : closed ++ ['\n'] ++ back = closed ++ '\n' :: back := by simp
    rw [lines, lines, whole, splitOn_append_cons, splitOn_append_cons,
      closeLines_append _ (splitOn_ne_nil '\n' back),
      closeLines_append _ (splitOn_ne_nil '\n' [])]
    simp [lines, splitOn, closeLines]

/-- Behind its last line feed a text has one line that is open, or nothing. -/
theorem exists_openLine
    (text : Text) :
    ∃ front last, text = front ++ last ∧ EndsLine front ∧ '\n' ∉ last := by
  refine
    ⟨text.rdropWhile (· != '\n'), text.rtakeWhile (· != '\n'),
      List.rdropWhile_append_rtakeWhile.symm, ?_, ?_⟩
  · by_cases empty : text.rdropWhile (· != '\n') = []
    · exact .inl empty
    · have isFeed := List.rdropWhile_last_not (· != '\n') text empty
      refine .inr ?_
      rw [List.getLast?_eq_some_getLast empty]
      simpa using isFeed
  · intro member
    simpa using List.mem_rtakeWhile_imp member

/-- The text up to the first place where a character stands, and the text behind it. -/
theorem splitOnce?_append_cons
    {sign : Char}
    {front : Text}
    (back : Text)
    (first : sign ∉ front) :
    splitOnce? [sign] (front ++ sign :: back) = some (front, back) := by
  induction front with
  | nil =>
      simp [splitOnce?]
  | cons c front inductionHypothesis =>
      rw [List.mem_cons, not_or] at first
      rw [List.cons_append, splitOnce?, inductionHypothesis first.2]
      simp [first.1]

theorem splitOnce?_of_notMem
    {sign : Char}
    {text : Text}
    (none : sign ∉ text) :
    splitOnce? [sign] text = .none := by
  induction text with
  | nil =>
      rfl
  | cons c rest inductionHypothesis =>
      rw [List.mem_cons, not_or] at none
      rw [splitOnce?, inductionHypothesis none.2]
      simp [none.1]

section Margins

variable {blank : Char → Bool} {body before after : Text}

/-- Nothing is dropped from a text that begins with no blank. -/
private theorem dropWhile_of_solid
    {text : Text}
    (startsSolid : ∀ c, text.head? = some c → blank c = false) :
    text.dropWhile blank = text := by
  cases text with
  | nil =>
      rfl
  | cons c rest =>
      have notBlank : ¬ blank c = true := by
        simp [startsSolid c rfl]
      exact List.dropWhile_cons_of_neg notBlank

theorem exists_margins
    (blank : Char → Bool)
    (text : Text) :
    ∃ before after,
      text = before ++ (trimBy blank text ++ after) ∧
        (∀ c ∈ before, blank c = true) ∧
        (∀ c ∈ after, blank c = true) := by
  have back :=
    List.rdropWhile_append_rtakeWhile (p := blank) (l := text.dropWhile blank)
  refine ⟨text.takeWhile blank, (text.dropWhile blank).rtakeWhile blank, ?_, ?_, ?_⟩
  · calc
      text = text.takeWhile blank ++ text.dropWhile blank :=
        List.takeWhile_append_dropWhile.symm
      _ = text.takeWhile blank ++
          (trimBy blank text ++ (text.dropWhile blank).rtakeWhile blank) :=
        congrArg (text.takeWhile blank ++ ·) back.symm
  · intro c member
    exact List.mem_takeWhile_imp member
  · intro c member
    exact List.mem_rtakeWhile_imp member

/-- What has no blanks at its ends is left over from any margins of blanks. -/
theorem trimBy_margins
    (startsSolid : ∀ c, body.head? = some c → blank c = false)
    (endsSolid : ∀ c, body.getLast? = some c → blank c = false)
    (blankBefore : ∀ c ∈ before, blank c = true)
    (blankAfter : ∀ c ∈ after, blank c = true) :
    trimBy blank (before ++ (body ++ after)) = body := by
  rw [trimBy, List.dropWhile_append_of_pos blankBefore]
  by_cases empty : body = []
  · subst empty
    have nothing : after.dropWhile blank = [] :=
      List.dropWhile_eq_nil_iff.mpr blankAfter
    rw [List.nil_append, nothing]
    rfl
  · have startsWhole : ∀ c, (body ++ after).head? = some c → blank c = false := by
      intro c first
      rw [List.head?_append_of_ne_nil body empty] at first
      exact startsSolid c first
    have endsWhole : ∀ c, body.reverse.head? = some c → blank c = false := by
      intro c first
      rw [List.head?_reverse] at first
      exact endsSolid c first
    have blankReversed : ∀ c ∈ after.reverse, blank c = true := by
      intro c member
      exact blankAfter c (List.mem_reverse.mp member)
    rw [dropWhile_of_solid startsWhole, List.reverse_append,
      List.dropWhile_append_of_pos blankReversed, dropWhile_of_solid endsWhole,
      List.reverse_reverse]

/-- Blanks more or less at the end of a text make no difference to what is left of it. -/
theorem trimBy_append_blanks
    (text : Text)
    (blankAfter : ∀ c ∈ after, blank c = true) :
    trimBy blank (text ++ after) = trimBy blank text := by
  have blankReversed : ∀ c ∈ after.reverse, blank c = true := by
    intro c member
    exact blankAfter c (List.mem_reverse.mp member)
  rw [trimBy, List.dropWhile_append]
  split
  · rename_i onlyBlanks
    rw [trimBy, List.isEmpty_iff.mp onlyBlanks, List.dropWhile_eq_nil_iff.mpr blankAfter]
  · rw [List.reverse_append, List.dropWhile_append_of_pos blankReversed, trimBy]

end Margins

end Provision.Text
