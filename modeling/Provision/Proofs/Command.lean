import Provision.Command

namespace Provision.Invocation

/-!
# Reading a shown command

The line that shows a command is cut at the spaces that stand outside of double
quotes, and the quotes are dropped from the pieces. If no word of the command
holds a quote of its own, the pieces are its words, the empty ones and those
with white space among them. So two such commands are shown alike only if their
words are the same.
-/

/-- The program and its arguments. -/
def words (command : Invocation) : List String :=
  command.program :: command.arguments

/--
The pieces of a line between the spaces that stand outside of double quotes.

The quotes are kept in their pieces. Whether the line begins between quotes is
told by `quoted`.
-/
def piecesOutside (quoted : Bool) : Text → List Text
  | [] => [[]]
  | c :: rest =>
      if c = ' ' ∧ quoted = false then
        [] :: piecesOutside false rest
      else
        (piecesOutside (quoted ^^ (c == '"')) rest).modifyHead (c :: ·)

/-- A piece of a line without its double quotes. -/
def dropQuotes (piece : Text) : Text :=
  piece.filter (· != '"')

/-- The words that a line shows. -/
def wordsOfLine (line : String) : List String :=
  (piecesOutside false line.toList).map fun piece => String.ofList (dropQuotes piece)

/-- Commands that quote their words as needed, and whose words hold no double quote. -/
structure Legible (command : Invocation) : Prop where
  quotes : command.verbatim = false
  quoteless : ∀ word ∈ command.words, '"' ∉ word.toList

instance (command : Invocation) : Decidable command.Legible :=
  decidable_of_iff
    (command.verbatim = false ∧ ∀ word ∈ command.words, '"' ∉ word.toList)
    ⟨fun can => ⟨can.1, can.2⟩, fun legible => ⟨legible.quotes, legible.quoteless⟩⟩

section Pieces

variable {quoted : Bool} {front word : Text}

theorem piecesOutside_quote
    (quoted : Bool)
    (rest : Text) :
    piecesOutside quoted ('"' :: rest) =
      (piecesOutside (!quoted) rest).modifyHead ('"' :: ·) := by
  simp [piecesOutside]

/-- What holds no quote, and no space that would cut it, begins the first piece. -/
theorem piecesOutside_append
    (quoteless : '"' ∉ front)
    (uncut : quoted = true ∨ ' ' ∉ front)
    (back : Text) :
    piecesOutside quoted (front ++ back) =
      (piecesOutside quoted back).modifyHead (front ++ ·) := by
  induction front with
  | nil =>
      exact (congrFun List.modifyHead_id _).symm
  | cons c front inductionHypothesis =>
      rw [List.mem_cons, not_or] at quoteless
      have restUncut : quoted = true ∨ ' ' ∉ front :=
        uncut.imp_right fun none inRest => none (List.mem_cons_of_mem c inRest)
      have notCut : ¬ (c = ' ' ∧ quoted = false) := by
        rintro ⟨rfl, outside⟩
        rcases uncut with inside | none
        · rw [inside] at outside
          cases outside
        · exact none List.mem_cons_self
      have notQuote : (c == '"') = false := by
        simpa using Ne.symm quoteless.1
      rw [List.cons_append, piecesOutside, if_neg notCut, notQuote, Bool.xor_false,
        inductionHypothesis quoteless.2 restUncut, List.modifyHead_modifyHead]
      rfl

theorem space_notMem_of_not_needsQuotes
    (bare : needsQuotes word = false) :
    ' ' ∉ word := by
  intro member
  rw [needsQuotes, Bool.or_eq_false_iff, List.any_eq_false] at bare
  exact bare.2 ' ' member (by decide)

/-- A shown word is never cut, quoted or not. -/
theorem piecesOutside_shownWord_append
    (quoteless : '"' ∉ word)
    (back : Text) :
    piecesOutside false (shownWord word ++ back) =
      (piecesOutside false back).modifyHead (shownWord word ++ ·) := by
  rw [shownWord]
  split
  · -- The two quotes leave the reader where it was, outside of quotes.
    have shape : '"' :: (word ++ ['"']) ++ back = '"' :: (word ++ '"' :: back) := by simp
    rw [shape, piecesOutside_quote, Bool.not_false,
      piecesOutside_append quoteless (.inl rfl), piecesOutside_quote, Bool.not_true,
      List.modifyHead_modifyHead, List.modifyHead_modifyHead]
    simp [Function.comp_def]
  · rename_i bare
    exact piecesOutside_append quoteless
      (.inr (space_notMem_of_not_needsQuotes (Bool.eq_false_iff.mpr bare))) back

/-- Shown words with single spaces between them are the pieces of their line. -/
theorem piecesOutside_shownWords
    {first : String}
    {more : List String}
    (quoteless : ∀ word ∈ first :: more, '"' ∉ word.toList) :
    piecesOutside false
        (shownWord first.toList ++
          more.flatMap fun word => ' ' :: shownWord word.toList) =
      (first :: more).map fun word => shownWord word.toList := by
  induction more generalizing first with
  | nil =>
      rw [piecesOutside_shownWord_append (quoteless first List.mem_cons_self)]
      simp [piecesOutside]
  | cons next more inductionHypothesis =>
      obtain ⟨firstQuoteless, restQuoteless⟩ := List.forall_mem_cons.mp quoteless
      rw [piecesOutside_shownWord_append firstQuoteless, List.flatMap_cons,
        List.cons_append, piecesOutside, if_pos ⟨rfl, rfl⟩,
        inductionHypothesis restQuoteless, List.modifyHead_cons, List.append_nil]
      rfl

/-- The quotes of a shown word are all that is dropped from it. -/
theorem dropQuotes_shownWord
    (quoteless : '"' ∉ word) :
    dropQuotes (shownWord word) = word := by
  have kept : dropQuotes word = word := by
    rw [dropQuotes, List.filter_eq_self]
    intro c member
    exact bne_iff_ne.mpr fun isQuote => quoteless (isQuote ▸ member)
  rw [shownWord]
  split
  · rw [dropQuotes, List.filter_cons_of_neg (by decide), List.filter_append,
      List.filter_cons_of_neg (by decide), List.filter_nil, List.append_nil]
    exact kept
  · exact kept

end Pieces

section Reading

variable {command other : Invocation}

theorem toList_shown_of_quotes
    (quotes : command.verbatim = false) :
    command.shown.toList =
      shownWord command.program.toList ++
        command.arguments.flatMap fun word => ' ' :: shownWord word.toList := by
  simp [shown, shownChars, quotes]

/-- The line of a legible command shows its words. -/
theorem wordsOfLine_shown
    (legible : command.Legible) :
    wordsOfLine command.shown = command.words := by
  have wordRead :
      ∀ word ∈ command.words,
        String.ofList (dropQuotes (shownWord word.toList)) = word := by
    intro word member
    rw [dropQuotes_shownWord (legible.quoteless word member), String.ofList_toList]
  calc
    wordsOfLine command.shown =
        (command.words.map fun word => shownWord word.toList).map
          fun piece => String.ofList (dropQuotes piece) := by
      rw [wordsOfLine, toList_shown_of_quotes legible.quotes,
        piecesOutside_shownWords legible.quoteless]
      rfl
    _ = command.words.map fun word => word := by
      rw [List.map_map]
      exact List.map_congr_left wordRead
    _ = command.words := List.map_id' _

/-- Commands with the same words are shown alike. -/
theorem shown_congr
    (quotes : command.verbatim = other.verbatim)
    (same : command.words = other.words) :
    command.shown = other.shown := by
  obtain ⟨sameProgram, sameArguments⟩ := List.cons_eq_cons.mp same
  rw [shown, shown, shownChars, shownChars, quotes, sameProgram, sameArguments]

/--
The words of a legible command are read off the line that shows it, and two such
commands are shown alike only if they have the same program and arguments.
-/
theorem shown_unambiguous
    (legible : command.Legible)
    (otherLegible : other.Legible) :
    wordsOfLine command.shown = command.program :: command.arguments ∧
      (command.shown = other.shown ↔
        command.program = other.program ∧ command.arguments = other.arguments) := by
  refine ⟨wordsOfLine_shown legible, ?_, ?_⟩
  · intro alike
    have same : command.words = other.words := by
      rw [← wordsOfLine_shown legible, alike, wordsOfLine_shown otherLegible]
    exact List.cons_eq_cons.mp same
  · intro same
    exact shown_congr (legible.quotes.trans otherLegible.quotes.symm)
      (List.cons_eq_cons.mpr same)

end Reading

/-- An installation into a directory with a space in its name, and an empty word. -/
def spacedInstall : Invocation where
  program := "aqt"
  arguments := ["install-qt", "-O", "C:\\Users\\Jane Doe", "", "a\tb"]

/-- The same installation as if the directory were two words. -/
def brokenInstall : Invocation where
  program := "aqt"
  arguments := ["install-qt", "-O", "C:\\Users\\Jane", "Doe", "", "a\tb"]

theorem spacedInstall_unambiguous :
    spacedInstall.Legible ∧
      brokenInstall.Legible ∧
      wordsOfLine spacedInstall.shown =
        ["aqt", "install-qt", "-O", "C:\\Users\\Jane Doe", "", "a\tb"] ∧
      spacedInstall.shown ≠ brokenInstall.shown := by
  have legible : spacedInstall.Legible := by decide
  have brokenLegible : brokenInstall.Legible := by decide
  obtain ⟨reading, alike_iff⟩ := shown_unambiguous legible brokenLegible
  refine ⟨legible, brokenLegible, reading, ?_⟩
  intro alike
  exact absurd (alike_iff.mp alike).2 (by decide)

/-- A word that holds quotes can be shown as another one is. -/
example : shownWord [] = shownWord ['"', '"'] := by decide

end Provision.Invocation
