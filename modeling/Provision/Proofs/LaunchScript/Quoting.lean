import Provision.Host.Shell.Characters

namespace Provision.ShellText

/-!
# Shell texts by their quotes

A shell text is read character by character, by the rules of comments, quotes
and backslashes alone. What comes out are words and signs; each character of a
word is marked with whether it stands for itself. Double quotes keep a text as
it is exactly if the text is inert: nothing in it ends the quotes, opens an
expansion or is changed by a backslash.
-/

open Shell (endsWord startsName isSpecialParameter)

/-- A character of a word, by how it was written. -/
inductive Mark where
  /-- Stands for itself, by quotes or a backslash. -/
  | quoted (c : Char)
  /-- Stands outside of quotes. -/
  | bare (c : Char)
  /-- Begins an expansion, or is part of a pattern. -/
  | active (c : Char)
  deriving Repr, DecidableEq

/-- What a shell text consists of. -/
inductive Token where
  | word (marks : List Mark)
  /-- A character outside of quotes, not a blank, that ends a word. -/
  | sign (c : Char)
  deriving Repr, DecidableEq

/-- Where a reader stands. -/
inductive Place where
  /-- Between words. -/
  | gap
  | comment
  /-- In a word, outside of quotes. -/
  | bare
  /-- Behind a backslash outside of quotes. -/
  | escape (inWord : Bool)
  | single
  | doubled
  /-- Behind a backslash between double quotes. -/
  | doubledEscape
  /-- Behind a dollar sign between double quotes. -/
  | doubledDollar
  deriving Repr, DecidableEq

/-- A reader with the word that it has begun. -/
structure Reader where
  place : Place
  word : List Mark
  deriving Repr, DecidableEq

/-- Whether a backslash between double quotes takes effect on a character. -/
def isEscapable (c : Char) : Bool :=
  ['"', '\\', '$', '\x60', '\n'].contains c

/-- Whether a dollar sign between double quotes takes effect in front of a character. -/
def opensExpansion (c : Char) : Bool :=
  startsName c || isSpecialParameter c || ['(', '{', '['].contains c

/-- The mark of a character outside of quotes. -/
def Mark.outside (c : Char) : Mark :=
  if ['$', '\x60', '*', '?', '[', '~', '{'].contains c then .active c else .bare c

namespace Reader

/-- A reader between two words. -/
def start : Reader where
  place := .gap
  word := []

/-- Read a character outside of quotes. -/
def outside (reader : Reader) (c : Char) : Reader × List Token :=
  if endsWord c then
    let word := if reader.place = .bare then [.word reader.word] else []
    let sign := if c = ' ' || c = '\t' then [] else [.sign c]
    (start, word ++ sign)
  else if c = '\\' then
    (⟨.escape (reader.place = .bare), reader.word⟩, [])
  else if c = '\'' then
    (⟨.single, reader.word⟩, [])
  else if c = '"' then
    (⟨.doubled, reader.word⟩, [])
  else
    (⟨.bare, reader.word ++ [.outside c]⟩, [])

/-- Read a character between double quotes. -/
def inside (word : List Mark) (c : Char) : Reader :=
  if c = '"' then ⟨.bare, word⟩
  else if c = '\\' then ⟨.doubledEscape, word⟩
  else if c = '$' then ⟨.doubledDollar, word⟩
  else if c = '\x60' then ⟨.doubled, word ++ [.active c]⟩
  else ⟨.doubled, word ++ [.quoted c]⟩

/-- Read a character. -/
def step : Reader → Char → Reader × List Token
  | ⟨.gap, word⟩, c =>
      if c = '#' then (⟨.comment, word⟩, []) else outside ⟨.gap, word⟩ c
  | ⟨.comment, word⟩, c =>
      if c = '\n' then (start, [.sign c]) else (⟨.comment, word⟩, [])
  | ⟨.bare, word⟩, c =>
      outside ⟨.bare, word⟩ c
  | ⟨.escape inWord, word⟩, c =>
      if c = '\n' then
        (⟨if inWord then .bare else .gap, word⟩, [])
      else
        (⟨.bare, word ++ [.quoted c]⟩, [])
  | ⟨.single, word⟩, c =>
      if c = '\'' then (⟨.bare, word⟩, []) else (⟨.single, word ++ [.quoted c]⟩, [])
  | ⟨.doubled, word⟩, c =>
      (inside word c, [])
  | ⟨.doubledEscape, word⟩, c =>
      if c = '\n' then
        (⟨.doubled, word⟩, [])
      else if isEscapable c then
        (⟨.doubled, word ++ [.quoted c]⟩, [])
      else
        (⟨.doubled, word ++ [.quoted '\\', .quoted c]⟩, [])
  | ⟨.doubledDollar, word⟩, c =>
      (inside (word ++ [if opensExpansion c then .active '$' else .quoted '$']) c, [])

/-- Read a text: where the reader comes to, and what it has read. -/
def readAll (reader : Reader) : Text → Reader × List Token
  | [] => (reader, [])
  | c :: rest =>
      let (next, tokens) := reader.step c
      let (last, more) := readAll next rest
      (last, tokens ++ more)

end Reader

/-- The marks of a text that stands for itself. -/
def literal (text : Text) : List Mark :=
  text.map .quoted

/-- Whether double quotes keep a text as it is. -/
def isInert : Text → Bool
  | [] => true
  | c :: rest =>
      let kept :=
        if c = '"' || c = '\x60' then false
        else if c = '$' then !rest.head?.any opensExpansion
        else if c = '\\' then rest.head?.any (!isEscapable ·)
        else true
      kept && isInert rest

/-- A character that double quotes keep, whatever follows it. -/
def IsPlain (c : Char) : Prop :=
  c ≠ '"' ∧ c ≠ '\x60' ∧ c ≠ '$' ∧ c ≠ '\\'

/-- A character that double quotes keep in front of a text. -/
def IsKept (c : Char) (rest : Text) : Prop :=
  IsPlain c ∨
    (c = '$' ∧ ∀ next, rest.head? = some next → opensExpansion next = false) ∨
    (c = '\\' ∧ ∃ next more, rest = next :: more ∧ isEscapable next = false)

theorem isInert_cons_iff
    {c : Char}
    {rest : Text} :
    isInert (c :: rest) = true ↔ IsKept c rest ∧ isInert rest = true := by
  rw [isInert, Bool.and_eq_true]
  refine and_congr_left fun _ => ?_
  by_cases ends : c = '"' ∨ c = '\x60'
  · rcases ends with rfl | rfl <;> simp [IsKept, IsPlain]
  by_cases dollar : c = '$'
  · subst dollar
    cases rest <;> simp [IsKept, IsPlain]
  by_cases backslash : c = '\\'
  · subst backslash
    cases rest <;> simp [IsKept, IsPlain]
  simp_all [IsKept, IsPlain]

/-- A character that is kept is kept in front of a longer text, too. -/
theorem IsKept.append
    {c : Char}
    {first second : Text}
    (kept : IsKept c first)
    (boundary :
      c = '$' → first = [] → ∀ next, second.head? = some next → opensExpansion next = false) :
    IsKept c (first ++ second) := by
  rcases kept with plain | ⟨rfl, noExpansion⟩ | ⟨rfl, next, more, rfl, noEscape⟩
  · exact .inl plain
  · refine .inr (.inl ⟨rfl, ?_⟩)
    cases first with
    | nil => exact boundary rfl rfl
    | cons next first => exact noExpansion
  · exact .inr (.inr ⟨rfl, next, more ++ second, rfl, noEscape⟩)

/-- The end of an inert text is inert. -/
theorem isInert_of_append
    {first second : Text}
    (inert : isInert (first ++ second) = true) :
    isInert second = true := by
  induction first with
  | nil =>
      exact inert
  | cons c first inductionHypothesis =>
      exact inductionHypothesis (isInert_cons_iff.mp inert).2

/-- Inert texts are joined, unless a dollar sign comes to stand in front of a name. -/
theorem isInert_append
    {first second : Text}
    (firstInert : isInert first = true)
    (secondInert : isInert second = true)
    (boundary :
      first.getLast? = some '$' →
        ∀ next, second.head? = some next → opensExpansion next = false) :
    isInert (first ++ second) = true := by
  induction first with
  | nil =>
      exact secondInert
  | cons c first inductionHypothesis =>
      obtain ⟨kept, restInert⟩ := isInert_cons_iff.mp firstInert
      refine isInert_cons_iff.mpr ⟨kept.append ?_, inductionHypothesis restInert ?_⟩
      · rintro rfl rfl
        exact boundary rfl
      · intro ends
        refine boundary ?_
        rw [List.getLast?_cons, ends]
        rfl

namespace Reader

theorem readAll_cons
    (reader : Reader)
    (c : Char)
    (rest : Text) :
    reader.readAll (c :: rest) =
      (((reader.step c).1.readAll rest).1,
        (reader.step c).2 ++ ((reader.step c).1.readAll rest).2) :=
  rfl

/-- A text is read on from where the reader came to. -/
theorem readAll_append
    (reader : Reader)
    (first second : Text) :
    reader.readAll (first ++ second) =
      (((reader.readAll first).1.readAll second).1,
        (reader.readAll first).2 ++ ((reader.readAll first).1.readAll second).2) := by
  induction first generalizing reader with
  | nil =>
      rfl
  | cons c first inductionHypothesis =>
      simp only [List.cons_append, readAll_cons, inductionHypothesis, List.append_assoc]

variable {word : List Mark} {c : Char} {text : Text}

theorem readAll_doubled
    (word : List Mark)
    (c : Char)
    (rest : Text) :
    readAll ⟨.doubled, word⟩ (c :: rest) = readAll (inside word c) rest :=
  rfl

theorem readAll_expansion
    (opens : opensExpansion c = true)
    (rest : Text) :
    readAll ⟨.doubledDollar, word⟩ (c :: rest) =
      readAll (inside (word ++ [.active '$']) c) rest := by
  rw [readAll_cons, step, opens]
  rfl

/-- Between double quotes a character that is kept stands for itself. -/
theorem readAll_kept
    (kept : IsKept c text)
    (goesOn : text ≠ []) :
    readAll ⟨.doubled, word⟩ (c :: text) =
      readAll ⟨.doubled, word ++ [.quoted c]⟩ text := by
  rcases kept with
    ⟨notQuote, notBackquote, notDollar, notBackslash⟩ | ⟨rfl, noExpansion⟩ |
      ⟨rfl, next, more, rfl, noEscape⟩
  · simp [readAll_cons, step, inside, notQuote, notBackquote, notDollar, notBackslash]
  · obtain ⟨next, more, rfl⟩ := List.exists_cons_of_ne_nil goesOn
    simp [readAll_cons, step, inside, noExpansion next rfl]
  · have plain : next ≠ '"' ∧ next ≠ '\\' ∧ next ≠ '$' ∧ next ≠ '\x60' ∧ next ≠ '\n' := by
      simpa [isEscapable] using noEscape
    obtain ⟨notQuote, notBackslash, notDollar, notBackquote, notNewline⟩ := plain
    simp [readAll_cons, step, inside, noEscape, notQuote, notBackslash, notDollar,
      notBackquote, notNewline]

/-- Between double quotes an inert text stands for itself. -/
theorem readAll_inert
    (inert : isInert text = true)
    (closed : opensExpansion c = false)
    (rest : Text) :
    readAll ⟨.doubled, word⟩ (text ++ c :: rest) =
      readAll ⟨.doubled, word ++ literal text⟩ (c :: rest) := by
  induction text generalizing word with
  | nil =>
      rw [literal, List.map_nil, List.append_nil, List.nil_append]
  | cons first text inductionHypothesis =>
      obtain ⟨kept, restInert⟩ := isInert_cons_iff.mp inert
      have keptHere : IsKept first (text ++ c :: rest) :=
        kept.append fun _ _ next isNext => Option.some.inj isNext ▸ closed
      rw [List.cons_append, readAll_kept keptHere (by simp), inductionHypothesis restInert,
        List.append_assoc]
      rfl

/-- Outside of quotes, an inert text between double quotes belongs to the word as it is. -/
theorem readAll_quoted
    {place : Place}
    (outsideQuotes : place = .gap ∨ place = .bare)
    (inert : isInert text = true)
    (rest : Text) :
    readAll ⟨place, word⟩ ('"' :: (text ++ '"' :: rest)) =
      readAll ⟨.bare, word ++ literal text⟩ rest := by
  have closed : opensExpansion '"' = false := by decide
  have opens : readAll ⟨place, word⟩ ('"' :: (text ++ '"' :: rest)) =
      readAll ⟨.doubled, word⟩ (text ++ '"' :: rest) := by
    rcases outsideQuotes with rfl | rfl <;> rfl
  rw [opens, readAll_inert inert closed]
  rfl

/-- A word is over in front of a character that ends words. -/
theorem readAll_bare
    (ends : endsWord c = true)
    (rest : Text) :
    readAll ⟨.bare, word⟩ (c :: rest) =
      ((start.readAll (c :: rest)).1, .word word :: (start.readAll (c :: rest)).2) := by
  have notComment : c ≠ '#' := by
    rintro rfl
    cases ends
  simp [readAll_cons, step, outside, ends, start, notComment]

/-- Between single quotes a text stands for itself, but for a single quote. -/
theorem readAll_single
    (noQuote : '\'' ∉ text) :
    readAll ⟨.single, word⟩ text = (⟨.single, word ++ literal text⟩, []) := by
  induction text generalizing word with
  | nil =>
      rw [literal, List.map_nil, List.append_nil]
      rfl
  | cons first text inductionHypothesis =>
      rw [List.mem_cons, not_or] at noQuote
      have goesOn :
          readAll ⟨.single, word ++ [.quoted first]⟩ text =
            (⟨.single, word ++ [.quoted first] ++ literal text⟩, []) :=
        inductionHypothesis noQuote.2
      rw [List.append_assoc] at goesOn
      simp only [readAll_cons, step, if_neg (Ne.symm noQuote.1), goesOn, List.nil_append]
      rfl

/-- A comment goes on up to the end of the line. -/
theorem readAll_comment
    (oneLine : '\n' ∉ text) :
    readAll ⟨.comment, word⟩ text = (⟨.comment, word⟩, []) := by
  induction text with
  | nil =>
      rfl
  | cons first text inductionHypothesis =>
      rw [List.mem_cons, not_or] at oneLine
      simp only [readAll_cons, step, if_neg (Ne.symm oneLine.1),
        inductionHypothesis oneLine.2, List.nil_append]

/-- The marks of a word, with a character that was read and has left none yet. -/
private def size (reader : Reader) : Nat :=
  match reader.place with
  | .escape _ | .doubledEscape | .doubledDollar => reader.word.length + 1
  | _ => reader.word.length

private theorem size_outside_le
    (reader : Reader)
    (c : Char) :
    size (reader.outside c).1 ≤ reader.word.length + 1 := by
  rw [outside]
  repeat' split
  all_goals simp [size, start]

private theorem size_inside_le
    (word : List Mark)
    (c : Char) :
    size (inside word c) ≤ word.length + 1 := by
  rw [inside]
  repeat' split
  all_goals simp [size]

/-- Every character leaves one mark at most. -/
private theorem size_step_le
    (reader : Reader)
    (c : Char) :
    size (reader.step c).1 ≤ size reader + 1 := by
  obtain ⟨place, word⟩ := reader
  cases place with
  | gap =>
      rw [step]
      split
      · simp [size]
      · exact size_outside_le _ c
  | comment =>
      rw [step]
      split <;> simp [size, start]
  | bare =>
      exact size_outside_le _ c
  | escape inWord =>
      rw [step]
      split
      · cases inWord <;> exact Nat.le_add_right _ 2
      · simp [size]
  | single =>
      rw [step]
      split <;> simp [size]
  | doubled =>
      exact size_inside_le word c
  | doubledEscape =>
      rw [step]
      repeat' split
      all_goals simp [size]
      omega
  | doubledDollar =>
      refine Nat.le_trans (size_inside_le _ c) ?_
      simp [size]

private theorem size_readAll_le
    (reader : Reader)
    (text : Text) :
    size (reader.readAll text).1 ≤ size reader + text.length := by
  induction text generalizing reader with
  | nil =>
      exact Nat.le_refl _
  | cons c text inductionHypothesis =>
      have onward := inductionHypothesis (reader.step c).1
      have ofStep := size_step_le reader c
      rw [readAll_cons, List.length_cons]
      dsimp only
      omega

/-- A quote that ends quotes, or is escaped, leaves one mark less than could be. -/
private theorem length_step_quote_le
    (reader : Reader)
    (isQuote : c = '"' ∨ c = '\'')
    (ends : (reader.step c).1.place = .bare) :
    (reader.step c).1.word.length ≤ size reader := by
  obtain ⟨place, word⟩ := reader
  rcases isQuote with rfl | rfl
  · cases place with
    | gap => cases ends
    | comment => cases ends
    | bare => cases ends
    | escape inWord => simp [step, size]
    | single => cases ends
    | doubled => simp [step, inside, size]
    | doubledEscape => cases ends
    | doubledDollar => simp [step, inside, size]
  · cases place with
    | gap => cases ends
    | comment => cases ends
    | bare => cases ends
    | escape inWord => simp [step, size]
    | single => simp [step, size]
    | doubled => cases ends
    | doubledEscape => cases ends
    | doubledDollar => cases ends

/-- The quote that ends a text is not among what stands for itself. -/
private theorem length_le_of_readAll_quote
    (reader : Reader)
    {rest : Text}
    (isQuote : c = '"' ∨ c = '\'')
    (ends : (reader.readAll (rest ++ [c])).1 = ⟨.bare, word ++ literal text⟩) :
    word.length + text.length ≤ size reader + rest.length := by
  have outsideQuotes : (reader.readAll (rest ++ [c])).1.place = .bare := by
    rw [ends]
  have bounded :
      (reader.readAll (rest ++ [c])).1.word.length ≤ size reader + rest.length := by
    rw [readAll_append] at outsideQuotes ⊢
    exact Nat.le_trans (length_step_quote_le _ isQuote outsideQuotes)
      (size_readAll_le reader rest)
  rw [ends] at bounded
  simpa [literal] using bounded

/-- A word has been begun. -/
private def InWord (reader : Reader) : Prop :=
  reader.place ≠ .gap ∧ reader.place ≠ .comment ∧ reader.place ≠ .escape false

private theorem prefix_inside
    (word : List Mark)
    (c : Char) :
    InWord (inside word c) ∧ word <+: (inside word c).word := by
  rw [inside]
  repeat' split
  all_goals simp [InWord]

/-- A word that is not over keeps its marks. -/
private theorem prefix_step
    {reader : Reader}
    {c : Char}
    (inWord : InWord reader)
    (noToken : (reader.step c).2 = []) :
    InWord (reader.step c).1 ∧ reader.word <+: (reader.step c).1.word := by
  obtain ⟨place, word⟩ := reader
  cases place with
  | gap => exact (inWord.1 rfl).elim
  | comment => exact (inWord.2.1 rfl).elim
  | bare =>
      simp only [step, outside] at noToken ⊢
      split at noToken
      · cases noToken
      · rename_i goesOn
        rw [if_neg goesOn]
        repeat' split
        all_goals simp [InWord]
  | escape begun =>
      cases begun with
      | false => exact (inWord.2.2 rfl).elim
      | true =>
          rw [step]
          split <;> simp [InWord]
  | single =>
      rw [step]
      split <;> simp [InWord]
  | doubled =>
      exact prefix_inside word c
  | doubledEscape =>
      rw [step]
      repeat' split
      all_goals simp [InWord]
  | doubledDollar =>
      obtain ⟨stays, kept⟩ :=
        prefix_inside (word ++ [if opensExpansion c then .active '$' else .quoted '$']) c
      exact ⟨stays, (List.prefix_append word _).trans kept⟩

private theorem prefix_readAll
    {reader : Reader}
    {text : Text}
    (inWord : InWord reader)
    (noToken : (reader.readAll text).2 = []) :
    reader.word <+: (reader.readAll text).1.word := by
  induction text generalizing reader with
  | nil =>
      exact List.prefix_refl _
  | cons c text inductionHypothesis =>
      rw [readAll_cons, List.append_eq_nil_iff] at noToken
      obtain ⟨stays, kept⟩ := prefix_step inWord noToken.1
      exact kept.trans (inductionHypothesis stays noToken.2)

/-- Where something takes effect, a text is not read as one that stands for itself. -/
private theorem readAll_ne_of_active
    {reader : Reader}
    (inWord : InWord reader)
    (begins : word ++ [.active c] <+: reader.word)
    (rest : Text) :
    reader.readAll rest ≠ (⟨.bare, word ++ literal text⟩, []) := by
  intro reads
  have goesOn := begins.trans (prefix_readAll inWord (by rw [reads]))
  rw [reads, List.prefix_append_right_inj] at goesOn
  cases text with
  | nil => simp [literal] at goesOn
  | cons first text => simp [literal] at goesOn

/-- What takes effect between double quotes leaves another mark or none. -/
private theorem isKept_of_readAll
    (unchanged :
      readAll ⟨.doubled, word⟩ (c :: (text ++ ['"'])) =
        (⟨.bare, word ++ literal (c :: text)⟩, [])) :
    IsKept c text := by
  rw [readAll_doubled] at unchanged
  by_cases quote : c = '"'
  · subst quote
    have bounded :=
      length_le_of_readAll_quote ⟨.bare, word⟩ (.inl rfl) (congrArg Prod.fst unchanged)
    simp only [size, List.length_cons] at bounded
    omega
  by_cases backquote : c = '\x60'
  · subst backquote
    exact (readAll_ne_of_active (prefix_inside word '\x60').1 (List.prefix_refl _) _
      unchanged).elim
  by_cases dollar : c = '$'
  · subst dollar
    refine .inr (.inl ⟨rfl, ?_⟩)
    intro next isNext
    obtain ⟨more, rfl⟩ := List.head?_eq_some_iff.mp isNext
    cases opens : opensExpansion next with
    | false => rfl
    | true =>
        obtain ⟨inWord, begins⟩ := prefix_inside (word ++ [.active '$']) next
        have onward := (readAll_expansion opens (more ++ ['"'])).symm.trans unchanged
        exact (readAll_ne_of_active inWord begins _ onward).elim
  by_cases backslash : c = '\\'
  · subst backslash
    refine .inr (.inr ⟨rfl, ?_⟩)
    cases text with
    | nil =>
        cases congrArg (fun reading => reading.1.place) unchanged
    | cons next more =>
        refine ⟨next, more, rfl, ?_⟩
        cases escapes : isEscapable next with
        | false => rfl
        | true =>
            have bounded :=
              length_le_of_readAll_quote (step ⟨.doubledEscape, word⟩ next).1 (.inl rfl)
                (congrArg Prod.fst unchanged)
            have short : size (step ⟨.doubledEscape, word⟩ next).1 ≤ word.length + 1 := by
              rw [step, if_pos escapes]
              split <;> simp [size]
            simp only [List.length_cons] at bounded
            omega
  exact .inl ⟨quote, backquote, dollar, backslash⟩

end Reader

open Reader

/-- A text between two quotes is a word that stands for itself. -/
def IsKeptBy (quote : Char) (text : Text) : Prop :=
  start.readAll (quote :: text ++ [quote]) = (⟨.bare, literal text⟩, [])

/-- Double quotes keep a text as it is exactly if it is inert. -/
theorem isKeptBy_doubleQuotes_iff
    {text : Text} :
    IsKeptBy '"' text ↔ isInert text = true := by
  rw [IsKeptBy]
  constructor
  · intro unchanged
    have inQuotes :
        ∀ word,
          readAll ⟨.doubled, word⟩ (text ++ ['"']) = (⟨.bare, word ++ literal text⟩, []) →
            isInert text = true := by
      clear unchanged
      induction text with
      | nil =>
          exact fun _ _ => rfl
      | cons c text inductionHypothesis =>
          intro word unchanged
          have kept := isKept_of_readAll unchanged
          have keptHere : IsKept c (text ++ ['"']) :=
            kept.append fun _ _ next isNext => Option.some.inj isNext ▸ rfl
          have moves : word ++ literal (c :: text) = word ++ [.quoted c] ++ literal text :=
            (List.append_assoc word [.quoted c] (literal text)).symm
          rw [List.cons_append, readAll_kept keptHere (by simp), moves] at unchanged
          exact isInert_cons_iff.mpr ⟨kept, inductionHypothesis _ unchanged⟩
    exact inQuotes [] unchanged
  · intro inert
    have closed : opensExpansion '"' = false := by decide
    exact readAll_inert inert closed []

/-- Single quotes keep a text as it is exactly if it has no single quote. -/
theorem isKeptBy_singleQuotes_iff
    {text : Text} :
    IsKeptBy '\'' text ↔ '\'' ∉ text := by
  rw [IsKeptBy]
  constructor
  · intro unchanged member
    obtain ⟨front, back, rfl, isFirst⟩ := List.eq_append_cons_of_mem member
    have opens :
        start.readAll ('\'' :: (front ++ '\'' :: back) ++ ['\'']) =
          readAll ⟨.single, []⟩ (front ++ '\'' :: (back ++ ['\''])) := by
      rw [List.cons_append, List.append_assoc]
      rfl
    have onward :
        (readAll ⟨.bare, literal front⟩ (back ++ ['\''])).1 =
          ⟨.bare, [] ++ literal (front ++ '\'' :: back)⟩ := by
      rw [opens, readAll_append, readAll_single isFirst] at unchanged
      exact congrArg Prod.fst unchanged
    have bounded :=
      length_le_of_readAll_quote ⟨.bare, literal front⟩ (.inr rfl) onward
    simp only [literal, size, List.length_map, List.length_append, List.length_cons,
      List.length_nil] at bounded
    omega
  · intro noQuote
    have opens :
        start.readAll ('\'' :: text ++ ['\'']) =
          readAll ⟨.single, []⟩ (text ++ ['\'']) :=
      rfl
    rw [opens, readAll_append, readAll_single noQuote]
    rfl

end Provision.ShellText
