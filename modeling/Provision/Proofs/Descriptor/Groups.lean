import Provision.Proofs.Descriptor.States
import Provision.Proofs.Text.Cuts

namespace Provision.Descriptor

/-!
# Delimited groups

The nesting depth counts the live opening delimiters of a text that no live
closing one has answered. A group starts at an opening delimiter and ends where
the depth first comes back to zero. The search for a matching delimiter passes
text that opens nothing over and then stops at the end of the first group.
-/

/-- Two characters that delimit groups: different, and live in code. -/
structure AreDelimiters (opening close : Char) : Prop where
  different : opening ≠ close
  openingLive : LexicalState.isLive .code opening = true
  closeLive : LexicalState.isLive .code close = true

/-- Parentheses delimit groups. -/
theorem areDelimiters_parentheses : AreDelimiters '(' ')' where
  different := by decide
  openingLive := by decide
  closeLive := by decide

/-- The depth behind one character; a close with nothing open changes nothing. -/
def depthStep
    (opening close : Char)
    (state : LexicalState)
    (depth : Nat)
    (c : Char) : Nat :=
  if state.isLive c then
    if c = opening then depth + 1
    else if c = close then depth - 1
    else depth
  else
    depth

/-- The depth behind a text. -/
def depthAfter
    (opening close : Char) :
    LexicalState → Nat → Text → Nat
  | _, depth, [] => depth
  | state, depth, c :: rest =>
      depthAfter opening close (state.step c)
        (depthStep opening close state depth c) rest

/--
Nothing is left open at the end of a stretch, and something is open between any
two of its characters.
-/
structure ClosesAtEnd
    (opening close : Char)
    (state : LexicalState)
    (depth : Nat)
    (stretch : Text) : Prop where
  nonempty : stretch ≠ []
  closed : depthAfter opening close state depth stretch = 0
  staysOpen :
    ∀ read later,
      stretch = read ++ later →
      read ≠ [] →
      later ≠ [] →
      0 < depthAfter opening close state depth read

/-- A stretch in code that opens with a delimiter and ends where that is closed. -/
structure Group (opening close : Char) (group : Text) : Prop extends
    ClosesAtEnd opening close .code 0 group where
  opens : group.head? = some opening

/-- Whether no live opening delimiter stands in a text. -/
def opensNothing (opening : Char) : LexicalState → Text → Bool
  | _, [] => true
  | state, c :: rest =>
      !(state.isLive c && c == opening) &&
        opensNothing opening (state.step c) rest

section Depth

variable {opening close : Char}

@[simp] theorem depthAfter_nil
    (state : LexicalState)
    (depth : Nat) :
    depthAfter opening close state depth [] = depth :=
  rfl

@[simp] theorem depthAfter_cons
    (state : LexicalState)
    (depth : Nat)
    (c : Char)
    (rest : Text) :
    depthAfter opening close state depth (c :: rest) =
      depthAfter opening close (state.step c)
        (depthStep opening close state depth c) rest :=
  rfl

@[simp] theorem depthAfter_append
    (state : LexicalState)
    (depth : Nat)
    (first second : Text) :
    depthAfter opening close state depth (first ++ second) =
      depthAfter opening close (state.run first)
        (depthAfter opening close state depth first) second := by
  induction first generalizing state depth with
  | nil =>
      rfl
  | cons c rest inductionHypothesis =>
      simp [inductionHypothesis]

/-- An opening delimiter in code is one level deeper. -/
theorem depthStep_opening
    (delimiters : AreDelimiters opening close)
    (depth : Nat) :
    depthStep opening close .code depth opening = depth + 1 := by
  simp [depthStep, delimiters.openingLive]

/-- Only a live close leads from an open place to one where nothing is open. -/
theorem depthStep_eq_zero
    {state : LexicalState}
    {depth : Nat}
    {c : Char}
    (isOpen : 0 < depth)
    (closed : depthStep opening close state depth c = 0) :
    state.isLive c = true ∧ c = close ∧ depth = 1 := by
  simp only [depthStep] at closed
  split at closed
  · rename_i live
    split at closed
    · omega
    · split at closed
      · rename_i closes
        exact ⟨live, closes, by omega⟩
      · omega
  · omega

/-- Where something is open, further depth below it stays as it is. -/
theorem depthStep_add
    {depth : Nat}
    (isOpen : 0 < depth)
    (state : LexicalState)
    (below : Nat)
    (c : Char) :
    depthStep opening close state (depth + below) c =
      depthStep opening close state depth c + below := by
  simp only [depthStep]
  repeat' split
  all_goals omega

/-- A character that opens nothing leaves the depth at zero. -/
private theorem depthStep_zero
    {state : LexicalState}
    {c : Char}
    (opensNot : (state.isLive c && c == opening) = false) :
    depthStep opening close state 0 c = 0 := by
  simp only [Bool.and_eq_false_iff, beq_eq_false_iff_ne] at opensNot
  simp only [depthStep]
  rcases opensNot with notLive | notOpening
  · simp [notLive]
  · simp [notOpening]

/-- A text without delimiters leaves the depth as it is. -/
theorem depthAfter_eq_self
    {text : Text}
    (foreign : ∀ c ∈ text, c ≠ opening ∧ c ≠ close)
    (state : LexicalState)
    (depth : Nat) :
    depthAfter opening close state depth text = depth := by
  induction text generalizing state with
  | nil =>
      rfl
  | cons c rest inductionHypothesis =>
      obtain ⟨notOpening, notClose⟩ := foreign c List.mem_cons_self
      have sameDepth : depthStep opening close state depth c = depth := by
        simp [depthStep, notOpening, notClose]
      rw [depthAfter_cons, sameDepth]
      exact inductionHypothesis
        (fun later member => foreign later (List.mem_cons_of_mem c member)) _

end Depth

/-- Nothing is passed over in front of a live opening delimiter. -/
private theorem eq_nil_of_opens
    {opening : Char}
    {state : LexicalState}
    {skipped rest behind : Text}
    (live : state.isLive opening = true)
    (nothing : opensNothing opening state skipped = true)
    (shape : opening :: rest = skipped ++ behind) :
    skipped = [] := by
  cases skipped with
  | nil =>
      rfl
  | cons first more =>
      obtain ⟨rfl, -⟩ := List.cons.inj shape
      simp [opensNothing, live] at nothing

namespace ClosesAtEnd

variable {opening close : Char} {state : LexicalState} {depth : Nat}

/-- A stretch closes at its first character or, if that leaves something open, later. -/
theorem cons_iff
    {c : Char}
    {rest : Text} :
    ClosesAtEnd opening close state depth (c :: rest) ↔
      (rest = [] ∧ depthStep opening close state depth c = 0) ∨
        (0 < depthStep opening close state depth c ∧
          ClosesAtEnd opening close (state.step c)
            (depthStep opening close state depth c) rest) := by
  constructor
  · intro closing
    cases rest with
    | nil =>
        exact Or.inl ⟨rfl, closing.closed⟩
    | cons d more =>
        refine Or.inr ⟨?_, List.cons_ne_nil d more, closing.closed, ?_⟩
        · exact closing.staysOpen [c] (d :: more) rfl
            (List.cons_ne_nil c []) (List.cons_ne_nil d more)
        · intro read later shape _ laterNonempty
          exact closing.staysOpen (c :: read) later (by rw [shape]; rfl)
            (List.cons_ne_nil c read) laterNonempty
  · rintro (⟨rfl, closed⟩ | ⟨isOpen, closing⟩)
    · refine ⟨List.cons_ne_nil c [], closed, ?_⟩
      intro read later shape readNonempty laterNonempty
      cases read with
      | nil =>
          exact (readNonempty rfl).elim
      | cons first more =>
          have empty := (List.cons.inj shape).2
          exact (laterNonempty
            (List.append_eq_nil_iff.mp empty.symm).2).elim
    · refine ⟨List.cons_ne_nil c rest, closing.closed, ?_⟩
      intro read later shape readNonempty laterNonempty
      cases read with
      | nil =>
          exact (readNonempty rfl).elim
      | cons first more =>
          obtain ⟨rfl, restShape⟩ := List.cons.inj shape
          by_cases moreEmpty : more = []
          · subst moreEmpty
            exact isOpen
          · exact closing.staysOpen more later restShape moreEmpty
              laterNonempty

/-- What closes an open place ends in code, with a live closing delimiter. -/
theorem ends
    {stretch : Text}
    (closing : ClosesAtEnd opening close state depth stretch)
    (isOpen : 0 < depth) :
    state.run stretch = .code ∧ stretch.getLast? = some close := by
  induction stretch generalizing state depth with
  | nil =>
      exact (closing.nonempty rfl).elim
  | cons c rest inductionHypothesis =>
      rcases cons_iff.mp closing with ⟨rfl, closed⟩ | ⟨stillOpen, restClosing⟩
      · obtain ⟨live, rfl, -⟩ := depthStep_eq_zero isOpen closed
        exact ⟨LexicalState.step_of_isLive live, rfl⟩
      · obtain ⟨inCode, last⟩ := inductionHypothesis restClosing stillOpen
        refine ⟨inCode, ?_⟩
        rw [List.getLast?_cons_of_ne_nil restClosing.nonempty]
        exact last

/-- What closes an open place closes no more than that. -/
theorem depthAfter_add
    {stretch : Text}
    (closing : ClosesAtEnd opening close state depth stretch)
    (isOpen : 0 < depth)
    (below : Nat) :
    depthAfter opening close state (depth + below) stretch = below := by
  induction stretch generalizing state depth with
  | nil =>
      exact (closing.nonempty rfl).elim
  | cons c rest inductionHypothesis =>
      rw [depthAfter_cons, depthStep_add isOpen]
      rcases cons_iff.mp closing with ⟨rfl, closed⟩ | ⟨stillOpen, restClosing⟩
      · rw [closed, depthAfter_nil, Nat.zero_add]
      · exact inductionHypothesis restClosing stillOpen

/-- What closes an open place leaves, up to its end, all that was open below it. -/
theorem le_depthAfter
    {read later : Text}
    (closing : ClosesAtEnd opening close state depth (read ++ later))
    (isOpen : 0 < depth)
    (below : Nat) :
    below ≤ depthAfter opening close state (depth + below) read := by
  induction read generalizing state depth with
  | nil =>
      exact Nat.le_add_left below depth
  | cons c rest inductionHypothesis =>
      rw [depthAfter_cons, depthStep_add isOpen]
      rw [List.cons_append] at closing
      rcases cons_iff.mp closing with ⟨atEnd, -⟩ | ⟨stillOpen, restClosing⟩
      · rw [(List.append_eq_nil_iff.mp atEnd).1, depthAfter_nil]
        exact Nat.le_add_left below _
      · exact inductionHypothesis restClosing stillOpen

end ClosesAtEnd

namespace Group

variable {opening close : Char} {group : Text}

/-- A group is its opening delimiter and what closes it. -/
theorem exists_inner
    (delimiters : AreDelimiters opening close)
    (isGroup : Group opening close group) :
    ∃ inner,
      group = opening :: inner ∧
        ClosesAtEnd opening close .code 1 inner := by
  obtain ⟨inner, rfl⟩ := List.head?_eq_some_iff.mp isGroup.opens
  refine ⟨inner, rfl, ?_⟩
  rcases ClosesAtEnd.cons_iff.mp isGroup.toClosesAtEnd with
      ⟨-, closed⟩ | ⟨-, closing⟩
  · simp [depthStep_opening delimiters] at closed
  · rw [depthStep_opening delimiters,
      LexicalState.step_of_isLive delimiters.openingLive] at closing
    exact closing

/-- An opening delimiter and what closes it are a group. -/
theorem of_inner
    (delimiters : AreDelimiters opening close)
    {inner : Text}
    (closing : ClosesAtEnd opening close .code 1 inner) :
    Group opening close (opening :: inner) where
  toClosesAtEnd := by
    rw [ClosesAtEnd.cons_iff, depthStep_opening delimiters,
      LexicalState.step_of_isLive delimiters.openingLive]
    exact Or.inr ⟨Nat.one_pos, closing⟩
  opens := rfl

theorem run_eq_code
    (delimiters : AreDelimiters opening close)
    (isGroup : Group opening close group) :
    LexicalState.run .code group = .code := by
  obtain ⟨inner, rfl, closing⟩ := isGroup.exists_inner delimiters
  rw [LexicalState.run_cons,
    LexicalState.step_of_isLive delimiters.openingLive]
  exact (closing.ends Nat.one_pos).1

theorem getLast?_eq
    (delimiters : AreDelimiters opening close)
    (isGroup : Group opening close group) :
    group.getLast? = some close := by
  obtain ⟨inner, rfl, closing⟩ := isGroup.exists_inner delimiters
  rw [List.getLast?_cons_of_ne_nil closing.nonempty]
  exact (closing.ends Nat.one_pos).2

/-- A group leaves every depth as it found it. -/
theorem depthAfter_eq
    (delimiters : AreDelimiters opening close)
    (isGroup : Group opening close group)
    (depth : Nat) :
    depthAfter opening close .code depth group = depth := by
  obtain ⟨inner, rfl, closing⟩ := isGroup.exists_inner delimiters
  rw [depthAfter_cons, depthStep_opening delimiters,
    LexicalState.step_of_isLive delimiters.openingLive, Nat.add_comm]
  exact closing.depthAfter_add Nat.one_pos depth

/-- Up to its end, a group never leads below the depth in which it starts. -/
theorem le_depthAfter
    (delimiters : AreDelimiters opening close)
    {read later : Text}
    (isGroup : Group opening close (read ++ later))
    (depth : Nat) :
    depth ≤ depthAfter opening close .code depth read := by
  cases read with
  | nil =>
      exact Nat.le_refl depth
  | cons c rest =>
      obtain ⟨inner, shape, closing⟩ := isGroup.exists_inner delimiters
      obtain ⟨rfl, rfl⟩ := List.cons.inj shape
      rw [depthAfter_cons, depthStep_opening delimiters,
        LexicalState.step_of_isLive delimiters.openingLive, Nat.add_comm]
      exact closing.le_depthAfter Nat.one_pos depth

/-- A group has no later group that ends where it ends. -/
theorem not_group_of_append
    (delimiters : AreDelimiters opening close)
    {leading inner : Text}
    (isGroup : Group opening close (leading ++ inner))
    (nonempty : leading ≠ [])
    (inCode : LexicalState.run .code leading = .code) :
    ¬ Group opening close inner := by
  intro innerGroup
  have leadingOpen :=
    isGroup.staysOpen leading inner rfl nonempty innerGroup.nonempty
  have closed := isGroup.closed
  rw [depthAfter_append, inCode, innerGroup.depthAfter_eq delimiters]
    at closed
  omega

end Group

section Search

variable {opening close : Char}

/-- One step of the search: stop at the close of the last open delimiter, or go on. -/
private theorem closingDelimiterFrom?_cons
    (state : LexicalState)
    (depth offset : Nat)
    (c : Char)
    (rest : Text) :
    closingDelimiterFrom? opening close state depth offset (c :: rest) =
      if 0 < depth ∧ depthStep opening close state depth c = 0 then
        some offset
      else
        closingDelimiterFrom? opening close (state.step c)
          (depthStep opening close state depth c)
          (offset + c.utf8Size) rest := by
  rw [closingDelimiterFrom?.eq_def]
  by_cases live : state.isLive c = true
  · by_cases opens : c = opening
    · subst opens
      simp [depthStep, live]
    · by_cases closes : c = close
      · subst closes
        match depth with
        | 0 => simp [depthStep, live, opens]
        | 1 => simp [depthStep, live, opens]
        | inner + 2 => simp [depthStep, live, opens]
      · have depthPositive : ¬ (0 < depth ∧ depth = 0) := by omega
        simp [depthStep, live, opens, closes, depthPositive]
  · have depthPositive : ¬ (0 < depth ∧ depth = 0) := by omega
    simp [depthStep, live, depthPositive]

/-- With something open, the search stops at the end of the stretch that closes it. -/
theorem closingDelimiterFrom?_eq_some_iff
    {state : LexicalState}
    {depth offset place : Nat}
    {text : Text}
    (isOpen : 0 < depth) :
    closingDelimiterFrom? opening close state depth offset text =
        some place ↔
      ∃ stretch rest,
        text = stretch ++ rest ∧
          ClosesAtEnd opening close state depth stretch ∧
          place + close.utf8Size = offset + Text.byteLength stretch := by
  induction text generalizing state depth offset with
  | nil =>
      constructor
      · intro found
        cases found
      · rintro ⟨stretch, rest, shape, closing, -⟩
        exact (closing.nonempty (List.append_eq_nil_iff.mp shape.symm).1).elim
  | cons c rest inductionHypothesis =>
      rw [closingDelimiterFrom?_cons]
      by_cases closed : depthStep opening close state depth c = 0
      · obtain ⟨-, isClose, -⟩ := depthStep_eq_zero isOpen closed
        simp only [isOpen, closed, and_self, ↓reduceIte, Option.some.injEq]
        constructor
        · rintro rfl
          exact ⟨[c], rest, rfl,
            ClosesAtEnd.cons_iff.mpr (Or.inl ⟨rfl, closed⟩),
            by simp [isClose]⟩
        · rintro ⟨stretch, later, shape, closing, placed⟩
          cases stretch with
          | nil =>
              exact (closing.nonempty rfl).elim
          | cons d more =>
              obtain ⟨rfl, -⟩ := List.cons.inj shape
              rcases ClosesAtEnd.cons_iff.mp closing with
                  ⟨rfl, -⟩ | ⟨stillOpen, -⟩
              · simp only [Text.byteLength_cons, Text.byteLength_nil,
                  isClose] at placed
                omega
              · omega
      · have stillOpen := Nat.pos_of_ne_zero closed
        simp only [closed, and_false, ↓reduceIte]
        rw [inductionHypothesis stillOpen]
        constructor
        · rintro ⟨stretch, later, rfl, closing, placed⟩
          refine ⟨c :: stretch, later, rfl,
            ClosesAtEnd.cons_iff.mpr (Or.inr ⟨stillOpen, closing⟩), ?_⟩
          rw [placed, Text.byteLength_cons, Nat.add_assoc]
        · rintro ⟨stretch, later, shape, closing, placed⟩
          cases stretch with
          | nil =>
              exact (closing.nonempty rfl).elim
          | cons d more =>
              obtain ⟨rfl, restShape⟩ := List.cons.inj shape
              rcases ClosesAtEnd.cons_iff.mp closing with
                  ⟨-, nothingOpen⟩ | ⟨-, restClosing⟩
              · exact (closed nothingOpen).elim
              · refine ⟨more, later, restShape, restClosing, ?_⟩
                rw [placed, Text.byteLength_cons, Nat.add_assoc]

/-- In front of a group, what is no live opening delimiter is passed over. -/
private theorem Group.exists_passed
    (delimiters : AreDelimiters opening close)
    {state : LexicalState}
    {c : Char}
    {skipped group rest later : Text}
    (isGroup : Group opening close group)
    (inCode : state.run skipped = .code)
    (opensNot : (state.isLive c && c == opening) = false)
    (shape : c :: rest = skipped ++ (group ++ later)) :
    ∃ more, skipped = c :: more ∧ rest = more ++ (group ++ later) := by
  cases skipped with
  | nil =>
      obtain ⟨inner, rfl, -⟩ := isGroup.exists_inner delimiters
      obtain ⟨rfl, -⟩ := List.cons.inj shape
      obtain rfl : state = .code := inCode
      simp [delimiters.openingLive] at opensNot
  | cons first more =>
      obtain ⟨rfl, restShape⟩ := List.cons.inj shape
      exact ⟨more, rfl, restShape⟩

/-- With nothing open, the search stops at the end of the first group. -/
theorem closingDelimiterFrom?_zero_eq_some_iff
    (delimiters : AreDelimiters opening close)
    {state : LexicalState}
    {offset place : Nat}
    {text : Text} :
    closingDelimiterFrom? opening close state 0 offset text =
        some place ↔
      ∃ skipped group rest,
        text = skipped ++ (group ++ rest) ∧
          opensNothing opening state skipped = true ∧
          state.run skipped = .code ∧
          Group opening close group ∧
          place + close.utf8Size =
            offset + Text.byteLength (skipped ++ group) := by
  induction text generalizing state offset with
  | nil =>
      constructor
      · intro found
        cases found
      · rintro ⟨skipped, group, rest, shape, -, -, isGroup, -⟩
        simp only [List.nil_eq, List.append_eq_nil_iff] at shape
        exact (isGroup.nonempty shape.2.1).elim
  | cons c rest inductionHypothesis =>
      rw [closingDelimiterFrom?_cons]
      simp only [Nat.lt_irrefl, false_and, ↓reduceIte]
      by_cases opens : (state.isLive c && c == opening) = true
      · obtain ⟨live, isOpening⟩ := Bool.and_eq_true_iff.mp opens
        obtain rfl := eq_of_beq isOpening
        obtain ⟨rfl, -⟩ := LexicalState.isLive_iff.mp live
        rw [depthStep_opening delimiters,
          closingDelimiterFrom?_eq_some_iff Nat.one_pos,
          LexicalState.step_of_isLive live]
        constructor
        · rintro ⟨stretch, later, rfl, closing, placed⟩
          refine ⟨[], c :: stretch, later, rfl, rfl, rfl,
            Group.of_inner delimiters closing, ?_⟩
          rw [placed, List.nil_append, Text.byteLength_cons, Nat.add_assoc]
        · rintro ⟨skipped, group, later, shape, nothing, -, isGroup, placed⟩
          obtain rfl := eq_nil_of_opens live nothing shape
          obtain ⟨inner, rfl, closing⟩ := isGroup.exists_inner delimiters
          refine ⟨inner, later, (List.cons.inj shape).2, closing, ?_⟩
          rw [placed, List.nil_append, Text.byteLength_cons, Nat.add_assoc]
      · rw [Bool.not_eq_true] at opens
        rw [depthStep_zero opens, inductionHypothesis]
        constructor
        · rintro ⟨skipped, group, later, rfl, nothing, inCode, isGroup,
            placed⟩
          refine ⟨c :: skipped, group, later, rfl, ?_, inCode, isGroup, ?_⟩
          · rw [opensNothing, opens, nothing]
            rfl
          · rw [placed, List.cons_append, Text.byteLength_cons,
              Nat.add_assoc]
        · rintro ⟨skipped, group, later, shape, nothing, inCode, isGroup,
            placed⟩
          obtain ⟨more, rfl, restShape⟩ :=
            isGroup.exists_passed delimiters inCode opens shape
          simp only [opensNothing, Bool.and_eq_true] at nothing
          refine ⟨more, group, later, restShape, nothing.2, inCode, isGroup, ?_⟩
          rw [placed, List.cons_append, Text.byteLength_cons, Nat.add_assoc]

/-- The search passes over leading code that opens nothing. -/
private theorem closingDelimiterFrom?_append
    {first : Text}
    (passive :
      ∀ c ∈ first, LexicalState.isLive .code c = true ∧ c ≠ opening)
    (offset : Nat)
    (second : Text) :
    closingDelimiterFrom? opening close .code 0 offset (first ++ second) =
      closingDelimiterFrom? opening close .code 0
        (offset + Text.byteLength first) second := by
  induction first generalizing offset with
  | nil =>
      rfl
  | cons c rest inductionHypothesis =>
      obtain ⟨live, notOpening⟩ := passive c List.mem_cons_self
      have opensNot :
          (LexicalState.isLive .code c && c == opening) = false := by
        simp [notOpening]
      rw [List.cons_append, closingDelimiterFrom?_cons,
        depthStep_zero opensNot, LexicalState.step_of_isLive live,
        inductionHypothesis fun d member =>
          passive d (List.mem_cons_of_mem c member)]
      simp [Nat.add_assoc]

/-- A search from before a stretch of code that opens nothing may as well start behind it. -/
theorem matchingDelimiter?_append
    {first : Text}
    (passive :
      ∀ c ∈ first, LexicalState.isLive .code c = true ∧ c ≠ opening)
    (before second : Text) :
    matchingDelimiter? (before ++ (first ++ second))
        (Text.byteLength before) opening close =
      matchingDelimiter? (before ++ (first ++ second))
        (Text.byteLength (before ++ first)) opening close := by
  rw [matchingDelimiter?, matchingDelimiter?, Text.after?_append,
    Text.after?_append_middle]
  simp only [Option.bind_eq_bind, Option.bind_some]
  rw [closingDelimiterFrom?_append passive, Text.byteLength_append before]

/-- The matching delimiter ends the first group behind the place where the search starts. -/
theorem matchingDelimiter?_eq_some_iff
    (delimiters : AreDelimiters opening close)
    {start place : Nat}
    {text : Text} :
    matchingDelimiter? text start opening close = some place ↔
      ∃ before skipped group rest,
        text = before ++ (skipped ++ (group ++ rest)) ∧
          Text.byteLength before = start ∧
          opensNothing opening .code skipped = true ∧
          LexicalState.run .code skipped = .code ∧
          Group opening close group ∧
          place + close.utf8Size =
            Text.byteLength (before ++ (skipped ++ group)) := by
  simp only [matchingDelimiter?, Option.bind_eq_bind,
    Option.bind_eq_some_iff, Text.after?_eq_some_iff]
  constructor
  · rintro ⟨tail, ⟨before, rfl, rfl⟩, found⟩
    obtain ⟨skipped, group, rest, rfl, nothing, inCode, isGroup, placed⟩ :=
      (closingDelimiterFrom?_zero_eq_some_iff delimiters).mp found
    exact ⟨before, skipped, group, rest, rfl, rfl, nothing, inCode, isGroup,
      by rw [placed, Text.byteLength_append before]⟩
  · rintro ⟨before, skipped, group, rest, rfl, rfl, nothing, inCode, isGroup,
      placed⟩
    refine ⟨skipped ++ (group ++ rest), ⟨before, rfl, rfl⟩, ?_⟩
    rw [closingDelimiterFrom?_zero_eq_some_iff delimiters]
    exact ⟨skipped, group, rest, rfl, nothing, inCode, isGroup,
      by rw [placed, Text.byteLength_append before]⟩

end Search

end Provision.Descriptor
