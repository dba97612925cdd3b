import Mathlib.Data.List.Induction
import Provision.Proofs.Descriptor.Groups

namespace Provision.Descriptor

/-!
# Matching delimiters by counting

The live characters behind a place are listed with their offsets, and a stretch
of text is balanced when as many of them open as close it, while every shorter
stretch with the same start has more that open. The nesting depth of a group
never has to be cut off at zero, so it is the difference of the two numbers. The
main statement: the delimiter that the search gives is the end of the balanced
stretch that starts where something opens first, and there is none exactly if
there is no such stretch.
-/

/-- The live characters of a text and their offsets; it starts at `offset` in a state. -/
def liveCharsFrom (state : LexicalState) (offset : Nat) : Text → List (Nat × Char)
  | [] => []
  | c :: rest =>
      let more := liveCharsFrom (state.step c) (offset + c.utf8Size) rest
      if state.isLive c then (offset, c) :: more else more

/-- The live characters at or behind `start`, where reading starts in code. -/
def liveChars (text : Text) (start : Nat) : List (Nat × Char) :=
  match text.after? start with
  | some tail => liveCharsFrom .code start tail
  | none => []

/-- How often `c` is live from `first` up to, and not including, `stop`. -/
def liveCount (text : Text) (start : Nat) (c : Char) (first stop : Nat) : Nat :=
  (liveChars text start).countP fun live =>
    live.2 == c && first ≤ live.1 && live.1 < stop

/--
Behind `start`, an opening delimiter is live at `first` and none before it, a
closing one is live at `last`, and the stretch between them is balanced.
-/
structure Balances
    (opening close : Char)
    (text : Text)
    (start first last : Nat) : Prop where
  opens : (first, opening) ∈ liveChars text start
  opensFirst : ∀ place, (place, opening) ∈ liveChars text start → first ≤ place
  ordered : first < last
  closes : (last, close) ∈ liveChars text start
  level :
    liveCount text start opening first (last + close.utf8Size) =
      liveCount text start close first (last + close.utf8Size)
  above :
    ∀ stop,
      text.isBoundary stop = true →
      first < stop →
      stop ≤ last →
      liveCount text start close first stop < liveCount text start opening first stop

/-! ## Live characters -/

theorem liveCharsFrom_append
    (state : LexicalState)
    (offset : Nat)
    (first second : Text) :
    liveCharsFrom state offset (first ++ second) =
      liveCharsFrom state offset first ++
        liveCharsFrom (state.run first) (offset + Text.byteLength first) second := by
  induction first generalizing state offset with
  | nil =>
      rfl
  | cons c rest inductionHypothesis =>
      simp only [List.cons_append, liveCharsFrom, inductionHypothesis,
        LexicalState.run_cons, Text.byteLength_cons, Nat.add_assoc]
      split <;> rfl

/-- A character is listed exactly where it is met live. -/
theorem mem_liveCharsFrom_iff
    {state : LexicalState}
    {offset place : Nat}
    {c : Char}
    {text : Text} :
    (place, c) ∈ liveCharsFrom state offset text ↔
      ∃ read later,
        text = read ++ c :: later ∧
          place = offset + Text.byteLength read ∧
          (state.run read).isLive c = true := by
  induction text generalizing state offset with
  | nil =>
      simp [liveCharsFrom]
  | cons d rest inductionHypothesis =>
      -- The character is the first one, or one of the rest.
      have here :
          (place, c) ∈ liveCharsFrom state offset (d :: rest) ↔
            (place = offset ∧ c = d ∧ state.isLive d = true) ∨
              (place, c) ∈
                liveCharsFrom (state.step d) (offset + d.utf8Size) rest := by
        rw [liveCharsFrom]
        by_cases live : state.isLive d = true <;> simp [live]
      rw [here, inductionHypothesis]
      constructor
      · rintro (⟨rfl, rfl, live⟩ | ⟨read, later, rfl, rfl, live⟩)
        · exact ⟨[], rest, rfl, rfl, live⟩
        · refine ⟨d :: read, later, rfl, ?_, live⟩
          rw [Text.byteLength_cons, Nat.add_assoc]
      · rintro ⟨read, later, shape, rfl, live⟩
        cases read with
        | nil =>
            obtain ⟨rfl, rfl⟩ := List.cons.inj shape
            exact Or.inl ⟨rfl, rfl, live⟩
        | cons first more =>
            obtain ⟨rfl, restShape⟩ := List.cons.inj shape
            refine Or.inr ⟨more, later, restShape, ?_, live⟩
            rw [Text.byteLength_cons, Nat.add_assoc]

/-- Live characters stand inside their text. -/
theorem bounds_of_mem_liveCharsFrom
    {state : LexicalState}
    {offset place : Nat}
    {c : Char}
    {text : Text}
    (member : (place, c) ∈ liveCharsFrom state offset text) :
    offset ≤ place ∧ place < offset + Text.byteLength text := by
  obtain ⟨read, later, rfl, rfl, -⟩ := mem_liveCharsFrom_iff.mp member
  have positive := c.utf8Size_pos
  simp only [Text.byteLength_append, Text.byteLength_cons]
  omega

theorem liveChars_append
    (before tail : Text) :
    liveChars (before ++ tail) (Text.byteLength before) =
      liveCharsFrom .code (Text.byteLength before) tail := by
  rw [liveChars, Text.after?_append]

theorem mem_liveChars_iff
    {text : Text}
    {start place : Nat}
    {c : Char} :
    (place, c) ∈ liveChars text start ↔
      ∃ before read later,
        text = before ++ (read ++ c :: later) ∧
          Text.byteLength before = start ∧
          place = Text.byteLength (before ++ read) ∧
          (LexicalState.run .code read).isLive c = true := by
  constructor
  · intro member
    rw [liveChars] at member
    split at member
    · rename_i tail tailFound
      obtain ⟨before, rfl, rfl⟩ := Text.after?_eq_some_iff.mp tailFound
      obtain ⟨read, later, rfl, rfl, live⟩ := mem_liveCharsFrom_iff.mp member
      exact ⟨before, read, later, rfl, rfl,
        (Text.byteLength_append before read).symm, live⟩
    · cases member
  · rintro ⟨before, read, later, rfl, rfl, rfl, live⟩
    rw [liveChars_append, mem_liveCharsFrom_iff]
    exact ⟨read, later, rfl, Text.byteLength_append before read, live⟩

/-! ## Counting -/

/-- How often `c` is live in a text that is read from a state on. -/
def countLive (c : Char) (state : LexicalState) (text : Text) : Nat :=
  (liveCharsFrom state 0 text).countP (·.2 == c)

/-- The number of live characters does not depend on where the text starts. -/
theorem countP_liveCharsFrom
    (c : Char)
    (state : LexicalState)
    (offset : Nat)
    (text : Text) :
    (liveCharsFrom state offset text).countP (·.2 == c) =
      countLive c state text := by
  rw [countLive]
  generalize 0 = other
  induction text generalizing state offset other with
  | nil =>
      rfl
  | cons d rest inductionHypothesis =>
      have sameRest :=
        inductionHypothesis (state.step d) (offset + d.utf8Size)
          (other + d.utf8Size)
      simp only [liveCharsFrom]
      split
      · simp only [List.countP_cons, sameRest]
      · exact sameRest

theorem countLive_append
    (c : Char)
    (state : LexicalState)
    (first second : Text) :
    countLive c state (first ++ second) =
      countLive c state first + countLive c (state.run first) second := by
  rw [countLive, liveCharsFrom_append, List.countP_append,
    countP_liveCharsFrom, countP_liveCharsFrom]

theorem countLive_singleton
    (c : Char)
    (state : LexicalState)
    (d : Char) :
    countLive c state [d] = if state.isLive d ∧ d = c then 1 else 0 := by
  rw [countLive, liveCharsFrom]
  by_cases live : state.isLive d = true <;> simp [live, liveCharsFrom]

/-- Counting between two cuts counts what stands between them. -/
theorem liveCount_between
    (c : Char)
    (before skipped read later : Text) :
    liveCount (before ++ (skipped ++ (read ++ later)))
        (Text.byteLength before) c
        (Text.byteLength (before ++ skipped))
        (Text.byteLength (before ++ (skipped ++ read))) =
      countLive c (LexicalState.run .code skipped) read := by
  rw [liveCount, liveChars_append, liveCharsFrom_append, List.countP_append,
    liveCharsFrom_append, List.countP_append, ← Text.byteLength_append before]
  have noneBefore :
      (liveCharsFrom .code (Text.byteLength before) skipped).countP
          (fun live =>
            live.2 == c && Text.byteLength (before ++ skipped) ≤ live.1 &&
              live.1 < Text.byteLength (before ++ (skipped ++ read))) =
        0 := by
    rw [List.countP_eq_zero]
    rintro ⟨place, d⟩ member
    have bounds := bounds_of_mem_liveCharsFrom member
    rw [← Text.byteLength_append before] at bounds
    simp only [Bool.and_eq_true, decide_eq_true_eq]
    omega
  have allBetween :
      (liveCharsFrom (LexicalState.run .code skipped)
          (Text.byteLength (before ++ skipped)) read).countP
          (fun live =>
            live.2 == c && Text.byteLength (before ++ skipped) ≤ live.1 &&
              live.1 < Text.byteLength (before ++ (skipped ++ read))) =
        countLive c (LexicalState.run .code skipped) read := by
    rw [← countP_liveCharsFrom c _ (Text.byteLength (before ++ skipped))]
    refine List.countP_congr ?_
    rintro ⟨place, d⟩ member
    have bounds := bounds_of_mem_liveCharsFrom member
    rw [← Text.byteLength_append (before ++ skipped), List.append_assoc]
      at bounds
    simp only [bounds, decide_true, Bool.and_true]
  have noneBehind :
      (liveCharsFrom ((LexicalState.run .code skipped).run read)
          (Text.byteLength (before ++ skipped) + Text.byteLength read)
          later).countP
          (fun live =>
            live.2 == c && Text.byteLength (before ++ skipped) ≤ live.1 &&
              live.1 < Text.byteLength (before ++ (skipped ++ read))) =
        0 := by
    rw [List.countP_eq_zero]
    rintro ⟨place, d⟩ member
    have bounds := bounds_of_mem_liveCharsFrom member
    rw [← Text.byteLength_append (before ++ skipped), List.append_assoc]
      at bounds
    simp only [Bool.and_eq_true, decide_eq_true_eq]
    omega
  rw [noneBefore, allBetween, noneBehind]
  omega

/-! ## Depth -/

section Depth

variable {opening close : Char}

/-- Unless something is closed with nothing open, a step goes up or down by what it reads. -/
private theorem depthStep_add_countLive
    (delimiters : AreDelimiters opening close)
    (state : LexicalState)
    {depth : Nat}
    {c : Char}
    (kept : depth = 0 → c ≠ close) :
    depthStep opening close state depth c + countLive close state [c] =
      depth + countLive opening state [c] := by
  rw [countLive_singleton, countLive_singleton, depthStep]
  by_cases live : state.isLive c = true
  · by_cases opens : c = opening
    · subst opens
      simp [live, delimiters.different]
    · by_cases closes : c = close
      · have positive : 0 < depth :=
          Nat.pos_of_ne_zero fun zero => kept zero closes
        simp only [if_pos live, if_pos closes, if_pos (And.intro live closes),
          opens, and_false, ↓reduceIte]
        omega
      · simp [live, opens, closes]
  · simp [live]

private theorem head?_of_append
    {read later : Text}
    {c : Char}
    (nonempty : read ≠ [])
    (head : (read ++ later).head? = some c) :
    read.head? = some c := by
  cases read with
  | nil =>
      exact (nonempty rfl).elim
  | cons first more =>
      exact head

/-- While something stays open, the depth is the difference of the two counts. -/
theorem depthAfter_add_countLive
    (delimiters : AreDelimiters opening close)
    {stretch : Text}
    (opens : stretch.head? = some opening)
    (staysOpen :
      ∀ read later,
        stretch = read ++ later →
        read ≠ [] →
        later ≠ [] →
        0 < depthAfter opening close .code 0 read) :
    depthAfter opening close .code 0 stretch + countLive close .code stretch =
      countLive opening .code stretch := by
  -- Each character is read behind a part of the stretch that leaves something open.
  induction stretch using List.reverseRecOn with
  | nil =>
      cases opens
  | append_singleton read c inductionHypothesis =>
      by_cases atStart : read = []
      · subst atStart
        obtain rfl : c = opening := by simpa using opens
        have differs : 0 = 0 → c ≠ close :=
          fun _ => delimiters.different
        simpa using depthStep_add_countLive delimiters .code differs
      · have isOpen :=
          staysOpen read [c] rfl atStart (List.cons_ne_nil c [])
        have readOpens := head?_of_append atStart opens
        have soFar :=
          inductionHypothesis readOpens fun earlier later shape nonempty _ =>
            staysOpen earlier (later ++ [c])
              (by rw [shape, List.append_assoc]) nonempty (by simp)
        have kept : depthAfter opening close .code 0 read = 0 → c ≠ close :=
          fun zero => by omega
        have step :=
          depthStep_add_countLive delimiters (LexicalState.run .code read) kept
        rw [depthAfter_append, countLive_append, countLive_append,
          depthAfter_cons, depthAfter_nil]
        omega

/-- Something stays open where every part from the start has more opens than closes. -/
theorem staysOpen_of_countLive
    (delimiters : AreDelimiters opening close)
    {stretch : Text}
    (opens : stretch.head? = some opening)
    (above :
      ∀ read later,
        stretch = read ++ later →
        read ≠ [] →
        later ≠ [] →
        countLive close .code read < countLive opening .code read)
    (read later : Text)
    (shape : stretch = read ++ later)
    (readNonempty : read ≠ [])
    (laterNonempty : later ≠ []) :
    0 < depthAfter opening close .code 0 read := by
  -- The counts give the depth of a part only if the shorter parts leave something open.
  induction sized : read.length using Nat.strongRecOn generalizing read later with
  | ind size inductionHypothesis =>
      have more := above read later shape readNonempty laterNonempty
      have readOpens : read.head? = some opening :=
        head?_of_append readNonempty (shape ▸ opens)
      have shorterStayOpen :
          ∀ earlier between,
            read = earlier ++ between →
            earlier ≠ [] →
            between ≠ [] →
            0 < depthAfter opening close .code 0 earlier := by
        intro earlier between readShape earlierNonempty betweenNonempty
        have shorter : earlier.length < size := by
          have positive := List.length_pos_iff.mpr betweenNonempty
          rw [← sized, readShape, List.length_append]
          omega
        exact inductionHypothesis earlier.length shorter earlier (between ++ later)
          (by rw [shape, readShape, List.append_assoc]) earlierNonempty
          (by simp [laterNonempty]) rfl
      have counted := depthAfter_add_countLive delimiters readOpens shorterStayOpen
      omega

/-- The groups are the balanced stretches. -/
theorem group_iff_countLive
    (delimiters : AreDelimiters opening close)
    {group : Text} :
    Group opening close group ↔
      group.head? = some opening ∧
        countLive opening .code group = countLive close .code group ∧
        ∀ read later,
          group = read ++ later →
          read ≠ [] →
          later ≠ [] →
          countLive close .code read < countLive opening .code read := by
  constructor
  · intro isGroup
    refine ⟨isGroup.opens, ?_, ?_⟩
    · have counted :=
        depthAfter_add_countLive delimiters isGroup.opens isGroup.staysOpen
      rw [isGroup.closed] at counted
      omega
    · intro read later shape readNonempty laterNonempty
      have isOpen :=
        isGroup.staysOpen read later shape readNonempty laterNonempty
      have readOpens : read.head? = some opening :=
        head?_of_append readNonempty (shape ▸ isGroup.opens)
      have counted :=
        depthAfter_add_countLive delimiters readOpens
          fun earlier between readShape nonempty _ =>
            isGroup.staysOpen earlier (between ++ later)
              (by rw [shape, readShape, List.append_assoc]) nonempty
              (by simp [laterNonempty])
      omega
  · rintro ⟨opens, level, above⟩
    have nonempty : group ≠ [] := by
      rintro rfl
      cases opens
    have staysOpen := staysOpen_of_countLive delimiters opens above
    have counted := depthAfter_add_countLive delimiters opens staysOpen
    exact {
      nonempty := nonempty
      closed := by omega
      staysOpen := staysOpen
      opens := opens
    }

/-- The last character of a group is its live closing delimiter. -/
theorem Group.exists_last
    (delimiters : AreDelimiters opening close)
    {group : Text}
    (isGroup : Group opening close group) :
    ∃ inner,
      group = inner ++ [close] ∧
        inner ≠ [] ∧
        (LexicalState.run .code inner).isLive close = true := by
  obtain ⟨inner, rfl⟩ :=
    List.getLast?_eq_some_iff.mp (isGroup.getLast?_eq delimiters)
  have nonempty : inner ≠ [] := by
    rintro rfl
    exact delimiters.different
      (Option.some.inj isGroup.opens).symm
  have isOpen :=
    isGroup.staysOpen inner [close] rfl nonempty (List.cons_ne_nil close [])
  have closed := isGroup.closed
  rw [depthAfter_append, depthAfter_cons, depthAfter_nil] at closed
  exact ⟨inner, rfl, nonempty, (depthStep_eq_zero isOpen closed).1⟩

/-- Where nothing opens, no opening delimiter is live. -/
theorem opensNothing_iff
    {state : LexicalState}
    (offset : Nat)
    {text : Text} :
    opensNothing opening state text = true ↔
      ∀ place, (place, opening) ∉ liveCharsFrom state offset text := by
  induction text generalizing state offset with
  | nil =>
      simp [opensNothing, liveCharsFrom]
  | cons c rest inductionHypothesis =>
      rw [opensNothing, Bool.and_eq_true,
        inductionHypothesis (offset + c.utf8Size), liveCharsFrom]
      by_cases live : state.isLive c = true
      · by_cases isOpening : c = opening
        · subst isOpening
          exact iff_of_false (by simp [live])
            fun never => never offset (by simp [live])
        · simp [live, isOpening, Ne.symm isOpening]
      · simp [live]

end Depth

/-! ## The search -/

section Search

variable {opening close : Char}

/-- Comparing the counts at the boundaries in front of `c` compares the parts that end there. -/
private theorem liveCount_lt_iff
    (before skipped inner rest : Text)
    (c : Char) :
    (∀ stop,
      Text.isBoundary (before ++ (skipped ++ ((inner ++ [c]) ++ rest))) stop = true →
      Text.byteLength (before ++ skipped) < stop →
      stop ≤ Text.byteLength (before ++ (skipped ++ inner)) →
      liveCount (before ++ (skipped ++ ((inner ++ [c]) ++ rest)))
          (Text.byteLength before) close (Text.byteLength (before ++ skipped)) stop <
        liveCount (before ++ (skipped ++ ((inner ++ [c]) ++ rest)))
          (Text.byteLength before) opening (Text.byteLength (before ++ skipped)) stop) ↔
      ∀ read later,
        inner ++ [c] = read ++ later →
        read ≠ [] →
        later ≠ [] →
        countLive close (LexicalState.run .code skipped) read <
          countLive opening (LexicalState.run .code skipped) read := by
  constructor
  · intro above read later shape readNonempty laterNonempty
    have positive := Text.byteLength_pos readNonempty
    obtain ⟨front, last, rfl⟩ :=
      (List.eq_nil_or_concat later).resolve_left laterNonempty
    rw [List.concat_eq_append, ← List.append_assoc] at shape
    obtain ⟨rfl, -⟩ := List.append_inj' shape rfl
    have cut :
        before ++ (skipped ++ (((read ++ front) ++ [c]) ++ rest)) =
          (before ++ (skipped ++ read)) ++ (front ++ ([c] ++ rest)) := by
      simp only [List.append_assoc]
    have counted :=
      above (Text.byteLength (before ++ (skipped ++ read)))
        (by rw [cut, Text.isBoundary, Text.splitAtByte?_append]; rfl)
        (by simp only [Text.byteLength_append]; omega)
        (by simp only [Text.byteLength_append]; omega)
    rwa [List.append_assoc, List.append_assoc, liveCount_between,
      liveCount_between] at counted
  · intro parts stop boundary behindFirst uptoLast
    obtain ⟨⟨read, later⟩, cut⟩ := Option.isSome_iff_exists.mp boundary
    obtain ⟨shape, rfl⟩ := Text.splitAtByte?_eq_some_iff.mp cut
    rw [← List.append_assoc] at shape
    obtain ⟨between, rfl, innerShape⟩ :=
      Text.exists_between_of_byteLength_le shape (Nat.le_of_lt behindFirst)
    have splitShape :
        (before ++ skipped ++ between) ++ later =
          (before ++ (skipped ++ inner)) ++ ([c] ++ rest) := by
      rw [← shape]
      simp only [List.append_assoc]
    obtain ⟨remaining, frontShape, rfl⟩ :=
      Text.exists_between_of_byteLength_le splitShape uptoLast
    simp only [List.append_assoc, List.append_cancel_left_eq] at frontShape
    subst frontShape
    have betweenNonempty : between ≠ [] := by
      rintro rfl
      simp at behindFirst
    have fewer :=
      parts between (remaining ++ [c]) (List.append_assoc _ _ _)
        betweenNonempty (by simp)
    rw [List.append_assoc between, List.append_assoc between,
      List.append_assoc before, liveCount_between, liveCount_between]
    exact fewer

/-- What the search gives is the end of a balanced stretch. -/
private theorem exists_balances
    (delimiters : AreDelimiters opening close)
    {text : Text}
    {start place : Nat}
    (found : matchingDelimiter? text start opening close = some place) :
    ∃ first, Balances opening close text start first place := by
  obtain ⟨before, skipped, group, rest, rfl, rfl, nothing, inCode, isGroup,
      placed⟩ :=
    (matchingDelimiter?_eq_some_iff delimiters).mp found
  obtain ⟨opens, level, above⟩ := (group_iff_countLive delimiters).mp isGroup
  obtain ⟨inner, rfl, innerNonempty, closeLive⟩ :=
    isGroup.exists_last delimiters
  obtain ⟨more, openingShape⟩ := List.head?_eq_some_iff.mp opens
  have lastPlace :
      place = Text.byteLength (before ++ (skipped ++ inner)) := by
    simp only [Text.byteLength_append, Text.byteLength_cons,
      Text.byteLength_nil] at placed ⊢
    omega
  exact ⟨Text.byteLength (before ++ skipped), {
    opens := by
      rw [mem_liveChars_iff]
      exact ⟨before, skipped, more ++ rest, by rw [openingShape]; rfl, rfl, rfl,
        by rw [inCode]; exact delimiters.openingLive⟩
    opensFirst := by
      intro other member
      rw [liveChars_append, liveCharsFrom_append, List.mem_append,
        ← Text.byteLength_append before] at member
      rcases member with inSkipped | behind
      · exact ((opensNothing_iff _).mp nothing other inSkipped).elim
      · exact (bounds_of_mem_liveCharsFrom behind).1
    ordered := by
      have positive := Text.byteLength_pos innerNonempty
      rw [lastPlace]
      simp only [Text.byteLength_append]
      omega
    closes := by
      rw [mem_liveChars_iff]
      exact ⟨before, skipped ++ inner, rest,
        by simp only [List.append_assoc, List.singleton_append], rfl, lastPlace,
        by rw [LexicalState.run_append, inCode]; exact closeLive⟩
    level := by
      rw [placed, liveCount_between, liveCount_between, inCode]
      exact level
    above := by
      rw [lastPlace, liveCount_lt_iff, inCode]
      exact above
  }⟩

/-- The end of a balanced stretch is found. -/
private theorem matchingDelimiter?_of_balances
    (delimiters : AreDelimiters opening close)
    {text : Text}
    {start first place : Nat}
    (balances : Balances opening close text start first place) :
    matchingDelimiter? text start opening close = some place := by
  obtain ⟨before, skipped, behindOpening, rfl, rfl, rfl, openingLive⟩ :=
    mem_liveChars_iff.mp balances.opens
  obtain ⟨otherBefore, inner, rest, shape, sameLength, rfl, closeLive⟩ :=
    mem_liveChars_iff.mp balances.closes
  obtain ⟨rfl, tailShape⟩ :=
    Text.append_inj_of_byteLength shape sameLength.symm
  have inCode := (LexicalState.isLive_iff.mp openingLive).1
  have ordered := balances.ordered
  have skippedFirst : Text.byteLength skipped ≤ Text.byteLength inner := by
    simp only [Text.byteLength_append] at ordered
    omega
  obtain ⟨between, rfl, groupShape⟩ :=
    Text.exists_between_of_byteLength_le tailShape skippedFirst
  have nonempty : between ≠ [] := by
    rintro rfl
    simp at ordered
  have opens : between.head? = some opening := by
    have wholeOpens : (between ++ close :: rest).head? = some opening := by
      rw [← groupShape, List.head?_cons]
    exact head?_of_append nonempty wholeOpens
  have textShape :
      before ++ (skipped ++ opening :: behindOpening) =
        before ++ (skipped ++ ((between ++ [close]) ++ rest)) := by
    rw [groupShape]
    simp only [List.append_assoc, List.singleton_append]
  have stop :
      Text.byteLength (before ++ (skipped ++ between)) + close.utf8Size =
        Text.byteLength (before ++ (skipped ++ (between ++ [close]))) := by
    simp only [Text.byteLength_append, Text.byteLength_cons,
      Text.byteLength_nil]
    omega
  have isGroup : Group opening close (between ++ [close]) := by
    have level := balances.level
    have above := balances.above
    rw [stop, textShape, liveCount_between, liveCount_between, inCode] at level
    rw [textShape, liveCount_lt_iff, inCode] at above
    rw [group_iff_countLive delimiters]
    exact ⟨by rw [List.head?_append, opens, Option.some_or], level, above⟩
  rw [textShape, matchingDelimiter?_eq_some_iff delimiters]
  refine ⟨before, skipped, between ++ [close], rest, rfl, rfl, ?_, inCode,
    isGroup, stop⟩
  rw [opensNothing_iff (Text.byteLength before)]
  intro other member
  have notBefore := balances.opensFirst other (by
    rw [liveChars_append, liveCharsFrom_append]
    exact List.mem_append_left _ member)
  have inside := (bounds_of_mem_liveCharsFrom member).2
  rw [← Text.byteLength_append before] at inside
  omega

/--
For every text, every place, and any two different delimiters that open neither
strings nor comments: the search finds the close of the balanced stretch that
starts where the first of them opens, and finds nothing exactly if there is no
such stretch, as behind a place that is no boundary. What it finds is a boundary
inside the text.
-/
theorem matched_iff_balances
    (different : opening ≠ close)
    (openingPlain : opening ∉ ['"', '#'])
    (closePlain : close ∉ ['"', '#'])
    (text : Text)
    (start : Nat) :
    (∀ place,
      matchingDelimiter? text start opening close = some place ↔
        ∃ first, Balances opening close text start first place) ∧
      (matchingDelimiter? text start opening close = none ↔
        ∀ first place, ¬ Balances opening close text start first place) ∧
      (text.isBoundary start = false →
        matchingDelimiter? text start opening close = none) ∧
      ∀ place,
        matchingDelimiter? text start opening close = some place →
        text.isBoundary place = true ∧ place < text.byteLength := by
  have delimiters : AreDelimiters opening close := {
    different := different
    openingLive := by simpa [LexicalState.isLive] using openingPlain
    closeLive := by simpa [LexicalState.isLive] using closePlain
  }
  have finds (place : Nat) :
      matchingDelimiter? text start opening close = some place ↔
        ∃ first, Balances opening close text start first place := by
    constructor
    · exact exists_balances delimiters
    · rintro ⟨first, balances⟩
      exact matchingDelimiter?_of_balances delimiters balances
  refine ⟨finds, ?_, ?_, ?_⟩
  · rw [Option.eq_none_iff_forall_ne_some]
    constructor
    · exact fun nothing first place balances =>
        nothing place ((finds place).mpr ⟨first, balances⟩)
    · intro never place found
      obtain ⟨first, balances⟩ := (finds place).mp found
      exact never first place balances
  · intro noBoundary
    have noTail : text.after? start = none := by
      simpa [Text.isBoundary, Text.after?] using noBoundary
    rw [matchingDelimiter?, noTail]
    rfl
  · intro place found
    obtain ⟨first, balances⟩ := (finds place).mp found
    obtain ⟨before, read, later, rfl, -, rfl, -⟩ :=
      mem_liveChars_iff.mp balances.closes
    have positive := close.utf8Size_pos
    rw [← List.append_assoc, Text.isBoundary, Text.splitAtByte?_append]
    refine ⟨rfl, ?_⟩
    rw [Text.byteLength_append (before ++ read), Text.byteLength_cons]
    omega

end Search

/-- Nested pairs of wide delimiters, with closes before them, in a string and in a comment. -/
def nestedPairs : Text :=
  "é» «\"»\" # »\n«ü» \" \\\" »\" x» .".toList

theorem nestedPairs_balanced :
    '«' ≠ '»' ∧
      '«' ∉ ['"', '#'] ∧
      '»' ∉ ['"', '#'] ∧
      ∃ first, Balances '«' '»' nestedPairs 2 first 34 := by
  have different : '«' ≠ '»' := by decide
  have openingPlain : '«' ∉ ['"', '#'] := by decide
  have closePlain : '»' ∉ ['"', '#'] := by decide
  have found : matchingDelimiter? nestedPairs 2 '«' '»' = some 34 := by
    decide +kernel
  obtain ⟨finds, -⟩ :=
    matched_iff_balances different openingPlain closePlain nestedPairs 2
  exact ⟨different, openingPlain, closePlain, (finds 34).mp found⟩

end Provision.Descriptor
