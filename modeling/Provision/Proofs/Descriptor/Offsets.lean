import Provision.Proofs.Descriptor.Insertion

namespace Provision.Descriptor

/-!
# Patching by offsets

The patch once more, with every place as a byte offset into some text. A cut is
taken by its two offsets and stops the run if one of them lies beyond the text
or inside a character, or if it ends before it starts; a difference below zero
stops the run, too. The main statement: no text stops it, and what it gives is
the patch.
-/

/-- What stops a run that works with offsets. -/
inductive OffsetFault where
  /-- The range reaches beyond the text, cuts a character, or ends before it starts. -/
  | cut (text : Text) (range : ByteRange)
  /-- A difference below zero. -/
  | difference (minuend subtrahend : Nat)
  deriving Repr, DecidableEq

/-- What a run with offsets gives, if nothing stops it. -/
abbrev Checked (α : Type) : Type :=
  Except OffsetFault α

namespace Checked

/-- The part of a text that a range covers. -/
def cut (text : Text) (range : ByteRange) : Checked Text :=
  match text.slice? range with
  | some part => .ok part
  | none => .error (.cut text range)

/-- The part of a text up to an offset. -/
def cutTo (text : Text) (stop : Nat) : Checked Text :=
  cut text ⟨0, stop⟩

/-- The part of a text from an offset on. -/
def cutFrom (text : Text) (start : Nat) : Checked Text :=
  cut text ⟨start, text.byteLength⟩

/-- The difference of two offsets. -/
def difference (minuend subtrahend : Nat) : Checked Nat :=
  if subtrahend ≤ minuend then
    .ok (minuend - subtrahend)
  else
    .error (.difference minuend subtrahend)

/-- Whether no identifier runs on across the ends of a range. -/
def standsAloneAt (text : Text) (start length : Nat) : Checked Bool := do
  let before ← cutTo text start
  let after ← cutFrom text (start + length)
  return standsAlone before.getLast? after.head?

/-- Whether a keyword stands alone at an offset. -/
def opensAt (text keyword : Text) (offset : Nat) : Checked Bool := do
  let here ← cutFrom text offset
  if keyword.isPrefixOf here then
    standsAloneAt text offset keyword.byteLength
  else
    return false

/-- Offsets of the live keywords in the part of `text` that starts at `offset`. -/
def keywordStartsFrom
    (text keyword : Text)
    (state : LexicalState)
    (offset free : Nat) :
    Text → Checked (List Nat)
  | [] => return []
  | c :: rest => do
      let next := offset + c.utf8Size
      let found ←
        if state.isLive c && free ≤ offset then
          opensAt text keyword offset
        else
          pure false
      if found then
        let more ←
          keywordStartsFrom text keyword (state.step c) next
            (offset + keyword.byteLength) rest
        return offset :: more
      else
        keywordStartsFrom text keyword (state.step c) next free rest

/-- Offsets of every keyword that stands alone in code. -/
def keywordStarts (text keyword : Text) : Checked (List Nat) :=
  if keyword.isEmpty then
    return []
  else
    keywordStartsFrom text keyword .code 0 0 text

/-- The call whose keyword starts at an offset. -/
def callAt (text keyword : Text) (start : Nat) : Checked (Option ByteRange) := do
  let argumentsAt := start + keyword.byteLength
  let tail ← cutFrom text argumentsAt
  if opensArguments tail then
    return (matchingDelimiter? text argumentsAt '(' ')').map
      fun close => ⟨start, close + 1⟩
  else
    return none

/-- The calls at the given keyword offsets, those inside an earlier call left out. -/
def outermostCalls (text keyword : Text) : Nat → List Nat → Checked (List ByteRange)
  | _, [] => return []
  | searched, start :: rest => do
      if start < searched then
        outermostCalls text keyword searched rest
      else
        match ← callAt text keyword start with
        | some call =>
            let more ← outermostCalls text keyword call.stop rest
            return call :: more
        | none =>
            outermostCalls text keyword searched rest

/-- Every call of the keyword in code, in order. -/
def calls (text keyword : Text) : Checked (List ByteRange) := do
  let starts ← keywordStarts text keyword
  outermostCalls text keyword 0 starts

/-- Whether a line starts at an offset. -/
def startsLine (text : Text) (offset : Nat) : Checked Bool := do
  if offset = 0 then
    return true
  else
    let before ← cutTo text offset
    return before.getLast? == some '\n'

/-- A range widened over its indentation and the line break that follows it. -/
def withLine (text : Text) (range : ByteRange) : Checked ByteRange := do
  let before ← cutTo text range.start
  let indent := (before.reverse.takeWhile isLineBlank).length
  let lineStart ← difference range.start indent
  let opensLine ← startsLine text lineStart
  let after ← cutFrom text range.stop
  return {
    start := if opensLine then lineStart else range.start
    stop := range.stop + lineBreakLength after
  }

/-- Those of the given calls that mention the deployment tool. -/
def mentioning (text : Text) : List ByteRange → Checked (List ByteRange)
  | [] => return []
  | call :: rest => do
      let command ← cut text call
      let more ← mentioning text rest
      if (Unicode.lowercase command).hasInfix formerNeedle then
        return call :: more
      else
        return more

/-- The text without the last of some commands and its line. -/
def withoutLast (text : Text) (commands : List ByteRange) : Checked Text := do
  match commands.getLast? with
  | some command =>
      let range ← withLine text command
      let before ← cutTo text range.start
      let after ← cutFrom text range.stop
      return before ++ after
  | none =>
      return text

/-- Where the first group ends that opens behind the last of some offsets. -/
def closeBehindLast? (text : Text) (starts : List Nat) : Option Nat := do
  let start ← starts.getLast?
  matchingDelimiter? text start '(' ')'

/-- Put the deployment block behind the last link step. -/
def patch (text : Text) : Checked Patch := do
  if isPatched text then
    return ⟨text, .alreadyPatched, 0⟩
  else
    let commands ← calls text formerKeyword
    let former ← mentioning text commands
    let base ← withoutLast text former
    let starts ← keywordStarts base linkKeyword
    match closeBehindLast? base starts with
    | some close =>
        let before ← cutTo base (close + 1)
        let after ← cutFrom base (close + 1)
        return ⟨before ++ deploymentBlock ++ after, .patched, former.length⟩
    | none =>
        return ⟨text, .anchorMissing, former.length⟩

/-! ## Cuts -/

@[simp] theorem ok_bind
    {α β : Type}
    (value : α)
    (next : α → Checked β) :
    ((.ok value : Checked α) >>= next) = next value :=
  rfl

/-- A cut succeeds exactly between two boundaries in order. -/
theorem cut_eq_ok_iff
    {text part : Text}
    {range : ByteRange} :
    cut text range = .ok part ↔
      ∃ before after,
        text = before ++ (part ++ after) ∧
          Text.byteLength before = range.start ∧
          Text.byteLength (before ++ part) = range.stop := by
  constructor
  · intro succeeds
    rw [cut] at succeeds
    split at succeeds
    · rename_i found slice
      cases succeeds
      obtain ⟨upToStop, stopCut, startCut⟩ :=
        Option.bind_eq_some_iff.mp slice
      obtain ⟨⟨front, after⟩, splitFound, rfl⟩ :=
        Option.map_eq_some_iff.mp stopCut
      obtain ⟨rfl, stops⟩ := Text.splitAtByte?_eq_some_iff.mp splitFound
      obtain ⟨before, rfl, starts⟩ := Text.after?_eq_some_iff.mp startCut
      exact ⟨before, after, List.append_assoc _ _ _, starts, stops⟩
    · cases succeeds
  · rintro ⟨before, after, rfl, starts, stops⟩
    have slice := Text.slice?_append before part after
    rw [starts, stops] at slice
    rw [cut, slice]

theorem cutTo_append
    (before after : Text) :
    cutTo (before ++ after) (Text.byteLength before) = .ok before :=
  cut_eq_ok_iff.mpr ⟨[], after, rfl, rfl, rfl⟩

theorem cutFrom_append
    (before after : Text) :
    cutFrom (before ++ after) (Text.byteLength before) = .ok after :=
  cut_eq_ok_iff.mpr ⟨before, [], by rw [List.append_nil], rfl, rfl⟩

theorem difference_add
    (first second : Nat) :
    difference (first + second) second = .ok first := by
  rw [difference, if_pos (Nat.le_add_left second first),
    Nat.add_sub_cancel]

/-! ## Keywords -/

theorem standsAloneAt_append
    (before keyword after : Text) :
    standsAloneAt (before ++ (keyword ++ after)) (Text.byteLength before)
        (Text.byteLength keyword) =
      .ok (standsAlone before.getLast? after.head?) := by
  have behind :
      cutFrom (before ++ (keyword ++ after))
          (Text.byteLength before + Text.byteLength keyword) =
        .ok after := by
    rw [← List.append_assoc, ← Text.byteLength_append]
    exact cutFrom_append (before ++ keyword) after
  rw [standsAloneAt, cutTo_append, ok_bind, behind, ok_bind]
  rfl

theorem opensAt_append
    (keyword before rest : Text) :
    opensAt (before ++ rest) keyword (Text.byteLength before) =
      .ok (opensWith keyword before.getLast? rest) := by
  rw [opensAt, cutFrom_append, ok_bind, opensWith]
  split
  · rename_i opens
    obtain ⟨after, rfl⟩ := List.isPrefixOf_iff_prefix.mp opens
    rw [standsAloneAt_append, opens, Bool.true_and, List.drop_left]
  · rename_i opensNot
    rw [Bool.not_eq_true] at opensNot
    rw [opensNot, Bool.false_and]
    rfl

/-- The part that was read ends in front of the offset, so every cut is at a boundary. -/
theorem keywordStartsFrom_eq_ok
    (keyword read rest : Text)
    (state : LexicalState)
    (free : Nat) :
    keywordStartsFrom (read ++ rest) keyword state (Text.byteLength read) free
        rest =
      .ok (Descriptor.keywordStartsFrom keyword state read.getLast?
        (Text.byteLength read) free rest) := by
  induction rest generalizing read state free with
  | nil =>
      rfl
  | cons c rest inductionHypothesis =>
      have onward (free : Nat) :
          keywordStartsFrom (read ++ c :: rest) keyword (state.step c)
              (Text.byteLength read + c.utf8Size) free rest =
            .ok (Descriptor.keywordStartsFrom keyword (state.step c) (some c)
              (Text.byteLength read + c.utf8Size) free rest) := by
        have stepped := inductionHypothesis (read ++ [c]) (state.step c) free
        simpa only [List.append_assoc, List.singleton_append,
          List.getLast?_concat, Text.byteLength_append, Text.byteLength_cons,
          Text.byteLength_nil, Nat.add_zero] using stepped
      rw [keywordStartsFrom, Descriptor.keywordStartsFrom]
      by_cases looks : (state.isLive c && decide (free ≤ Text.byteLength read)) = true
      · simp only [looks, ↓reduceIte, opensAt_append, ok_bind, Bool.true_and,
          onward]
        split <;> rfl
      · rw [Bool.not_eq_true] at looks
        simp only [looks, Bool.false_eq_true, ↓reduceIte, Bool.false_and]
        exact onward free

theorem keywordStarts_eq_ok
    (text keyword : Text) :
    keywordStarts text keyword = .ok (Descriptor.keywordStarts text keyword) := by
  rw [keywordStarts, Descriptor.keywordStarts]
  split
  · rfl
  · exact keywordStartsFrom_eq_ok keyword [] text .code 0

/-- A keyword stands where its offset says, whatever its characters are. -/
theorem exists_of_mem_keywordStartsFrom
    {keyword : Text}
    {state : LexicalState}
    {last : Option Char}
    {offset free place : Nat}
    {text : Text}
    (member :
      place ∈ Descriptor.keywordStartsFrom keyword state last offset free text) :
    ∃ before after,
      text = before ++ (keyword ++ after) ∧
        place = offset + Text.byteLength before := by
  induction text generalizing state last offset free with
  | nil =>
      cases member
  | cons c rest inductionHypothesis =>
      rw [Descriptor.keywordStartsFrom] at member
      have later {free : Nat}
          (inRest :
            place ∈ Descriptor.keywordStartsFrom keyword (state.step c)
              (some c) (offset + c.utf8Size) free rest) :
          ∃ before after,
            c :: rest = before ++ (keyword ++ after) ∧
              place = offset + Text.byteLength before := by
        obtain ⟨before, after, rfl, rfl⟩ := inductionHypothesis inRest
        refine ⟨c :: before, after, rfl, ?_⟩
        rw [Text.byteLength_cons, Nat.add_assoc]
      split at member
      · rename_i found
        simp only [Bool.and_eq_true] at found
        obtain ⟨after, shape, -⟩ := opensWith_iff.mp found.2
        rcases List.mem_cons.mp member with rfl | inRest
        · exact ⟨[], after, shape, rfl⟩
        · exact later inRest
      · exact later member

theorem exists_of_mem_keywordStarts
    {text keyword : Text}
    {place : Nat}
    (member : place ∈ Descriptor.keywordStarts text keyword) :
    ∃ before after,
      text = before ++ (keyword ++ after) ∧
        place = Text.byteLength before := by
  rw [Descriptor.keywordStarts] at member
  split at member
  · cases member
  · simpa using exists_of_mem_keywordStartsFrom member

/-! ## Calls -/

theorem callAt_append
    (before keyword after : Text) :
    callAt (before ++ (keyword ++ after)) keyword (Text.byteLength before) =
      .ok (callAt? (before ++ (keyword ++ after)) keyword
        (Text.byteLength before)) := by
  rw [callAt, callAt?, ← Text.byteLength_append, ← List.append_assoc,
    cutFrom_append, Text.after?_append]
  simp only [ok_bind, Option.bind_eq_bind, Option.bind_some]
  split
  · rw [Option.map_eq_bind]
    rfl
  · rfl

theorem outermostCalls_eq_ok
    {text keyword : Text}
    {starts : List Nat}
    (found : ∀ start ∈ starts, start ∈ Descriptor.keywordStarts text keyword)
    (searched : Nat) :
    outermostCalls text keyword searched starts =
      .ok (Descriptor.outermostCalls text keyword searched starts) := by
  induction starts generalizing searched with
  | nil =>
      rfl
  | cons start rest inductionHypothesis =>
      have restFound := fun later member =>
        found later (List.mem_cons_of_mem start member)
      obtain ⟨before, after, rfl, rfl⟩ :=
        exists_of_mem_keywordStarts (found start List.mem_cons_self)
      rw [outermostCalls, Descriptor.outermostCalls, callAt_append]
      split
      · exact inductionHypothesis restFound searched
      · rw [ok_bind]
        cases callAt? (before ++ (keyword ++ after)) keyword
            (Text.byteLength before) with
        | none =>
            exact inductionHypothesis restFound searched
        | some call =>
            simp only [inductionHypothesis restFound, ok_bind]
            rfl

theorem calls_eq_ok
    (text keyword : Text) :
    calls text keyword = .ok (Descriptor.calls text keyword) := by
  rw [calls, keywordStarts_eq_ok, ok_bind,
    outermostCalls_eq_ok fun _ member => member]
  rfl

/-- A call is a stretch of its text. -/
theorem exists_of_mem_calls
    {text keyword : Text}
    {call : ByteRange}
    (member : call ∈ Descriptor.calls text keyword) :
    ∃ before command after,
      text = before ++ (command ++ after) ∧
        call = ⟨Text.byteLength before, Text.byteLength (before ++ command)⟩ := by
  obtain ⟨startMember, found⟩ := callAt?_of_mem_calls member
  obtain ⟨before, behind, rfl, starts⟩ :=
    exists_of_mem_keywordStarts startMember
  rw [starts] at found
  obtain ⟨arguments, after, rfl, -, range⟩ := callAt?_eq_some_iff.mp found
  exact ⟨before, keyword ++ arguments, after, by rw [List.append_assoc], range⟩

/-! ## Lines -/

theorem startsLine_append
    (lead rest : Text) :
    startsLine (lead ++ rest) (Text.byteLength lead) =
      .ok (lead.getLast?.all (· == '\n')) := by
  rw [startsLine]
  by_cases empty : lead = []
  · subst empty
    rfl
  · have positive := Text.byteLength_pos empty
    rw [if_neg (Nat.ne_of_gt positive), cutTo_append, ok_bind,
      List.getLast?_eq_some_getLast empty]
    rfl

/-- Nothing is cut or subtracted at a wrong place when a range between two boundaries is widened. -/
theorem withLine_of_withLine?
    {before command after : Text}
    {range : ByteRange}
    (widened :
      withLine? (before ++ (command ++ after))
          ⟨Text.byteLength before, Text.byteLength (before ++ command)⟩ =
        some range) :
    withLine (before ++ (command ++ after))
        ⟨Text.byteLength before, Text.byteLength (before ++ command)⟩ =
      .ok range := by
  obtain ⟨lead, beforeShape, leadReverse, beforeLength⟩ :=
    exists_indent before
  have startFound :
      startsLine (before ++ (command ++ after)) (Text.byteLength lead) =
        .ok (lead.getLast?.all (· == '\n')) := by
    rw [beforeShape, List.append_assoc]
    exact startsLine_append lead _
  have lineStart :
      difference (Text.byteLength before)
          (before.reverse.takeWhile isLineBlank).length =
        .ok (Text.byteLength lead) := by
    rw [beforeLength]
    exact difference_add _ _
  have shift :
      Text.byteLength before - (before.reverse.takeWhile isLineBlank).length =
        Text.byteLength lead := by
    omega
  have afterCut :
      cutFrom (before ++ (command ++ after))
          (Text.byteLength (before ++ command)) =
        .ok after := by
    rw [← List.append_assoc]
    exact cutFrom_append (before ++ command) after
  simp only [withLine?, Text.before?_append, Text.after?_append_middle,
    Option.bind_eq_bind, Option.bind_some, ← leadReverse, List.head?_reverse, shift,
    Option.some.injEq] at widened
  simp only [withLine, cutTo_append, lineStart, startFound, afterCut, ok_bind,
    ← widened]
  rfl

/-- Every call can be widened to its line. -/
theorem withLine_eq_ok
    {text keyword : Text}
    {call : ByteRange}
    (member : call ∈ Descriptor.calls text keyword) :
    ∃ range,
      withLine text call = .ok range ∧ withLine? text call = some range := by
  obtain ⟨before, command, after, rfl, rfl⟩ := exists_of_mem_calls member
  obtain ⟨_, _, _, _, -, -, -, -, -, widened⟩ :=
    withLine?_append before command after
  exact ⟨_, withLine_of_withLine? widened, widened⟩

/-! ## Patches -/

theorem mentioning_eq_ok
    {text keyword : Text}
    {commands : List ByteRange}
    (found : ∀ call ∈ commands, call ∈ Descriptor.calls text keyword) :
    mentioning text commands =
      .ok (commands.filter (mentionsDeployment text)) := by
  induction commands with
  | nil =>
      rfl
  | cons call rest inductionHypothesis =>
      obtain ⟨before, command, after, rfl, rfl⟩ :=
        exists_of_mem_calls (found call List.mem_cons_self)
      have slice := Text.slice?_append before command after
      rw [mentioning,
        inductionHypothesis fun later member =>
          found later (List.mem_cons_of_mem _ member),
        cut, slice]
      simp only [ok_bind, List.filter_cons, mentionsDeployment, slice,
        Option.any_some]
      split <;> rfl

theorem withoutLast_eq_ok
    (text : Text) :
    withoutLast text (formerDeployments text) = .ok (cleaned text) := by
  rw [withoutLast, cleaned, excision?]
  cases last : (formerDeployments text).getLast? with
  | none =>
      rfl
  | some command =>
      have member : command ∈ Descriptor.calls text formerKeyword :=
        (List.mem_filter.mp (List.mem_of_getLast? last)).1
      obtain ⟨front, call, behind, rfl, rfl⟩ := exists_of_mem_calls member
      obtain ⟨kept, indent, lineBreak, rest, frontShape, behindShape, -, -, -,
          widened⟩ :=
        withLine?_append front call behind
      have shape :
          front ++ (call ++ behind) =
            kept ++ ((indent ++ (call ++ lineBreak)) ++ rest) := by
        rw [frontShape, behindShape]
        simp only [List.append_assoc]
      have stop :
          front ++ (call ++ lineBreak) =
            kept ++ (indent ++ (call ++ lineBreak)) := by
        rw [frontShape, List.append_assoc]
      have removed := remove?_append kept (indent ++ (call ++ lineBreak)) rest
      have keptCut :=
        cutTo_append kept ((indent ++ (call ++ lineBreak)) ++ rest)
      have restCut :=
        cutFrom_append (kept ++ (indent ++ (call ++ lineBreak))) rest
      rw [List.append_assoc kept] at restCut
      rw [← shape, ← stop] at removed restCut
      rw [← shape] at keptCut
      simp only [withLine_of_withLine? widened, keptCut, restCut, ok_bind,
        Option.bind_eq_bind, Option.bind_some, widened, removed,
        Option.getD_some]
      rfl

theorem insertionPoint?_eq_map
    (base : Text) :
    insertionPoint? base =
      (closeBehindLast? base (Descriptor.keywordStarts base linkKeyword)).map
        (· + 1) := by
  rw [insertionPoint?, closeBehindLast?, findLast?]
  cases (Descriptor.keywordStarts base linkKeyword).getLast? with
  | none =>
      rfl
  | some start =>
      exact (Option.map_eq_bind ..).symm

theorem patch_eq_ok
    (text : Text) :
    patch text = .ok (Descriptor.patch text) := by
  rw [patch, Descriptor.patch]
  split
  · rfl
  · have former :
        mentioning text (Descriptor.calls text formerKeyword) =
          .ok (formerDeployments text) :=
      mentioning_eq_ok fun _ member => member
    have point := insertionPoint?_eq_map (cleaned text)
    simp only [calls_eq_ok, former, withoutLast_eq_ok, keywordStarts_eq_ok,
      ok_bind]
    cases found :
        closeBehindLast? (cleaned text)
          (Descriptor.keywordStarts (cleaned text) linkKeyword) with
    | none =>
        rw [found, Option.map_none] at point
        simp only [point, Option.bind_none]
        rfl
    | some close =>
        rw [found, Option.map_some] at point
        obtain ⟨step, shape, -, stops⟩ := insertionPoint?_eq_some_iff.mp point
        have inserted := insertBlock?_append step.front step.after
        have frontCut := cutTo_append step.front step.after
        have afterCut := cutFrom_append step.front step.after
        rw [← stops, ← LinkStep.text, ← shape] at inserted frontCut afterCut
        simp only [point, Option.bind_some, inserted, frontCut, afterCut,
          ok_bind, List.append_assoc]
        rfl

/--
No text stops a run with offsets: keywords and calls of every keyword, the lines
of the calls, and the patch are what they are without a look at the offsets.
-/
theorem offsets_in_bounds
    (text : Text) :
    (∀ keyword,
      keywordStarts text keyword =
          .ok (Descriptor.keywordStarts text keyword) ∧
        calls text keyword = .ok (Descriptor.calls text keyword) ∧
        ∀ call ∈ Descriptor.calls text keyword,
          ∃ range,
            withLine text call = .ok range ∧
              withLine? text call = some range) ∧
      patch text = .ok (Descriptor.patch text) := by
  refine ⟨fun keyword => ⟨?_, ?_, ?_⟩, patch_eq_ok text⟩
  · exact keywordStarts_eq_ok text keyword
  · exact calls_eq_ok text keyword
  · intro call member
    exact withLine_eq_ok member

end Checked

end Provision.Descriptor
