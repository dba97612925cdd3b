import Provision.Proofs.Descriptor.Calls

namespace Provision.Descriptor

/-!
# Outermost calls

A word that stands inside a call stands in its group, where at least one
parenthesis is open. The arguments of that word never lead below the depth in
which they start, so they end before the group does: calls are nested or apart.
The search keeps a call unless its word stands inside one that it has kept, and
a call that never ends is not kept. So the calls found are exactly those that
lie in no other one, in order and apart.
-/

/-! ## Nested calls -/

section Nesting

variable {keyword blanks : Text}

/-- Words and blanks contain no parenthesis. -/
private theorem foreign_of_word_and_blanks
    (word : IsWord keyword)
    (blank : ∀ c ∈ blanks, isLineBlank c = true) :
    ∀ c ∈ keyword ++ blanks, c ≠ '(' ∧ c ≠ ')' := by
  intro c member
  rcases List.mem_append.mp member with inWord | inBlanks
  · have identifier := word.identifier c inWord
    constructor <;>
    · rintro rfl
      exact absurd identifier (by decide)
  · have isBlank := blank c inBlanks
    constructor <;>
    · rintro rfl
      exact absurd isBlank (by decide)

/-- Up to its end, a call never leads below the depth in which it starts. -/
theorem le_depthAfter_of_arguments
    {arguments read later : Text}
    (word : IsWord keyword)
    (closed : IsArguments arguments)
    (shape : keyword ++ arguments = read ++ later)
    (depth : Nat) :
    depth ≤ depthAfter '(' ')' .code depth read := by
  obtain ⟨blanks, group, rfl, blank, isGroup⟩ := closed
  have foreign := foreign_of_word_and_blanks word blank
  rw [← List.append_assoc] at shape
  rcases List.append_eq_append_iff.mp shape with
      ⟨part, rfl, rfl⟩ | ⟨part, frontShape, -⟩
  · rw [depthAfter_append, depthAfter_eq_self foreign,
      LexicalState.run_append, word.run_eq_code, run_blanks blank]
    exact isGroup.le_depthAfter areDelimiters_parentheses depth
  · have readForeign : ∀ c ∈ read, c ≠ '(' ∧ c ≠ ')' := fun c member =>
      foreign c (by rw [frontShape]; exact List.mem_append_left part member)
    exact Nat.le_of_eq (depthAfter_eq_self readForeign .code depth).symm

/-- A word and a parenthesis start differently. -/
private theorem word_append_ne
    {group after rest : Text}
    (word : IsWord keyword)
    (isGroup : Group '(' ')' group) :
    keyword ++ rest ≠ group ++ after := by
  intro same
  obtain ⟨inner, rfl⟩ := List.head?_eq_some_iff.mp isGroup.opens
  obtain ⟨first, more, rfl⟩ := List.exists_cons_of_ne_nil word.nonempty
  obtain ⟨rfl, -⟩ := List.cons.inj same
  exact (word.passive '(' List.mem_cons_self).2 rfl

/-- A word that stands alone behind the word of a call, and inside the call, stands in its group. -/
private theorem exists_lead_of_later_word
    {group after between rest : Text}
    (word : IsWord keyword)
    (blank : ∀ c ∈ blanks, isLineBlank c = true)
    (isGroup : Group '(' ')' group)
    (nonempty : between ≠ [])
    (apart : between.getLast?.any isIdentifierChar = false)
    (inside :
      Text.byteLength between < Text.byteLength (keyword ++ (blanks ++ group)))
    (shape :
      keyword ++ (blanks ++ (group ++ after)) = between ++ (keyword ++ rest)) :
    ∃ lead tail,
      between = keyword ++ (blanks ++ lead) ∧
        group = lead ++ tail ∧
        keyword ++ rest = tail ++ after ∧
        lead ≠ [] ∧
        tail ≠ [] := by
  rcases List.append_eq_append_iff.mp shape with
      ⟨behindWord, rfl, behindShape⟩ | ⟨part, keywordShape, -⟩
  · rcases List.append_eq_append_iff.mp behindShape with
        ⟨lead, rfl, leadShape⟩ | ⟨part, blanksShape, partShape⟩
    · rcases List.append_eq_append_iff.mp leadShape with
          ⟨part, rfl, -⟩ | ⟨tail, rfl, tailShape⟩
      · simp only [Text.byteLength_append] at inside
        omega
      · refine ⟨lead, tail, rfl, rfl, tailShape, ?_, ?_⟩
        · rintro rfl
          exact word_append_ne word isGroup tailShape
        · rintro rfl
          simp at inside
    · -- The word would start with a blank.
      cases part with
      | nil =>
          exact (word_append_ne word isGroup partShape).elim
      | cons c more =>
          obtain ⟨first, others, rfl⟩ :=
            List.exists_cons_of_ne_nil word.nonempty
          obtain ⟨rfl, -⟩ := List.cons.inj partShape
          have isBlank := blank first (by rw [blanksShape]; simp)
          have identifier := word.identifier first List.mem_cons_self
          simp only [isLineBlank, Bool.or_eq_true, beq_iff_eq] at isBlank
          rcases isBlank with rfl | rfl <;> exact absurd identifier (by decide)
  · -- The word would not stand alone.
    rw [List.getLast?_eq_some_getLast nonempty, Option.any_some,
      word.identifier _ (by
        rw [keywordShape]
        exact List.mem_append_left part (List.getLast_mem nonempty))] at apart
    cases apart

/-- A call whose word stands inside another call ends inside it. -/
theorem IsCall.stop_le
    {before arguments after otherBefore otherArguments otherAfter : Text}
    (word : IsWord keyword)
    (outer : IsCall before arguments after)
    (inner : IsCall otherBefore otherArguments otherAfter)
    (shape :
      before ++ (keyword ++ (arguments ++ after)) =
        otherBefore ++ (keyword ++ (otherArguments ++ otherAfter)))
    (later :
      (callRange keyword before arguments).start <
        (callRange keyword otherBefore otherArguments).start)
    (inside :
      (callRange keyword otherBefore otherArguments).start <
        (callRange keyword before arguments).stop) :
    (callRange keyword otherBefore otherArguments).stop ≤
      (callRange keyword before arguments).stop := by
  obtain ⟨blanks, group, rfl, blank, isGroup⟩ := outer.closed
  simp only [callRange] at later inside ⊢
  obtain ⟨between, rfl, behind⟩ :=
    Text.exists_between_of_byteLength_le shape (Nat.le_of_lt later)
  have nonempty : between ≠ [] := by
    rintro rfl
    simp at later
  have apart : between.getLast?.any isIdentifierChar = false := by
    have alone := inner.live.alone
    simp only [standsAlone, Bool.and_eq_true, Bool.not_eq_true'] at alone
    rw [List.getLast?_append, List.getLast?_eq_some_getLast nonempty,
      Option.some_or] at alone
    rw [List.getLast?_eq_some_getLast nonempty]
    exact alone.1
  have within :
      Text.byteLength between <
        Text.byteLength (keyword ++ (blanks ++ group)) := by
    rw [Text.byteLength_append before, Text.byteLength_append before] at inside
    omega
  rw [List.append_assoc blanks] at behind
  obtain ⟨lead, tail, rfl, rfl, goesOn, leadNonempty, tailNonempty⟩ :=
    exists_lead_of_later_word word blank isGroup nonempty apart within behind
  have leadCode : LexicalState.run .code lead = .code := by
    have inCode := inner.live.inCode
    simpa only [LexicalState.run_append, outer.live.inCode, word.run_eq_code,
      run_blanks blank] using inCode
  rw [← List.append_assoc] at goesOn
  rcases List.append_eq_append_iff.mp goesOn with
      ⟨part, rfl, -⟩ | ⟨part, callShape, -⟩
  · simp only [Text.byteLength_append]
    omega
  · -- The group would be closed inside the later call, which leads to no lower depth.
    have isOpen := isGroup.staysOpen lead tail rfl leadNonempty tailNonempty
    have closed := isGroup.closed
    rw [depthAfter_append, leadCode] at closed
    have kept :=
      le_depthAfter_of_arguments word inner.closed callShape
        (depthAfter '(' ')' .code 0 lead)
    omega

end Nesting

/-! ## The search -/

/-- A call ends behind its start. -/
theorem lt_stop_of_callAt?
    {text keyword : Text}
    {start : Nat}
    {call : ByteRange}
    (found : callAt? text keyword start = some call) :
    start < call.stop := by
  simp only [callAt?, Option.bind_eq_bind, Option.bind_eq_some_iff] at found
  obtain ⟨tail, -, found⟩ := found
  split at found
  · obtain ⟨close, closeFound, sameCall⟩ := Option.bind_eq_some_iff.mp found
    obtain ⟨before, skipped, group, rest, -, argumentsAt, -, -, isGroup,
        placed⟩ :=
      (matchingDelimiter?_eq_some_iff areDelimiters_parentheses).mp closeFound
    have parenthesisSize : ')'.utf8Size = 1 := by decide
    have positive := Text.byteLength_pos isGroup.nonempty
    rw [← Option.some.inj sameCall]
    simp only [Text.byteLength_append, parenthesisSize] at placed ⊢
    omega
  · cases found

section Search

variable {text keyword : Text} {searched : Nat} {starts : List Nat}

/-- No call is kept that starts before the place up to which the text was searched. -/
theorem le_start_of_mem_outermostCalls
    {call : ByteRange}
    (member : call ∈ outermostCalls text keyword searched starts) :
    searched ≤ call.start := by
  induction starts generalizing searched with
  | nil =>
      cases member
  | cons start rest inductionHypothesis =>
      rw [outermostCalls] at member
      split at member
      · exact inductionHypothesis member
      · rename_i behind
        have reached : searched ≤ start := Nat.le_of_not_lt behind
        split at member
        · rename_i first found
          have positive := lt_stop_of_callAt? found
          rcases List.mem_cons.mp member with rfl | inRest
          · rw [start_of_callAt? found]
            exact reached
          · have later := inductionHypothesis inRest
            omega
        · exact inductionHypothesis member

/-- The calls that are kept come one behind the other. -/
theorem pairwise_outermostCalls :
    (outermostCalls text keyword searched starts).Pairwise
      fun earlier later => earlier.stop ≤ later.start := by
  induction starts generalizing searched with
  | nil =>
      exact List.Pairwise.nil
  | cons start rest inductionHypothesis =>
      rw [outermostCalls]
      split
      · exact inductionHypothesis
      · split
        · exact List.Pairwise.cons
            (fun later member => le_start_of_mem_outermostCalls member)
            inductionHypothesis
        · exact inductionHypothesis

/-- A call is kept, or its word stands in what was searched or inside a call that is kept. -/
theorem kept_or_inside
    {start : Nat}
    {call : ByteRange}
    (searched : Nat)
    (ascending : starts.Pairwise (· < ·))
    (member : start ∈ starts)
    (found : callAt? text keyword start = some call) :
    start < searched ∨
      ∃ kept ∈ outermostCalls text keyword searched starts,
        kept = call ∨ (kept.start < start ∧ start < kept.stop) := by
  induction starts generalizing searched with
  | nil =>
      cases member
  | cons first rest inductionHypothesis =>
      obtain ⟨laterStarts, restAscending⟩ := List.pairwise_cons.mp ascending
      rw [outermostCalls]
      rcases List.mem_cons.mp member with rfl | inRest
      · rw [found]
        by_cases behind : start < searched
        · exact Or.inl behind
        · rw [if_neg behind]
          exact Or.inr ⟨call, List.mem_cons_self, Or.inl rfl⟩
      · have later := laterStarts start inRest
        split
        · exact inductionHypothesis searched restAscending inRest
        · split
          · rename_i firstCall firstFound
            refine Or.inr ?_
            rcases inductionHypothesis firstCall.stop restAscending inRest with
              hidden | ⟨kept, keptMember, place⟩
            · refine ⟨firstCall, List.mem_cons_self, Or.inr ⟨?_, hidden⟩⟩
              rw [start_of_callAt? firstFound]
              exact later
            · exact ⟨kept, List.mem_cons_of_mem firstCall keptMember, place⟩
          · exact inductionHypothesis searched restAscending inRest

end Search

/--
The calls found come one behind the other. Each is a live word with the group
that its parenthesis begins, and each live word with such a group, whatever
stands around it, has its call among those found or inside one of them.
-/
theorem calls_outermost
    {keyword : Text}
    (word : IsWord keyword)
    (text : Text) :
    ((calls text keyword).Pairwise fun earlier later =>
        earlier.stop ≤ later.start) ∧
      (∀ call ∈ calls text keyword,
        call.start < call.stop ∧
          ∃ before arguments after,
            text = before ++ (keyword ++ (arguments ++ after)) ∧
              IsCall before arguments after ∧
              call = callRange keyword before arguments) ∧
      ∀ before arguments after,
        text = before ++ (keyword ++ (arguments ++ after)) →
        IsCall before arguments after →
        ∃ call ∈ calls text keyword,
          call = callRange keyword before arguments ∨
            (call.start < (callRange keyword before arguments).start ∧
              (callRange keyword before arguments).stop ≤ call.stop) := by
  refine ⟨pairwise_outermostCalls, fun call member =>
    ⟨lt_stop_of_callAt? (callAt?_of_mem_calls member).2,
      exists_isCall_of_mem_calls word member⟩, ?_⟩
  rintro before arguments after rfl isCall
  have startMember :
      Text.byteLength before ∈
        keywordStarts (before ++ (keyword ++ (arguments ++ after))) keyword :=
    word.mem_keywordStarts_iff.mpr ⟨before, _, rfl, rfl, isCall.live⟩
  have found :
      callAt? (before ++ (keyword ++ (arguments ++ after))) keyword
          (Text.byteLength before) =
        some (callRange keyword before arguments) :=
    callAt?_eq_some_iff.mpr ⟨arguments, after, rfl, isCall.closed, rfl⟩
  rcases kept_or_inside 0 (word.keywordStarts_pairwise _) startMember found with
    beforeStart | ⟨kept, keptMember, same | ⟨starts, reaches⟩⟩
  · exact (Nat.not_lt_zero _ beforeStart).elim
  · exact ⟨kept, keptMember, Or.inl same⟩
  · refine ⟨kept, keptMember, Or.inr ⟨starts, ?_⟩⟩
    obtain ⟨outerBefore, outerArguments, outerAfter, shape, outer, rfl⟩ :=
      exists_isCall_of_mem_calls word keptMember
    exact outer.stop_le word isCall shape.symm starts reaches

/-- A call that never ends and, behind it, a call in a call, a comment, a string and a last call. -/
def nestedCalls : Text :=
  "run(\nrun (a run(b))\n# run(\n\"run(\" run(c)".toList

/-- The calls that end are found, and the inner one is inside the first of them. -/
theorem nestedCalls_outermost :
    IsWord "run".toList ∧
      calls nestedCalls "run".toList = [⟨5, 19⟩, ⟨34, 40⟩] ∧
      ((calls nestedCalls "run".toList).Pairwise fun earlier later =>
        earlier.stop ≤ later.start) ∧
      ∃ call ∈ calls nestedCalls "run".toList,
        call = ⟨12, 18⟩ ∨ (call.start < 12 ∧ 18 ≤ call.stop) := by
  have word : IsWord "run".toList := {
    nonempty := by decide +kernel
    identifier := List.all_eq_true.mp (by decide +kernel)
  }
  have innerFound :
      callAt? ("run(\nrun (a ".toList ++
          ("run".toList ++ "(b))\n# run(\n\"run(\" run(c)".toList))
          "run".toList (Text.byteLength "run(\nrun (a ".toList) =
        some ⟨12, 18⟩ := by
    decide +kernel
  obtain ⟨arguments, after, shape, closed, range⟩ :=
    callAt?_eq_some_iff.mp innerFound
  obtain ⟨apart, -, complete⟩ := calls_outermost word nestedCalls
  refine ⟨word, by decide +kernel, apart, ?_⟩
  have inner := complete "run(\nrun (a ".toList arguments after
    (by rw [← shape]; decide +kernel)
    ⟨by rw [← shape]; exact ⟨by decide +kernel, by decide +kernel⟩, closed⟩
  rwa [← range] at inner

end Provision.Descriptor
