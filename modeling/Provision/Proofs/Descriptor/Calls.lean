import Provision.Proofs.Descriptor.Groups
import Provision.Proofs.Descriptor.Words

namespace Provision.Descriptor

/-!
# Calls

A call is a live word, blanks, and one group of parentheses. The ranges that
the search for calls gives are those of calls in this sense, they come in the
order of their words, and each word starts at most one.
-/

/-- Blanks and one group of parentheses. -/
def IsArguments (arguments : Text) : Prop :=
  ∃ blanks group,
    arguments = blanks ++ group ∧
      (∀ c ∈ blanks, isLineBlank c = true) ∧
      Group '(' ')' group

/-- A keyword between two parts of a text is live, and its arguments follow. -/
structure IsCall (before arguments after : Text) : Prop where
  live : LiveWord before (arguments ++ after)
  closed : IsArguments arguments

/-- The bytes of a keyword and its arguments behind some text. -/
def callRange (keyword before arguments : Text) : ByteRange where
  start := Text.byteLength before
  stop := Text.byteLength (before ++ (keyword ++ arguments))

theorem opensNothing_of_blank
    {blanks : Text}
    (blank : ∀ c ∈ blanks, isLineBlank c = true) :
    opensNothing '(' .code blanks = true := by
  induction blanks with
  | nil =>
      rfl
  | cons c rest inductionHypothesis =>
      have headBlank := blank c List.mem_cons_self
      have headLive := isLive_of_isLineBlank headBlank
      have notOpening : (c == '(') = false := by
        rw [beq_eq_false_iff_ne]
        rintro rfl
        exact absurd headBlank (by decide)
      rw [opensNothing, notOpening, LexicalState.step_of_isLive headLive,
        inductionHypothesis fun later member =>
          blank later (List.mem_cons_of_mem c member)]
      simp

theorem run_blanks
    {blanks : Text}
    (blank : ∀ c ∈ blanks, isLineBlank c = true) :
    LexicalState.run .code blanks = .code :=
  LexicalState.run_code_of_live fun c member =>
    isLive_of_isLineBlank (blank c member)

/-- Blanks before a parenthesis do not hide it. -/
theorem opensArguments_append
    {blanks rest : Text}
    (blank : ∀ c ∈ blanks, isLineBlank c = true)
    (opens : rest.head? = some '(') :
    opensArguments (blanks ++ rest) = true := by
  obtain ⟨tail, rfl⟩ := List.head?_eq_some_iff.mp opens
  have stops : isLineBlank '(' = false := by decide
  rw [opensArguments, List.dropWhile_append_of_pos blank,
    List.dropWhile_cons_of_neg (by simp [stops])]
  rfl

/-- Where arguments open, only blanks stand in front of the first live parenthesis. -/
theorem blank_of_opensNothing
    {skipped group : Text}
    (opens : opensArguments (skipped ++ group) = true)
    (nothing : opensNothing '(' .code skipped = true) :
    ∀ c ∈ skipped, isLineBlank c = true := by
  induction skipped with
  | nil =>
      simp
  | cons c rest inductionHypothesis =>
      rw [opensNothing, Bool.and_eq_true] at nothing
      have headBlank : isLineBlank c = true := by
        by_cases blank : isLineBlank c = true
        · exact blank
        · have headOpens : c = '(' := by
            simpa [opensArguments, blank] using opens
          subst headOpens
          exact absurd nothing.1 (by decide)
      have restOpens : opensArguments (rest ++ group) = true := by
        simpa [opensArguments, headBlank] using opens
      rw [LexicalState.step_of_isLive (isLive_of_isLineBlank headBlank)]
        at nothing
      intro d member
      rcases List.mem_cons.mp member with rfl | inRest
      · exact headBlank
      · exact inductionHypothesis restOpens nothing.2 d inRest

/-- Behind a word, the search for a call finds its arguments. -/
theorem callAt?_eq_some_iff
    {keyword before after : Text}
    {call : ByteRange} :
    callAt? (before ++ (keyword ++ after)) keyword
        (Text.byteLength before) = some call ↔
      ∃ arguments rest,
        after = arguments ++ rest ∧
          IsArguments arguments ∧
          call = callRange keyword before arguments := by
  have argumentsAt :
      Text.byteLength before + Text.byteLength keyword =
        Text.byteLength (before ++ keyword) :=
    (Text.byteLength_append before keyword).symm
  have parenthesisSize : ')'.utf8Size = 1 := by decide
  simp only [callAt?, argumentsAt, ← List.append_assoc before keyword after,
    Text.after?_append, Option.bind_eq_bind, Option.bind_some]
  constructor
  · intro found
    split at found
    · rename_i opens
      obtain ⟨close, closeFound, sameCall⟩ :=
        Option.bind_eq_some_iff.mp found
      obtain ⟨leading, skipped, group, rest, shape, leadingLength, nothing,
          -, isGroup, placed⟩ :=
        (matchingDelimiter?_eq_some_iff areDelimiters_parentheses).mp
          closeFound
      obtain ⟨rfl, rfl⟩ :=
        Text.append_inj_of_byteLength shape leadingLength.symm
      refine ⟨skipped ++ group, rest, by rw [List.append_assoc],
        ⟨skipped, group, rfl, blank_of_opensNothing opens nothing, isGroup⟩,
        ?_⟩
      rw [← Option.some.inj sameCall, callRange, ← List.append_assoc before,
        ← placed, parenthesisSize]
    · cases found
  · rintro ⟨arguments, rest, rfl, ⟨blanks, group, rfl, blank, isGroup⟩, rfl⟩
    have opens :
        opensArguments ((blanks ++ group) ++ rest) = true := by
      rw [List.append_assoc]
      exact opensArguments_append blank (by simp [isGroup.opens])
    have groupLength : 0 < Text.byteLength group :=
      Text.byteLength_pos isGroup.nonempty
    have closeFound :
        matchingDelimiter? ((before ++ keyword) ++ ((blanks ++ group) ++ rest))
            (Text.byteLength (before ++ keyword)) '(' ')' =
          some
            (Text.byteLength (before ++ keyword ++ (blanks ++ group)) - 1) := by
      rw [matchingDelimiter?_eq_some_iff areDelimiters_parentheses]
      refine ⟨before ++ keyword, blanks, group, rest,
        by simp only [List.append_assoc], rfl, opensNothing_of_blank blank,
        run_blanks blank, isGroup, ?_⟩
      rw [parenthesisSize]
      simp only [Text.byteLength_append]
      omega
    simp only [opens, ↓reduceIte, closeFound, Option.bind_some, callRange,
      Option.some.injEq, ByteRange.mk.injEq, true_and]
    simp only [Text.byteLength_append]
    omega

/-- A range that the search keeps is the call at one of the offsets. -/
theorem exists_start_of_mem_outermostCalls
    {text keyword : Text}
    {searched : Nat}
    {starts : List Nat}
    {call : ByteRange}
    (member : call ∈ outermostCalls text keyword searched starts) :
    ∃ start ∈ starts, callAt? text keyword start = some call := by
  induction starts generalizing searched with
  | nil =>
      cases member
  | cons start rest inductionHypothesis =>
      rw [outermostCalls] at member
      split at member
      · obtain ⟨other, otherMember, found⟩ := inductionHypothesis member
        exact ⟨other, List.mem_cons_of_mem start otherMember, found⟩
      · split at member
        · rename_i first firstFound
          rcases List.mem_cons.mp member with rfl | inRest
          · exact ⟨start, List.mem_cons_self, firstFound⟩
          · obtain ⟨other, otherMember, found⟩ := inductionHypothesis inRest
            exact ⟨other, List.mem_cons_of_mem start otherMember, found⟩
        · obtain ⟨other, otherMember, found⟩ := inductionHypothesis member
          exact ⟨other, List.mem_cons_of_mem start otherMember, found⟩

/-- A call starts where its word does. -/
theorem start_of_callAt?
    {text keyword : Text}
    {start : Nat}
    {call : ByteRange}
    (found : callAt? text keyword start = some call) :
    call.start = start := by
  simp only [callAt?, Option.bind_eq_bind, Option.bind_eq_some_iff] at found
  obtain ⟨tail, -, found⟩ := found
  split at found
  · obtain ⟨close, -, sameCall⟩ := Option.bind_eq_some_iff.mp found
    rw [← Option.some.inj sameCall]
  · cases found

/-- Calls keep the order of their words. -/
theorem map_start_outermostCalls
    (text keyword : Text)
    (searched : Nat)
    (starts : List Nat) :
    ((outermostCalls text keyword searched starts).map
      ByteRange.start).Sublist starts := by
  induction starts generalizing searched with
  | nil =>
      exact List.Sublist.slnil
  | cons start rest inductionHypothesis =>
      rw [outermostCalls]
      split
      · exact (inductionHypothesis searched).cons start
      · split
        · rename_i call found
          rw [List.map_cons, start_of_callAt? found]
          exact (inductionHypothesis call.stop).cons_cons start
        · exact (inductionHypothesis searched).cons start

/-- The words of the calls ascend. -/
theorem calls_pairwise
    {keyword : Text}
    (word : IsWord keyword)
    (text : Text) :
    ((calls text keyword).map ByteRange.start).Pairwise (· < ·) :=
  (word.keywordStarts_pairwise text).sublist
    (map_start_outermostCalls text keyword 0 (keywordStarts text keyword))

/-- A call is found at the offset of its word. -/
theorem callAt?_of_mem_calls
    {text keyword : Text}
    {call : ByteRange}
    (member : call ∈ calls text keyword) :
    call.start ∈ keywordStarts text keyword ∧
      callAt? text keyword call.start = some call := by
  obtain ⟨start, startMember, found⟩ :=
    exists_start_of_mem_outermostCalls member
  rw [start_of_callAt? found]
  exact ⟨startMember, found⟩

/-- Every range found is the range of a call. -/
theorem exists_isCall_of_mem_calls
    {text keyword : Text}
    (word : IsWord keyword)
    {call : ByteRange}
    (member : call ∈ calls text keyword) :
    ∃ before arguments after,
      text = before ++ (keyword ++ (arguments ++ after)) ∧
        IsCall before arguments after ∧
        call = callRange keyword before arguments := by
  obtain ⟨startMember, found⟩ := callAt?_of_mem_calls member
  obtain ⟨before, tail, rfl, startLength, live⟩ :=
    word.mem_keywordStarts_iff.mp startMember
  rw [← startLength] at found
  obtain ⟨arguments, after, rfl, closed, sameCall⟩ :=
    callAt?_eq_some_iff.mp found
  exact ⟨before, arguments, after, rfl, ⟨live, closed⟩, sameCall⟩

end Provision.Descriptor
