import Provision.Proofs.Descriptor.Idempotence

namespace Provision.Descriptor

/-!
# The block and the last call

The block is meant to follow the last call of the link keyword. What a patch
looks for is the last live link word, call or not, and the first group behind
it. The two agree where that word starts one of the calls. Elsewhere the block
comes behind a group that belongs to something else, or finds no place.
-/

/-- Every live link word in front of a parenthesis has a group of arguments that ends. -/
def EveryLinkStepCloses (text : Text) : Prop :=
  ∀ before after,
    text = before ++ (linkKeyword ++ after) →
    LiveWord before after →
    opensArguments after = true →
    ∃ arguments rest, after = arguments ++ rest ∧ IsArguments arguments

/-- The block goes right behind the last call, and has its place whenever all calls end. -/
structure FollowsLastCall (text : Text) : Prop where
  behindLast :
    (patch text).outcome = .patched →
      ∃ call,
        (calls (cleaned text) linkKeyword).getLast? = some call ∧
          insertBlock? (cleaned text) call.stop =
            some (patch text).text
  patchedIfClosed :
    calls (cleaned text) linkKeyword ≠ [] →
      EveryLinkStepCloses (cleaned text) →
        (patch text).outcome = .patched

/-- The last offset is the largest. -/
theorem IsWord.le_of_findLast?
    {keyword text : Text}
    {start place : Nat}
    (word : IsWord keyword)
    (found : findLast? text keyword = some start)
    (member : place ∈ keywordStarts text keyword) :
    place ≤ start := by
  obtain ⟨earlier, shape⟩ := List.getLast?_eq_some_iff.mp found
  have ascending := word.keywordStarts_pairwise text
  rw [shape, List.pairwise_append] at ascending
  rw [shape, List.mem_append, List.mem_singleton] at member
  rcases member with inEarlier | rfl
  · exact Nat.le_of_lt
      (ascending.2.2 place inEarlier start List.mem_cons_self)
  · exact Nat.le_refl place

/-- A call of the last word is the last call. -/
theorem IsWord.getLast?_calls
    {keyword text : Text}
    {start : Nat}
    {call : ByteRange}
    (word : IsWord keyword)
    (found : findLast? text keyword = some start)
    (member : call ∈ calls text keyword)
    (starts : call.start = start) :
    (calls text keyword).getLast? = some call := by
  have nonempty := List.ne_nil_of_mem member
  obtain ⟨last, lastFound⟩ :=
    Option.ne_none_iff_exists'.mp
      (mt List.getLast?_eq_none_iff.mp nonempty)
  obtain ⟨earlier, shape⟩ := List.getLast?_eq_some_iff.mp lastFound
  have lastMember := List.mem_of_getLast? lastFound
  have bounded :=
    word.le_of_findLast? found (callAt?_of_mem_calls lastMember).1
  have ascending := calls_pairwise word text
  rw [shape, List.map_append, List.pairwise_append] at ascending
  rw [shape, List.mem_append, List.mem_singleton] at member
  rcases member with inEarlier | rfl
  · have before :=
      ascending.2.2 call.start (List.mem_map_of_mem inEarlier)
        last.start (by simp)
    omega
  · exact lastFound

/-- Where the last word starts a call, the insertion point is the end of the call. -/
theorem insertionPoint?_of_call
    {base : Text}
    {call : ByteRange}
    (found : findLast? base linkKeyword = some call.start)
    (member : call ∈ calls base linkKeyword) :
    insertionPoint? base = some call.stop := by
  obtain ⟨before, arguments, after, rfl, isCall, rfl⟩ :=
    exists_isCall_of_mem_calls isWord_linkKeyword member
  obtain ⟨blanks, group, rfl, blank, isGroup⟩ := isCall.closed
  have live := isCall.live
  rw [List.append_assoc] at live found ⊢
  rw [insertionPoint?_eq_some_iff]
  refine ⟨⟨before, blanks, group, after⟩, ?_, ⟨?_, live,
    opensNothing_of_blank blank, run_blanks blank, isGroup⟩, rfl⟩
  · rw [LinkStep.text_eq]
  · rw [LinkStep.text_eq]
    exact found

/-- A word stands nowhere in itself and blanks behind it but at the start. -/
private theorem IsWord.eq_nil_of_append_blanks
    {keyword leading trailing blanks : Text}
    (word : IsWord keyword)
    (blank : ∀ c ∈ blanks, isLineBlank c = true)
    (shape : leading ++ (keyword ++ trailing) = keyword ++ blanks) :
    leading = [] := by
  rw [← List.append_assoc] at shape
  rcases List.append_eq_append_iff.mp shape with
      ⟨between, keywordShape, -⟩ | ⟨between, reach, blanksShape⟩
  · have shorter := congrArg List.length keywordShape
    simp only [List.length_append] at shorter
    exact List.eq_nil_of_length_eq_zero (by omega)
  · by_cases betweenEmpty : between = []
    · have sameLength := congrArg List.length reach
      rw [betweenEmpty] at sameLength
      simp only [List.length_append, List.length_nil] at sameLength
      exact List.eq_nil_of_length_eq_zero (by omega)
    · -- The word would end in one of the blanks.
      have lastChar := congrArg List.getLast? reach
      rw [List.getLast?_append, List.getLast?_append,
        List.getLast?_eq_some_getLast word.nonempty,
        List.getLast?_eq_some_getLast betweenEmpty,
        Option.some_or, Option.some_or, Option.some.injEq] at lastChar
      have identifier := word.identifier _ (List.getLast_mem word.nonempty)
      have isBlank :=
        blank (between.getLast betweenEmpty)
          (by
            rw [blanksShape]
            exact List.mem_append_left trailing
              (List.getLast_mem betweenEmpty))
      rw [lastChar] at identifier
      simp only [isLineBlank, Bool.or_eq_true, beq_iff_eq] at isBlank
      rcases isBlank with isSpace | isTab
      · rw [isSpace] at identifier
        exact absurd identifier (by decide)
      · rw [isTab] at identifier
        exact absurd identifier (by decide)

/-- A group that starts behind the start of a call does not end where the call ends. -/
private theorem not_group_of_later_word
    {before blanks outer between skipped inner : Text}
    (blank : ∀ c ∈ blanks, isLineBlank c = true)
    (beforeCode : LexicalState.run .code before = .code)
    (outerGroup : Group '(' ')' outer)
    (nonempty : between ≠ [])
    (innerCode :
      LexicalState.run .code
          ((before ++ between) ++ (linkKeyword ++ skipped)) =
        .code)
    (sameEnd :
      linkKeyword ++ (blanks ++ outer) =
        between ++ (linkKeyword ++ (skipped ++ inner))) :
    ¬ Group '(' ')' inner := by
  have split :
      (linkKeyword ++ blanks) ++ outer =
        (between ++ (linkKeyword ++ skipped)) ++ inner := by
    simpa only [List.append_assoc] using sameEnd
  rcases List.append_eq_append_iff.mp split with
      ⟨leading, innerFront, outerShape⟩ | ⟨rest, outerFront, -⟩
  · -- The inner group opens inside the outer one.
    by_cases leadingEmpty : leading = []
    · rw [leadingEmpty, List.append_nil] at innerFront
      exact (nonempty (isWord_linkKeyword.eq_nil_of_append_blanks blank
        innerFront)).elim
    · have leadingCode : LexicalState.run .code leading = .code := by
        rw [List.append_assoc, innerFront] at innerCode
        simpa only [LexicalState.run_append, beforeCode,
          isWord_linkKeyword.run_eq_code, run_blanks blank] using innerCode
      rw [outerShape] at outerGroup
      exact outerGroup.not_group_of_append areDelimiters_parentheses
        leadingEmpty leadingCode
  · -- The later word would have to stand in the earlier one and its blanks.
    simp only [List.append_assoc] at outerFront
    exact (nonempty (isWord_linkKeyword.eq_nil_of_append_blanks blank
      outerFront.symm)).elim

/-- Behind the last word no group ends where a call of another word does. -/
theorem LinkStep.IsLast.ne_stop
    {step : LinkStep}
    (isLast : step.IsLast)
    {call : ByteRange}
    (member : call ∈ calls step.text linkKeyword)
    (otherStart : call.start ≠ Text.byteLength step.before) :
    call.stop ≠ Text.byteLength step.front := by
  intro sameStop
  have notLater :=
    isWord_linkKeyword.le_of_findLast? isLast.last
      (callAt?_of_mem_calls member).1
  obtain ⟨before, arguments, after, shape, isCall, rfl⟩ :=
    exists_isCall_of_mem_calls isWord_linkKeyword member
  obtain ⟨blanks, outer, rfl, blank, outerGroup⟩ := isCall.closed
  simp only [callRange] at sameStop notLater otherStart
  have callFirst :
      step.front ++ step.after =
        (before ++ (linkKeyword ++ (blanks ++ outer))) ++ after := by
    rw [← LinkStep.text, shape]
    simp only [List.append_assoc]
  obtain ⟨sameFront, -⟩ :=
    Text.append_inj_of_byteLength callFirst sameStop.symm
  rw [LinkStep.front] at sameFront
  obtain ⟨between, beforeShape, sameEnd⟩ :=
    Text.exists_between_of_byteLength_le sameFront.symm notLater
  have nonempty : between ≠ [] := by
    intro betweenEmpty
    rw [betweenEmpty, List.append_nil] at beforeShape
    exact otherStart (by rw [beforeShape])
  have innerCode :
      LexicalState.run .code
          ((before ++ between) ++ (linkKeyword ++ step.skipped)) =
        .code := by
    rw [← beforeShape, LexicalState.run_append, isLast.live.inCode,
      LexicalState.run_append, isWord_linkKeyword.run_eq_code,
      isLast.inCode]
  exact not_group_of_later_word blank isCall.live.inCode outerGroup
    nonempty innerCode sameEnd isLast.closed

/-- The block stands at one place of a patched text only. -/
theorem eq_of_append_deploymentBlock
    {before after otherBefore otherAfter : Text}
    (once :
      Text.occurrences marker (before ++ (deploymentBlock ++ after)) = 1)
    (same :
      before ++ (deploymentBlock ++ after) =
        otherBefore ++ (deploymentBlock ++ otherAfter)) :
    before = otherBefore := by
  obtain ⟨commands, blockShape⟩ := exists_deploymentBlock_eq
  have opened (front behind : Text) :
      front ++ (deploymentBlock ++ behind) =
        (front ++ ['\n', '\n']) ++ (marker ++ (commands ++ behind)) := by
    rw [blockShape]
    simp only [List.append_assoc]
  rw [opened, opened] at same
  rw [opened] at once
  exact List.append_cancel_right
    (Text.eq_of_occurrences_eq_one marker_ne_nil once same)

/-- With a last word, only a missing group behind it leaves the block without a place. -/
theorem insertionPoint?_eq_none_iff
    {base : Text}
    {start : Nat}
    (found : findLast? base linkKeyword = some start) :
    insertionPoint? base = none ↔
      matchingDelimiter? base start '(' ')' = none := by
  rw [insertionPoint?, found, Option.bind_eq_bind, Option.bind_some]
  cases matchingDelimiter? base start '(' ')' <;> simp

/-- A call comes from a word, so there is a last one. -/
theorem exists_findLast?_of_calls
    {base : Text}
    (present : calls base linkKeyword ≠ []) :
    ∃ start, findLast? base linkKeyword = some start := by
  obtain ⟨call, member⟩ := List.exists_mem_of_ne_nil _ present
  have wordMember := (callAt?_of_mem_calls member).1
  exact Option.ne_none_iff_exists'.mp
    (mt List.getLast?_eq_none_iff.mp (List.ne_nil_of_mem wordMember))

/-- Where the last word starts a call, the block follows the last call. -/
theorem followsLastCall_of_call
    {text : Text}
    {call : ByteRange}
    (fresh : isPatched text = false)
    (found : findLast? (cleaned text) linkKeyword = some call.start)
    (member : call ∈ calls (cleaned text) linkKeyword) :
    FollowsLastCall text := by
  have point := insertionPoint?_of_call found member
  rcases patch_cases fresh with
      ⟨missing, -⟩ | ⟨step, shape, isLast, result⟩
  · rw [missing] at point
    cases point
  · rw [shape, isLast.insertionPoint?_eq, Option.some.injEq] at point
    refine ⟨fun _ => ⟨call, ?_, ?_⟩, fun _ _ => by rw [result]⟩
    · exact isWord_linkKeyword.getLast?_calls found member rfl
    · rw [result, shape, LinkStep.text, ← point]
      exact insertBlock?_append step.front step.after

/-- Where it starts none but a group follows, the block goes elsewhere. -/
theorem not_followsLastCall_of_group
    {text : Text}
    {start close : Nat}
    (fresh : isPatched text = false)
    (found : findLast? (cleaned text) linkKeyword = some start)
    (noCall :
      ∀ call ∈ calls (cleaned text) linkKeyword, call.start ≠ start)
    (group :
      matchingDelimiter? (cleaned text) start '(' ')' = some close) :
    ¬ FollowsLastCall text := by
  intro follows
  rcases patch_cases fresh with
      ⟨missing, -⟩ | ⟨step, shape, isLast, result⟩
  · rw [insertionPoint?_eq_none_iff found, group] at missing
    cases missing
  · have patched : (patch text).outcome = .patched := by rw [result]
    have once := occurrences_marker_of_patched patched
    obtain ⟨call, last, inserted⟩ := follows.behindLast patched
    obtain ⟨⟨before, after⟩, cut, joined⟩ :=
      Option.bind_eq_some_iff.mp inserted
    obtain ⟨-, stops⟩ := Text.splitAtByte?_eq_some_iff.mp cut
    have sameText :
        step.front ++ (deploymentBlock ++ step.after) =
          before ++ (deploymentBlock ++ after) := by
      rw [result] at joined
      simpa only [List.append_assoc] using (Option.some.inj joined).symm
    rw [result] at once
    have sameFront := eq_of_append_deploymentBlock once sameText
    have member := List.mem_of_getLast? last
    have lastStart := isLast.last
    rw [← shape, found, Option.some.injEq] at lastStart
    have otherStart := noCall call member
    rw [lastStart] at otherStart
    rw [shape] at member
    exact isLast.ne_stop member otherStart (by rw [sameFront, stops])

/-- Without a place for the block, all depends on whether a call promises one. -/
theorem followsLastCall_iff_of_no_place
    {text : Text}
    (noPlace : insertionPoint? (cleaned text) = none) :
    FollowsLastCall text ↔
      calls (cleaned text) linkKeyword = [] ∨
        ¬ EveryLinkStepCloses (cleaned text) := by
  have notPatched : (patch text).outcome ≠ .patched :=
    fun patched => insertionPoint?_ne_none_of_patched patched noPlace
  constructor
  · intro follows
    by_cases noCalls : calls (cleaned text) linkKeyword = []
    · exact Or.inl noCalls
    · exact Or.inr fun closed =>
        notPatched (follows.patchedIfClosed noCalls closed)
  · intro noPromise
    refine ⟨fun patched => (notPatched patched).elim, ?_⟩
    intro present closed
    rcases noPromise with noCalls | notClosed
    · exact (present noCalls).elim
    · exact (notClosed closed).elim

/--
The block follows the last call exactly when the last live link word, if there
is one, starts a call, or when no group that ends follows that word and no call
promises a place: there is none, or the arguments of some link word do not end.
-/
theorem followsLastCall_iff
    {text : Text}
    (fresh : isPatched text = false) :
    FollowsLastCall text ↔
      ∀ start,
        findLast? (cleaned text) linkKeyword = some start →
        (∃ call ∈ calls (cleaned text) linkKeyword, call.start = start) ∨
          (matchingDelimiter? (cleaned text) start '(' ')' = none ∧
            (calls (cleaned text) linkKeyword = [] ∨
              ¬ EveryLinkStepCloses (cleaned text))) := by
  constructor
  · intro follows start found
    by_cases starts :
        ∃ call ∈ calls (cleaned text) linkKeyword, call.start = start
    · exact Or.inl starts
    · have noCall :
          ∀ call ∈ calls (cleaned text) linkKeyword, call.start ≠ start :=
        fun call member same => starts ⟨call, member, same⟩
      cases group : matchingDelimiter? (cleaned text) start '(' ')' with
      | none =>
          have noPlace := (insertionPoint?_eq_none_iff found).mpr group
          exact Or.inr
            ⟨rfl, (followsLastCall_iff_of_no_place noPlace).mp follows⟩
      | some close =>
          exact (not_followsLastCall_of_group fresh found noCall group
            follows).elim
  · intro condition
    cases found : findLast? (cleaned text) linkKeyword with
    | none =>
        have noPlace : insertionPoint? (cleaned text) = none := by
          rw [insertionPoint?, found]
          rfl
        have noCalls : calls (cleaned text) linkKeyword = [] := by
          by_cases absent : calls (cleaned text) linkKeyword = []
          · exact absent
          · obtain ⟨start, startFound⟩ := exists_findLast?_of_calls absent
            rw [found] at startFound
            cases startFound
        exact (followsLastCall_iff_of_no_place noPlace).mpr
          (Or.inl noCalls)
    | some start =>
        rcases condition start found with
            ⟨call, member, rfl⟩ | ⟨noGroup, noPromise⟩
        · exact followsLastCall_of_call fresh found member
        · have noPlace := (insertionPoint?_eq_none_iff found).mpr noGroup
          exact (followsLastCall_iff_of_no_place noPlace).mpr noPromise

/-- Two link steps, each a call of its own. -/
def twoLinkSteps : Text :=
  "target_link_libraries(a b)\ntarget_link_libraries (c \"(\") # (\n".toList

/-- Behind two plain calls the block goes where it should. -/
theorem twoLinkSteps_followsLastCall :
    isPatched twoLinkSteps = false ∧ FollowsLastCall twoLinkSteps := by
  have fresh : isPatched twoLinkSteps = false := by
    decide +kernel
  have last :
      findLast? (cleaned twoLinkSteps) linkKeyword = some 27 := by
    decide +kernel
  have inCalls :
      ⟨27, 56⟩ ∈ calls (cleaned twoLinkSteps) linkKeyword := by
    decide +kernel
  refine ⟨fresh, (followsLastCall_iff fresh).mpr ?_⟩
  intro start found
  rw [last] at found
  exact Or.inl ⟨_, inCalls, Option.some.inj found⟩

/-- A link step, and behind it the link word as an argument of another command. -/
def strayLinkWord : Text :=
  "target_link_libraries(app PRIVATE fmt)\nmessage(STATUS target_link_libraries)\ninstall(TARGETS app)\n".toList

/-- There the block ends up behind a third command. -/
theorem strayLinkWord_not_followsLastCall :
    isPatched strayLinkWord = false ∧
      (calls (cleaned strayLinkWord) linkKeyword).getLast? =
        some ⟨0, 38⟩ ∧
      insertionPoint? (cleaned strayLinkWord) = some 97 ∧
      ¬ FollowsLastCall strayLinkWord := by
  have last :
      (calls (cleaned strayLinkWord) linkKeyword).getLast? =
        some ⟨0, 38⟩ := by
    decide +kernel
  have patched : (patch strayLinkWord).outcome = .patched := by
    decide +kernel
  have elsewhere :
      insertBlock? (cleaned strayLinkWord) 38 ≠
        some (patch strayLinkWord).text := by
    decide +kernel
  refine ⟨by decide +kernel, last, by decide +kernel, ?_⟩
  intro follows
  obtain ⟨call, callLast, inserted⟩ := follows.behindLast patched
  rw [last, Option.some.injEq] at callLast
  subst callLast
  exact elsewhere inserted

end Provision.Descriptor
