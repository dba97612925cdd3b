import Provision.Proofs.Descriptor.Excision

namespace Provision.Descriptor

/-!
# Where the block goes

The block goes behind the first group of parentheses that follows the last live
link word, whatever stands between the two. A patch therefore does one of three
things, and the one that changes the text is described by the parts around that
group.
-/

/-- The parts of a text around its last link word and the group that follows. -/
structure LinkStep where
  before : Text
  skipped : Text
  group : Text
  after : Text

namespace LinkStep

/-- All that stands before the block. -/
def front (step : LinkStep) : Text :=
  step.before ++ (linkKeyword ++ (step.skipped ++ step.group))

/-- The whole text. -/
def text (step : LinkStep) : Text :=
  step.front ++ step.after

/-- The link word of the parts is the last live one, and the group is the first one behind it. -/
structure IsLast (step : LinkStep) : Prop where
  last :
    findLast? step.text linkKeyword =
      some (Text.byteLength step.before)
  live :
    LiveWord step.before (step.skipped ++ (step.group ++ step.after))
  opensNothing :
    Descriptor.opensNothing '(' .code step.skipped = true
  inCode : LexicalState.run .code step.skipped = .code
  closed : Group '(' ')' step.group

theorem text_eq
    (step : LinkStep) :
    step.text =
      step.before ++
        (linkKeyword ++ (step.skipped ++ (step.group ++ step.after))) := by
  simp only [text, front, List.append_assoc]

end LinkStep

namespace LinkStep.IsLast

variable {step : LinkStep}

theorem run_front
    (isLast : step.IsLast) :
    LexicalState.run .code step.front = .code := by
  simp only [front, LexicalState.run_append, isLast.live.inCode,
    isWord_linkKeyword.run_eq_code, isLast.inCode,
    isLast.closed.run_eq_code areDelimiters_parentheses]

theorem getLast?_front
    (isLast : step.IsLast) :
    step.front.getLast? = some ')' := by
  simp only [front, List.getLast?_append,
    isLast.closed.getLast?_eq areDelimiters_parentheses, Option.some_or]

end LinkStep.IsLast

/-- The last offset of a word belongs to a live occurrence of it. -/
theorem exists_of_findLast?
    {text keyword : Text}
    {start : Nat}
    (word : IsWord keyword)
    (found : findLast? text keyword = some start) :
    ∃ before after,
      text = before ++ (keyword ++ after) ∧
        Text.byteLength before = start ∧
        LiveWord before after :=
  word.mem_keywordStarts_iff.mp (List.mem_of_getLast? found)

/-- Behind the last link word, the insertion point is where the first group ends. -/
theorem insertionPoint?_of_findLast?
    {before after : Text}
    (found :
      findLast? (before ++ (linkKeyword ++ after)) linkKeyword =
        some (Text.byteLength before)) :
    insertionPoint? (before ++ (linkKeyword ++ after)) =
      (matchingDelimiter? (before ++ (linkKeyword ++ after))
        (Text.byteLength (before ++ linkKeyword)) '(' ')').map (· + 1) := by
  rw [insertionPoint?, found, Option.bind_eq_bind, Option.bind_some,
    matchingDelimiter?_append isWord_linkKeyword.passive]
  cases matchingDelimiter? (before ++ (linkKeyword ++ after))
      (Text.byteLength (before ++ linkKeyword)) '(' ')' <;>
    rfl

/-- The insertion points are the ends of the groups behind last link words. -/
theorem insertionPoint?_eq_some_iff
    {base : Text}
    {point : Nat} :
    insertionPoint? base = some point ↔
      ∃ step : LinkStep,
        base = step.text ∧
          step.IsLast ∧
          point = Text.byteLength step.front := by
  have parenthesisSize : ')'.utf8Size = 1 := by decide
  constructor
  · intro found
    obtain ⟨start, lastFound, -⟩ := Option.bind_eq_some_iff.mp found
    obtain ⟨before, tail, rfl, rfl, live⟩ :=
      exists_of_findLast? isWord_linkKeyword lastFound
    rw [insertionPoint?_of_findLast? lastFound] at found
    obtain ⟨close, closeFound, rfl⟩ := Option.map_eq_some_iff.mp found
    obtain ⟨leading, skipped, group, after, shape, leadingLength, nothing,
        inCode, isGroup, placed⟩ :=
      (matchingDelimiter?_eq_some_iff areDelimiters_parentheses).mp closeFound
    rw [← List.append_assoc] at shape
    obtain ⟨rfl, rfl⟩ :=
      Text.append_inj_of_byteLength shape leadingLength.symm
    rw [parenthesisSize] at placed
    refine ⟨⟨before, skipped, group, after⟩, ?_, ⟨?_, live, nothing, inCode,
      isGroup⟩, ?_⟩
    · rw [LinkStep.text_eq]
    · rw [LinkStep.text_eq]
      exact lastFound
    · rw [placed, LinkStep.front, List.append_assoc]
  · rintro ⟨step, rfl, isLast, rfl⟩
    have lastFound := isLast.last
    rw [LinkStep.text_eq] at lastFound ⊢
    rw [insertionPoint?_of_findLast? lastFound, Option.map_eq_some_iff]
    have groupLength := Text.byteLength_pos isLast.closed.nonempty
    refine ⟨Text.byteLength step.front - 1, ?_, ?_⟩
    · rw [matchingDelimiter?_eq_some_iff areDelimiters_parentheses]
      refine ⟨step.before ++ linkKeyword, step.skipped, step.group,
        step.after, by rw [List.append_assoc], rfl, isLast.opensNothing,
        isLast.inCode, isLast.closed, ?_⟩
      rw [parenthesisSize, LinkStep.front, List.append_assoc]
      simp only [Text.byteLength_append]
      omega
    · rw [LinkStep.front]
      simp only [Text.byteLength_append]
      omega

/-- The place for the block is the end of the front. -/
theorem LinkStep.IsLast.insertionPoint?_eq
    {step : LinkStep}
    (isLast : step.IsLast) :
    insertionPoint? step.text = some (Text.byteLength step.front) :=
  insertionPoint?_eq_some_iff.mpr ⟨step, rfl, isLast, rfl⟩

/-- The block at the end of the front stands between the front and the rest. -/
theorem insertBlock?_append
    (front after : Text) :
    insertBlock? (front ++ after) (Text.byteLength front) =
      some (front ++ (deploymentBlock ++ after)) := by
  simp only [insertBlock?, Text.splitAtByte?_append, Option.bind_eq_bind,
    Option.bind_some, List.append_assoc]

theorem patch_of_isPatched
    {text : Text}
    (carries : isPatched text = true) :
    patch text = ⟨text, .alreadyPatched, 0⟩ := by
  rw [patch, if_pos carries]

/-- What a patch does to a text without a marker. -/
theorem patch_cases
    {text : Text}
    (fresh : isPatched text = false) :
    (insertionPoint? (cleaned text) = none ∧
        patch text =
          ⟨text, .anchorMissing, (formerDeployments text).length⟩) ∨
      ∃ step : LinkStep,
        cleaned text = step.text ∧
          step.IsLast ∧
          patch text =
            ⟨step.front ++ (deploymentBlock ++ step.after), .patched,
              (formerDeployments text).length⟩ := by
  have notCarries : ¬ isPatched text = true := by simp [fresh]
  cases pointFound : insertionPoint? (cleaned text) with
  | none =>
      refine Or.inl ⟨rfl, ?_⟩
      simp only [patch, if_neg notCarries, pointFound, Option.bind_none]
  | some point =>
      obtain ⟨step, shape, isLast, rfl⟩ :=
        insertionPoint?_eq_some_iff.mp pointFound
      refine Or.inr ⟨step, shape, isLast, ?_⟩
      have inserted :
          insertBlock? (cleaned text) (Text.byteLength step.front) =
            some (step.front ++ (deploymentBlock ++ step.after)) := by
        rw [shape, LinkStep.text]
        exact insertBlock?_append step.front step.after
      simp only [patch, if_neg notCarries, pointFound, Option.bind_some,
        inserted]

/-- A patched text is the cleaned one with the block behind its last link step. -/
theorem exists_linkStep_of_patched
    {text : Text}
    (patched : (patch text).outcome = .patched) :
    isPatched text = false ∧
      ∃ step : LinkStep,
        cleaned text = step.text ∧
          step.IsLast ∧
          patch text =
            ⟨step.front ++ (deploymentBlock ++ step.after), .patched,
              (formerDeployments text).length⟩ := by
  cases fresh : isPatched text with
  | true =>
      rw [patch_of_isPatched fresh] at patched
      cases patched
  | false =>
      rcases patch_cases fresh with ⟨-, missing⟩ | found
      · rw [missing] at patched
        cases patched
      · exact ⟨rfl, found⟩

/-- A patched text had a place for the block. -/
theorem insertionPoint?_ne_none_of_patched
    {text : Text}
    (patched : (patch text).outcome = .patched) :
    insertionPoint? (cleaned text) ≠ none := by
  obtain ⟨-, step, shape, isLast, -⟩ := exists_linkStep_of_patched patched
  rw [shape, isLast.insertionPoint?_eq]
  exact Option.some_ne_none _

end Provision.Descriptor
