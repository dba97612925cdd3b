import Provision.Descriptor.Anchor

namespace Provision.Descriptor

/-!
# Runs through lexical states

A run over a joined text is a run over its first part and then over its second.
Two facts about single lines carry the later modules: text without quotes and
number signs stays in code, and once a line has left the code behind a number
sign, only a quote or the end of the line leads back.
-/

namespace LexicalState

@[simp] theorem run_nil
    (state : LexicalState) :
    run state [] = state :=
  rfl

@[simp] theorem run_cons
    (state : LexicalState)
    (c : Char)
    (rest : Text) :
    run state (c :: rest) = run (state.step c) rest :=
  rfl

@[simp] theorem run_append
    (state : LexicalState)
    (first second : Text) :
    run state (first ++ second) = run (run state first) second :=
  List.foldl_append

/-- A live character stands in code and is neither a quote nor a number sign. -/
theorem isLive_iff
    {state : LexicalState}
    {c : Char} :
    state.isLive c = true ↔
      state = .code ∧ c ≠ '"' ∧ c ≠ '#' := by
  simp [isLive, and_assoc]

/-- A live character leaves the reader in code. -/
theorem step_of_isLive
    {state : LexicalState}
    {c : Char}
    (live : state.isLive c = true) :
    state.step c = .code := by
  obtain ⟨rfl, notQuote, notSign⟩ := isLive_iff.mp live
  simp [step, notQuote, notSign]

/-- Text in code that opens neither a string nor a comment stays in code. -/
theorem run_code_of_live
    {text : Text}
    (live : ∀ c ∈ text, isLive .code c = true) :
    run .code text = .code := by
  induction text with
  | nil =>
      rfl
  | cons c rest inductionHypothesis =>
      rw [run_cons, step_of_isLive (live c List.mem_cons_self)]
      exact inductionHypothesis fun later member =>
        live later (List.mem_cons_of_mem c member)

theorem step_sign_ne_code
    (state : LexicalState) :
    state.step '#' ≠ .code := by
  cases state <;> decide

/-- Outside code, a single step leads back only over a quote or a line feed. -/
private theorem step_ne_code
    {state : LexicalState}
    {c : Char}
    (outside : state ≠ .code)
    (notQuote : c ≠ '"')
    (notFeed : c ≠ '\n') :
    state.step c ≠ .code := by
  cases state with
  | code =>
      exact (outside rfl).elim
  | string =>
      simp only [step, notQuote, ↓reduceIte]
      split <;> simp
  | escaped =>
      simp [step]
  | comment =>
      simp [step, notFeed]

/-- Outside code, the way back leads over a quote or a line feed. -/
theorem run_ne_code
    {state : LexicalState}
    {text : Text}
    (outside : state ≠ .code)
    (noQuote : '"' ∉ text)
    (noFeed : '\n' ∉ text) :
    run state text ≠ .code := by
  induction text generalizing state with
  | nil =>
      exact outside
  | cons c rest inductionHypothesis =>
      rw [List.mem_cons, not_or] at noQuote noFeed
      rw [run_cons]
      exact inductionHypothesis
        (step_ne_code outside (Ne.symm noQuote.1) (Ne.symm noFeed.1))
        noQuote.2 noFeed.2

end LexicalState

/-- Identifier characters open neither a string nor a comment. -/
theorem isLive_of_isIdentifierChar
    {c : Char}
    (identifier : isIdentifierChar c = true) :
    LexicalState.isLive .code c = true := by
  rw [LexicalState.isLive_iff]
  refine ⟨rfl, ?_, ?_⟩
  · rintro rfl
    exact absurd identifier (by decide)
  · rintro rfl
    exact absurd identifier (by decide)

theorem isLive_of_isLineBlank
    {c : Char}
    (blank : isLineBlank c = true) :
    LexicalState.isLive .code c = true := by
  simp only [isLineBlank, Bool.or_eq_true, beq_iff_eq] at blank
  rcases blank with rfl | rfl <;> decide

end Provision.Descriptor
