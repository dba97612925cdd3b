import Mathlib
import Provision.Proofs.Text.Occurrences
import Provision.Unicode.Lowercase

namespace Provision.Unicode

/-!
# Mentions in any letter case

The full case mapping can lengthen a text and looks at the neighbours of a
sigma, yet a text in lower case mentions a word of plain letters exactly where
the text itself mentions it in some mixture of ASCII letter cases. Plain are
the small ASCII letters that no other character is mapped to: the dotted
capital I is mapped to two characters of which `i` is one, and the Kelvin sign
is mapped to `k`.
-/

/-- Small ASCII letters that only their two cases have as lower-case form. -/
def isPlainLetter (c : Char) : Bool :=
  0x61 ≤ c.toNat && c.toNat ≤ 0x7A && c != 'i' && c != 'k'

/-- No character outside ASCII is a plain letter. -/
private theorem isPlainLetter_of_not_ascii
    {c : Char}
    (beyond : 0x80 ≤ c.toNat) :
    isPlainLetter c = false := by
  have notSmall : ¬ c.toNat ≤ 0x7A := by omega
  simp [isPlainLetter, notSmall]

/-- Outside ASCII, no character has an ASCII letter case. -/
private theorem toLower_of_not_ascii
    {c : Char}
    (beyond : 0x80 ≤ c.toNat) :
    c.toLower = c := by
  apply Char.toLower_eq_of_not_isUpper
  intro capital
  simp only [Char.isUpper, decide_eq_true_eq] at capital
  have inAscii : c.toNat ≤ 0x5A := UInt32.le_iff_toNat_le.mp capital.2
  omega

/-- Runs beyond ASCII stay beyond it, the Kelvin sign apart. -/
private theorem lowercaseRuns_beyond_ascii :
    ∀ run ∈ lowercaseRuns,
      run.last < 0x80 ∨
        (0x80 : Int) ≤ run.first + run.distance ∨
        (run.first = 0x212A ∧ run.last = 0x212A ∧
          run.distance = -8383) := by
  decide +kernel

/-- A run maps no character beyond ASCII to a plain letter. -/
private theorem isPlainLetter_of_covers
    {run : CaseRun}
    {c : Char}
    (member : run ∈ lowercaseRuns)
    (covers : run.covers c.toNat = true)
    (beyond : 0x80 ≤ c.toNat) :
    isPlainLetter (Char.ofNat (Int.toNat (c.toNat + run.distance))) =
      false := by
  simp only [CaseRun.covers, Bool.and_eq_true, decide_eq_true_eq] at covers
  obtain ⟨⟨fromFirst, toLast⟩, -⟩ := covers
  rcases lowercaseRuns_beyond_ascii run member with
      inAscii | stays | ⟨first, last, distance⟩
  · omega
  · have image : 0x80 ≤ Int.toNat (c.toNat + run.distance) := by omega
    rcases Nat.eq_zero_or_pos
        (Char.ofNat (Int.toNat (c.toNat + run.distance))).toNat with
        isNul | positive
    · simp [isPlainLetter, isNul]
    · apply isPlainLetter_of_not_ascii
      rw [Char.toNat_ofNat] at positive ⊢
      split at positive
      · rename_i valid
        simpa [valid] using image
      · omega
  · have point : c.toNat = 0x212A := by omega
    rw [point, distance]
    decide

/-- Of a single character, the lower-case form is the ASCII one or holds no plain letter. -/
private theorem lowercaseChar_plain
    (c : Char) :
    lowercaseChar c = [c.toLower] ∨
      (∀ d ∈ lowercaseChar c, isPlainLetter d = false) ∧
        isPlainLetter c.toLower = false := by
  by_cases ascii : c.toNat < 0x80
  · exact Or.inl (by simp [lowercaseChar, ascii])
  · have beyond : 0x80 ≤ c.toNat := by omega
    have same := toLower_of_not_ascii beyond
    refine Or.inr ⟨?_, by rw [same]; exact isPlainLetter_of_not_ascii beyond⟩
    intro d member
    simp only [lowercaseChar, ascii, ↓reduceIte] at member
    split at member
    · rcases List.mem_cons.mp member with rfl | inRest
      · decide
      · obtain rfl := List.mem_singleton.mp inRest
        decide
    · split at member
      · rename_i run found
        obtain rfl := List.mem_singleton.mp member
        exact isPlainLetter_of_covers (List.mem_of_find?_eq_some found)
          (List.find?_some found :) beyond
      · obtain rfl := List.mem_singleton.mp member
        exact isPlainLetter_of_not_ascii beyond

/-- Every character has a lower-case form. -/
private theorem lowercaseChar_ne_nil
    (c : Char) :
    lowercaseChar c ≠ [] := by
  rw [lowercaseChar]
  split
  · simp
  · split
    · simp
    · split <;> simp

/--
The lower-case form of a character in its text is the ASCII one, or neither of
the two holds a plain letter.
-/
private theorem exists_form
    (before : Text)
    (c : Char)
    (rest : Text) :
    ∃ form,
      lowercaseFrom before (c :: rest) =
          form ++ lowercaseFrom (c :: before) rest ∧
        (form = [c.toLower] ∨
          (∀ d ∈ form, isPlainLetter d = false) ∧
            form ≠ [] ∧
            isPlainLetter c.toLower = false) := by
  refine ⟨_, rfl, ?_⟩
  split
  · rename_i isSigma
    subst isSigma
    refine Or.inr ⟨?_, ?_, by decide⟩
    · intro d member
      split at member
      · obtain rfl := List.mem_singleton.mp member
        decide
      · obtain rfl := List.mem_singleton.mp member
        decide
    · split <;> simp
  · rcases lowercaseChar_plain c with ascii | ⟨plainless, capital⟩
    · exact Or.inl ascii
    · exact Or.inr ⟨plainless, lowercaseChar_ne_nil c, capital⟩

section Mentions

variable {needle : Text}

/-- A word of plain letters has no other characters. -/
private theorem notMem_of_plainless
    {c : Char}
    (plain : ∀ d ∈ needle, isPlainLetter d = true)
    (plainless : isPlainLetter c = false) :
    c ∉ needle := by
  intro member
  rw [plain c member] at plainless
  cases plainless

/-- Lower case starts with a plain word where the ASCII form does. -/
private theorem prefix_lowercaseFrom_iff
    (plain : ∀ d ∈ needle, isPlainLetter d = true)
    (before text : Text) :
    needle <+: lowercaseFrom before text ↔
      needle <+: text.map Char.toLower := by
  induction text generalizing needle before with
  | nil =>
      rfl
  | cons c rest inductionHypothesis =>
      obtain ⟨form, shape, ascii | ⟨plainless, formNonempty, capital⟩⟩ :=
        exists_form before c rest
      · rw [shape, ascii, List.map_cons, List.singleton_append]
        cases needle with
        | nil =>
            simp
        | cons first more =>
            rw [List.cons_prefix_cons, List.cons_prefix_cons,
              inductionHypothesis fun d member =>
                plain d (List.mem_cons_of_mem first member)]
      · by_cases nonempty : needle = []
        · simp [nonempty]
        · cases form with
          | nil =>
              exact (formNonempty rfl).elim
          | cons d more =>
              have notInForm :=
                Text.not_prefix_cons_of_notMem nonempty
                  (notMem_of_plainless plain
                    (plainless d List.mem_cons_self))
                  (more ++ lowercaseFrom (c :: before) rest)
              have notInText :=
                Text.not_prefix_cons_of_notMem nonempty
                  (notMem_of_plainless plain capital)
                  (rest.map Char.toLower)
              rw [shape, List.cons_append, List.map_cons]
              exact iff_of_false notInForm notInText

/-- Lower case mentions a plain word where the ASCII form does. -/
private theorem infix_lowercaseFrom_iff
    (plain : ∀ d ∈ needle, isPlainLetter d = true)
    (before text : Text) :
    needle <:+: lowercaseFrom before text ↔
      needle <:+: text.map Char.toLower := by
  by_cases nonempty : needle = []
  · simp [nonempty]
  · induction text generalizing before with
    | nil =>
        rfl
    | cons c rest inductionHypothesis =>
        obtain ⟨form, shape, ascii | ⟨plainless, -, capital⟩⟩ :=
          exists_form before c rest
        · have here := prefix_lowercaseFrom_iff plain before (c :: rest)
          rw [shape, ascii, List.singleton_append, List.map_cons] at here
          rw [shape, ascii, List.singleton_append, List.map_cons,
            List.infix_cons_iff, List.infix_cons_iff, here,
            inductionHypothesis]
        · have formForeign : ∀ d ∈ form, d ∉ needle :=
            fun d member => notMem_of_plainless plain (plainless d member)
          have capitalForeign : ∀ d ∈ [c.toLower], d ∉ needle := by
            simpa using notMem_of_plainless plain capital
          rw [shape, Text.infix_append_iff_of_foreign nonempty formForeign,
            inductionHypothesis, List.map_cons, ← List.singleton_append,
            Text.infix_append_iff_of_foreign nonempty capitalForeign]

/-- A text in lower case mentions a plain word exactly where the text does in some letter case. -/
theorem infix_lowercase_iff
    (plain : ∀ d ∈ needle, isPlainLetter d = true)
    (text : Text) :
    needle <:+: lowercase text ↔
      needle <:+: text.map Char.toLower :=
  infix_lowercaseFrom_iff plain [] text

end Mentions

end Provision.Unicode
