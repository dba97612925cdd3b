import Provision.Unicode.Lowercase

namespace Provision.Unicode

/-!
# Letter case and the final sigma

Lower case gives a capital sigma one of two forms, by its neighbours. Taken
character by character, with the two forms for one, a text has a caseless form
that does not depend on neighbours. What occurs in lower case occurs caselessly;
the converse holds of a text without sigmas, since a word that ends where the
sigma stands takes another form there than inside a longer word.
-/

/-- The sigmas, which lower case tells apart by their neighbours. -/
def isSigma (c : Char) : Bool :=
  c == 'Σ' || c == 'σ' || c == 'ς'

/-- The two small sigmas as one. -/
def unifySigma (c : Char) : Char :=
  if c = 'ς' then 'σ' else c

/-- A text without the case of its letters, character by character. -/
def caseless (text : Text) : Text :=
  text.flatMap fun c => (lowercaseChar c).map unifySigma

/-- Neighbours decide on nothing but the form of a sigma. -/
private theorem map_unifySigma_lowercaseFrom
    (before text : Text) :
    (lowercaseFrom before text).map unifySigma = caseless text := by
  induction text generalizing before with
  | nil =>
      rfl
  | cons c rest inductionHypothesis =>
      have form :
          (if c = 'Σ' then
              if meetsCased before && !meetsCased rest then ['ς'] else ['σ']
            else
              lowercaseChar c).map unifySigma =
            (lowercaseChar c).map unifySigma := by
        split
        · rename_i capital
          have alone : (lowercaseChar 'Σ').map unifySigma = ['σ'] := by
            decide +kernel
          rw [capital, alone]
          split <;> decide
        · rfl
      rw [lowercaseFrom, List.map_append, inductionHypothesis, form]
      rfl

/-- What occurs in lower case occurs in any letter case. -/
theorem caseless_infix_of_lowercase
    {part text : Text}
    (occurs : lowercase part <:+: lowercase text) :
    caseless part <:+: caseless text := by
  have mapped := occurs.map unifySigma
  rwa [lowercase, lowercase, map_unifySigma_lowercaseFrom,
    map_unifySigma_lowercaseFrom] at mapped

private def sigmaPoints : List Nat :=
  [0x3A3, 0x3C2, 0x3C3]

private theorem toNat_mem_sigmaPoints
    {c : Char}
    (sigma : isSigma c = true) :
    c.toNat ∈ sigmaPoints := by
  simp only [isSigma, Bool.or_eq_true, beq_iff_eq] at sigma
  rcases sigma with (rfl | rfl) | rfl <;> decide

private def CaseRun.source (run : CaseRun) (target : Nat) : Nat :=
  Int.toNat (target - run.distance)

/-- A run maps nothing but the capital sigma to a sigma. -/
private theorem lowercaseRuns_sigma :
    (lowercaseRuns.all fun run =>
      sigmaPoints.all fun target =>
        !run.covers (run.source target) || run.source target == 0x3A3) = true := by
  decide +kernel

private theorem isSigma_of_covers
    {run : CaseRun}
    {c : Char}
    (member : run ∈ lowercaseRuns)
    (covers : run.covers c.toNat = true)
    (sigma : isSigma (Char.ofNat (Int.toNat (c.toNat + run.distance))) = true) :
    isSigma c = true := by
  by_cases valid : (Int.toNat (c.toNat + run.distance)).isValidChar
  · -- The character is the source of its image, and the table is checked by images.
    have target :
        Int.toNat (c.toNat + run.distance) ∈ sigmaPoints := by
      have image := toNat_mem_sigmaPoints sigma
      rw [Char.ofNat, dif_pos valid] at image
      exact image
    have isSource :
        run.source (Int.toNat (c.toNat + run.distance)) = c.toNat := by
      have positive : 0 < Int.toNat (c.toNat + run.distance) := by
        simp only [sigmaPoints, List.mem_cons, List.not_mem_nil, or_false] at target
        omega
      rw [CaseRun.source]
      omega
    have onlyCapital :=
      List.all_eq_true.mp (List.all_eq_true.mp lowercaseRuns_sigma run member) _ target
    rw [isSource, covers, Bool.not_true, Bool.false_or, beq_iff_eq] at onlyCapital
    rw [← Char.ofNat_toNat c, onlyCapital]
    decide
  · rw [Char.ofNat, dif_neg valid] at sigma
    cases sigma

/-- Only a sigma has a sigma in its lower-case form. -/
private theorem isSigma_of_mem_lowercaseChar
    {c d : Char}
    (member : d ∈ lowercaseChar c)
    (sigma : isSigma d = true) :
    isSigma c = true := by
  rw [lowercaseChar] at member
  split at member
  · rename_i ascii
    have lower : ∀ point < 0x80, isSigma (Char.ofNat point).toLower = false := by
      decide +kernel
    have notSigma := lower c.toNat ascii
    rw [Char.ofNat_toNat, ← List.mem_singleton.mp member, sigma] at notSigma
    cases notSigma
  · split at member
    · simp only [List.mem_cons, List.not_mem_nil, or_false] at member
      rcases member with rfl | rfl <;> cases sigma
    · split at member
      · rename_i run found
        obtain rfl := List.mem_singleton.mp member
        exact isSigma_of_covers (List.mem_of_find?_eq_some found)
          (List.find?_some found :) sigma
      · obtain rfl := List.mem_singleton.mp member
        exact sigma

private theorem unifySigma_eq_self
    {c : Char}
    (notSigma : isSigma (unifySigma c) = false) :
    unifySigma c = c := by
  rw [unifySigma] at notSigma ⊢
  split at notSigma
  · cases notSigma
  · rename_i notFinal
    rw [if_neg notFinal]

private theorem isSigma_of_isSigma_unifySigma
    {c : Char}
    (sigma : isSigma (unifySigma c) = true) :
    isSigma c = true := by
  rw [unifySigma] at sigma
  split at sigma
  · rename_i final
    rw [final]
    rfl
  · exact sigma

private theorem caseless_no_sigma
    {part : Text}
    (noSigma : ∀ c ∈ part, isSigma c = false) :
    ∀ c ∈ caseless part, isSigma c = false := by
  intro c member
  obtain ⟨d, dMember, cMember⟩ := List.mem_flatMap.mp member
  obtain ⟨e, eMember, rfl⟩ := List.mem_map.mp cMember
  rw [← Bool.not_eq_true]
  intro sigma
  have isSource :=
    isSigma_of_mem_lowercaseChar eMember (isSigma_of_isSigma_unifySigma sigma)
  rw [noSigma d dMember] at isSource
  cases isSource

/-- What has a caseless form without sigmas, the small ones unified, is that form. -/
private theorem eq_caseless_of_map_unifySigma
    {part form : Text}
    (noSigma : ∀ c ∈ part, isSigma c = false)
    (mapped : form.map unifySigma = caseless part) :
    form = caseless part := by
  rw [← mapped]
  refine (List.map_id form).symm.trans (List.map_congr_left fun c member => ?_)
  refine (unifySigma_eq_self (caseless_no_sigma noSigma _ ?_)).symm
  rw [← mapped]
  exact List.mem_map_of_mem member

/-- A text without sigmas occurs in lower case where it occurs in any letter case. -/
theorem lowercase_infix_iff_caseless_infix
    {part : Text}
    (noSigma : ∀ c ∈ part, isSigma c = false)
    (text : Text) :
    lowercase part <:+: lowercase text ↔ caseless part <:+: caseless text := by
  refine ⟨caseless_infix_of_lowercase, ?_⟩
  rintro ⟨front, back, shape⟩
  rw [← map_unifySigma_lowercaseFrom [] text, eq_comm, List.map_eq_append_iff] at shape
  obtain ⟨upTo, behind, textShape, upToShape, -⟩ := shape
  obtain ⟨before, found, rfl, -, foundShape⟩ := List.map_eq_append_iff.mp upToShape
  have foundIs : found = caseless part :=
    eq_caseless_of_map_unifySigma noSigma foundShape
  have partIs : lowercase part = caseless part :=
    eq_caseless_of_map_unifySigma noSigma (map_unifySigma_lowercaseFrom [] part)
  exact ⟨before, behind, by rw [partIs, ← foundIs, lowercase, textShape]⟩

end Provision.Unicode
