import Provision.Proofs.Names
import Provision.Proofs.Text.Occurrences
import Provision.Proofs.Text.Words
import Provision.Proofs.Unicode.Sigma
import Provision.Qt.Resolver

namespace Provision.Qt

/-!
# What is chosen from a listing

The architecture is the first preferred one that is a word of the listing. The
modules are the candidates whose lower-case form occurs in that of the listing.
A candidate without sigmas is among them exactly where it occurs in any letter
case; one with a capital sigma can occur as it is written and still be missed.
-/

/-- The first of some preferred names that is a word of the listing. -/
def IsFirstWord
    (listing : Text)
    (preferred : List String)
    (name : String) :
    Prop :=
  ∃ better worse,
    preferred = better ++ name :: worse ∧
      Text.IsWord Unicode.isWhitespace listing name.toList ∧
      ∀ other ∈ better, ¬ Text.IsWord Unicode.isWhitespace listing other.toList

theorem selectArchitecture?_eq_some_iff
    {listing : Text}
    {preferred : List String}
    {architecture : String} :
    selectArchitecture? listing preferred = some architecture ↔
      IsFirstWord listing preferred architecture := by
  simp only [selectArchitecture?, List.find?_eq_some_iff_append, IsFirstWord,
    Bool.not_eq_true', ← Bool.not_eq_true, List.contains_iff_mem,
    Text.mem_wordsBy_iff]
  constructor
  · rintro ⟨isWord, better, worse, shape, noneBetter⟩
    exact ⟨better, worse, shape, isWord, noneBetter⟩
  · rintro ⟨better, worse, shape, isWord, noneBetter⟩
    exact ⟨isWord, better, worse, shape, noneBetter⟩

/-- Candidates that the listing names, each once and in ascending order. -/
structure Selects
    (listing : Text)
    (candidates modules : List String) :
    Prop where
  nonempty : modules ≠ []
  ascending : modules.Pairwise (· < ·)
  mem_iff :
    ∀ name,
      name ∈ modules ↔
        name ∈ candidates ∧
          Unicode.lowercase name.toList <:+: Unicode.lowercase listing

theorem mem_selectModules_iff
    {listing : Text}
    {candidates : List String}
    {name : String} :
    name ∈ selectModules listing candidates ↔
      name ∈ candidates ∧
        Unicode.lowercase name.toList <:+: Unicode.lowercase listing := by
  rw [selectModules, mem_sortedNames_iff, List.mem_filter, Text.hasInfix_iff_infix]

theorem selects_selectModules
    {listing : Text}
    {candidates : List String}
    (nonempty : selectModules listing candidates ≠ []) :
    Selects listing candidates (selectModules listing candidates) where
  nonempty := nonempty
  ascending := pairwise_sortedNames _
  mem_iff _ := mem_selectModules_iff

/-- Where no candidate is found, none is named. -/
theorem not_selects_of_selectModules_eq_nil
    {listing : Text}
    {candidates modules : List String}
    (noneFound : selectModules listing candidates = []) :
    ¬ Selects listing candidates modules := by
  intro selects
  obtain ⟨name, member⟩ := List.exists_mem_of_ne_nil modules selects.nonempty
  have found := mem_selectModules_iff.mpr ((selects.mem_iff name).mp member)
  rw [noneFound] at found
  cases found

end Provision.Qt
