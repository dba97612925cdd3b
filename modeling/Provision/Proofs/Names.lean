import Provision.Names
import Provision.Path

namespace Provision

/-!
# Sorted names

Sorting keeps the names of a list, each once, in ascending order.
-/

section Sorting

variable {α : Type} [LT α] [DecidableLT α] [DecidableEq α]

theorem mem_insertName_iff
    (name other : α)
    (names : List α) :
    other ∈ insertName name names ↔ other = name ∨ other ∈ names := by
  induction names with
  | nil =>
      simp [insertName]
  | cons first rest inductionHypothesis =>
      rw [insertName]
      split
      · simp
      · split
        · rename_i same
          simp [same]
        · simp [inductionHypothesis, or_left_comm]

theorem pairwise_insertName
    [LE α]
    [Std.IsLinearOrder α]
    [Std.LawfulOrderLT α]
    {names : List α}
    (name : α)
    (ascending : names.Pairwise (· < ·)) :
    (insertName name names).Pairwise (· < ·) := by
  induction names with
  | nil =>
      exact List.pairwise_singleton _ _
  | cons first rest inductionHypothesis =>
      obtain ⟨below, restAscending⟩ := List.pairwise_cons.mp ascending
      rw [insertName]
      split
      · rename_i before
        refine List.pairwise_cons.mpr ⟨?_, ascending⟩
        intro other member
        rcases List.mem_cons.mp member with rfl | inRest
        · exact before
        · exact Std.lt_trans before (below other inRest)
      · rename_i notBefore
        split
        · exact ascending
        · rename_i different
          refine List.pairwise_cons.mpr ⟨?_, inductionHypothesis restAscending⟩
          intro other member
          rcases (mem_insertName_iff name other rest).mp member with rfl | inRest
          · exact Std.not_le.mp fun above =>
              different (Std.le_antisymm above (Std.not_lt.mp notBefore))
          · exact below other inRest

theorem mem_sortedNames_iff
    {name : α}
    {names : List α} :
    name ∈ sortedNames names ↔ name ∈ names := by
  induction names with
  | nil =>
      rfl
  | cons first rest inductionHypothesis =>
      rw [sortedNames, List.foldr_cons, mem_insertName_iff, List.mem_cons]
      exact or_congr_right inductionHypothesis

theorem pairwise_sortedNames
    [LE α]
    [Std.IsLinearOrder α]
    [Std.LawfulOrderLT α]
    (names : List α) :
    (sortedNames names).Pairwise (· < ·) := by
  induction names with
  | nil =>
      exact List.Pairwise.nil
  | cons first rest inductionHypothesis =>
      exact pairwise_insertName first inductionHypothesis

end Sorting

namespace FileName

instance : LE FileName :=
  ⟨fun left right => left.bytes ≤ right.bytes⟩

/-- Names are ordered as their bytes are. -/
instance : Std.IsLinearOrder FileName where
  le_refl name := Std.le_refl name.bytes
  le_trans first second third before after :=
    @Std.le_trans Bytes _ _ first.bytes second.bytes third.bytes before after
  le_antisymm _ _ before after := congrArg FileName.mk (Std.le_antisymm before after)
  le_total first second := @Std.le_total Bytes _ _ first.bytes second.bytes

instance : Std.LawfulOrderLT FileName where
  lt_iff first second :=
    @Std.lt_iff_le_and_not_ge Bytes _ _ _ first.bytes second.bytes

end FileName

end Provision
