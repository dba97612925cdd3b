import Provision.Version

namespace Provision.Version

/-!
# The newest version

Versions are compared component by component. The newest version of a list is
one of the list that is older than no other.
-/

theorem isOlder_iff
    {left right : Version} :
    left.isOlder right = true ↔
      left.major < right.major ∨
        (left.major = right.major ∧
          (left.minor < right.minor ∨
            (left.minor = right.minor ∧ left.patch < right.patch))) := by
  simp [isOlder, components, List.cons_lt_cons_iff]

/-- A version of a list that is older than none of them. -/
def IsNewest (versions : List Version) (version : Version) : Prop :=
  version ∈ versions ∧ ∀ other ∈ versions, version.isOlder other = false

theorem newest?_eq_none_iff
    {versions : List Version} :
    newest? versions = none ↔ versions = [] := by
  cases versions with
  | nil =>
      simp [newest?]
  | cons version rest =>
      rw [newest?]
      split
      · simp
      · split <;> simp

theorem isNewest_of_newest?
    {versions : List Version}
    {version : Version}
    (found : newest? versions = some version) :
    IsNewest versions version := by
  induction versions generalizing version with
  | nil =>
      cases found
  | cons first rest inductionHypothesis =>
      have irreflexive (other : Version) : other.isOlder other = false := by
        rw [← Bool.not_eq_true, isOlder_iff]
        omega
      rw [newest?] at found
      split at found
      · rename_i noRest
        obtain rfl := Option.some.inj found
        rw [newest?_eq_none_iff.mp noRest]
        simp [IsNewest, irreflexive]
      · rename_i other restNewest
        obtain ⟨member, newest⟩ := inductionHypothesis restNewest
        split at found
        · rename_i older
          obtain rfl := Option.some.inj found
          refine ⟨List.mem_cons_self, ?_⟩
          intro another anotherMember
          rcases List.mem_cons.mp anotherMember with rfl | inRest
          · exact irreflexive another
          · have below := newest another inRest
            rw [← Bool.not_eq_true, isOlder_iff] at below ⊢
            rw [isOlder_iff] at older
            omega
        · rename_i notOlder
          obtain rfl := Option.some.inj found
          refine ⟨List.mem_cons_of_mem first member, ?_⟩
          intro another anotherMember
          rcases List.mem_cons.mp anotherMember with rfl | inRest
          · simpa using notOlder
          · exact newest another inRest

/-- A list has one newest version. -/
theorem IsNewest.unique
    {versions : List Version}
    {first second : Version}
    (firstNewest : IsNewest versions first)
    (secondNewest : IsNewest versions second) :
    first = second := by
  have notBelow := firstNewest.2 second secondNewest.1
  have notAbove := secondNewest.2 first firstNewest.1
  rw [← Bool.not_eq_true, isOlder_iff] at notBelow notAbove
  cases first
  cases second
  simp only [mk.injEq]
  dsimp only at notBelow notAbove
  omega

theorem newest?_eq_some_iff
    {versions : List Version}
    {version : Version} :
    newest? versions = some version ↔ IsNewest versions version := by
  refine ⟨isNewest_of_newest?, fun isNewest => ?_⟩
  cases found : newest? versions with
  | none =>
      rw [newest?_eq_none_iff] at found
      rw [found] at isNewest
      cases isNewest.1
  | some other =>
      rw [(isNewest_of_newest? found).unique isNewest]

end Provision.Version
