import Provision.Descriptor.Block
import Provision.Proofs.Descriptor.Groups
import Provision.Proofs.Text.Occurrences

namespace Provision.Descriptor

/-!
# How the block is read

The block is whole lines: a reader who comes to it in code leaves it in code and
at the same depth. Its marker line occurs once and reaches neither end of
it, so the block adds one marker to the texts around it.
-/

/--
Whether every live close of a text answers an opening of the same text, with
`depth` of them open where it starts.
-/
def closesOwn
    (opening close : Char) :
    LexicalState → Nat → Text → Bool
  | _, _, [] => true
  | state, depth, c :: rest =>
      (0 < depth || !(state.isLive c && c == close)) &&
        closesOwn opening close (state.step c)
          (depthStep opening close state depth c) rest

/-- A text that closes only what it opened leaves the depth around it alone. -/
theorem depthAfter_add_of_closesOwn
    {opening close : Char}
    {state : LexicalState}
    {depth : Nat}
    {text : Text}
    (own : closesOwn opening close state depth text = true)
    (below : Nat) :
    depthAfter opening close state (depth + below) text =
      depthAfter opening close state depth text + below := by
  induction text generalizing state depth with
  | nil =>
      rfl
  | cons c rest inductionHypothesis =>
      simp only [closesOwn, Bool.and_eq_true, Bool.or_eq_true,
        decide_eq_true_eq] at own
      obtain ⟨here, later⟩ := own
      have sameStep :
          depthStep opening close state (depth + below) c =
            depthStep opening close state depth c + below := by
        rcases here with isOpen | notClose
        · exact depthStep_add isOpen state below c
        · simp only [depthStep]
          repeat' split
          all_goals simp_all
          all_goals omega
      rw [depthAfter_cons, depthAfter_cons, sameStep]
      exact inductionHypothesis later

/-- The marker is the first line of the block, behind the empty one. -/
theorem exists_deploymentBlock_eq :
    ∃ commands, deploymentBlock = ['\n', '\n'] ++ (marker ++ commands) := by
  refine ⟨'\n' :: unlines (blockLines ++ [endMarker]), ?_⟩
  simp only [deploymentBlock, unlines, List.cons_append, List.nil_append,
    List.flatMap_cons, List.append_assoc]

/-- All that is said about the block, read once. -/
private theorem reading_deploymentBlock :
    deploymentBlock.getLast? = some '\n' ∧
      LexicalState.run .code deploymentBlock = .code ∧
      closesOwn '(' ')' .code 0 deploymentBlock = true ∧
      depthAfter '(' ')' .code 0 deploymentBlock = 0 ∧
      Text.occurrences marker deploymentBlock = 1 ∧
      '\x00' ∉ deploymentBlock := by
  -- Spelled out as characters, the literals need no decoding in the kernel.
  unfold deploymentBlock blockLines marker endMarker
  repeat rw [String.toList_ofList]
  decide +kernel

theorem head?_deploymentBlock :
    deploymentBlock.head? = some '\n' :=
  rfl

theorem getLast?_deploymentBlock :
    deploymentBlock.getLast? = some '\n' :=
  reading_deploymentBlock.1

/-- Quotes, escapes and number signs of the block are all closed in it. -/
theorem run_deploymentBlock :
    LexicalState.run .code deploymentBlock = .code :=
  reading_deploymentBlock.2.1

/-- So are its parentheses. -/
theorem depthAfter_deploymentBlock
    (depth : Nat) :
    depthAfter '(' ')' .code depth deploymentBlock = depth := by
  obtain ⟨-, -, own, balanced, -⟩ := reading_deploymentBlock
  have shifted := depthAfter_add_of_closesOwn own depth
  rwa [balanced, Nat.zero_add] at shifted

theorem marker_ne_nil :
    marker ≠ [] := by
  decide +kernel

theorem lineFeed_notMem_marker :
    '\n' ∉ marker := by
  decide +kernel

theorem occurrences_marker_deploymentBlock :
    Text.occurrences marker deploymentBlock = 1 :=
  reading_deploymentBlock.2.2.2.2.1

theorem nul_notMem_deploymentBlock :
    '\x00' ∉ deploymentBlock :=
  reading_deploymentBlock.2.2.2.2.2

/-- Between any two texts, the block adds one marker to theirs. -/
theorem occurrences_marker_append
    (before after : Text) :
    Text.occurrences marker (before ++ (deploymentBlock ++ after)) =
      Text.occurrences marker before + 1 +
        Text.occurrences marker after := by
  have beforeBlock :
      Text.Parted marker before (deploymentBlock ++ after) :=
    Text.Parted.of_head
      (by rw [List.head?_append, head?_deploymentBlock, Option.some_or])
      lineFeed_notMem_marker
  have behindBlock : Text.Parted marker deploymentBlock after :=
    Text.Parted.of_last getLast?_deploymentBlock lineFeed_notMem_marker
  rw [beforeBlock.occurrences_append marker_ne_nil,
    behindBlock.occurrences_append marker_ne_nil,
    occurrences_marker_deploymentBlock, Nat.add_assoc]

end Provision.Descriptor
