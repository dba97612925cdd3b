import Provision.Proofs.Descriptor.BlockReading
import Provision.Proofs.Descriptor.Insertion

namespace Provision.Descriptor

/-!
# Patching twice

Whether a text carries a marker is asked before a former deployment command is
taken out of it. Taking it out must not join the two sides to a marker: had the
left side ended in the start of one, its number sign would have opened a comment
that still ran where the command stood. A patched text therefore carries the
marker of its block and no other.
-/

/-- Behind its number sign, the marker neither opens a string nor ends its line. -/
private theorem marker_eq_cons :
    ∃ text, marker = '#' :: text ∧ '"' ∉ text ∧ '\n' ∉ text := by
  refine ⟨marker.tail, ?_, ?_, ?_⟩ <;> decide +kernel

/-- Where the reader is in code, no marker has begun. -/
theorem parted_marker_of_run
    {before : Text}
    (inCode : LexicalState.run .code before = .code)
    (after : Text) :
    Text.Parted marker before after := by
  obtain ⟨markerRest, markerShape, noQuote, noFeed⟩ := marker_eq_cons
  rintro ending opening endingNonempty - ⟨leading, rfl⟩ - shape
  cases ending with
  | nil =>
      exact endingNonempty rfl
  | cons c begun =>
      rw [markerShape, List.cons_append] at shape
      obtain ⟨rfl, rfl⟩ := List.cons.inj shape
      rw [LexicalState.run_append, LexicalState.run_cons] at inCode
      exact LexicalState.run_ne_code (LexicalState.step_sign_ne_code _)
        (fun member => noQuote (List.mem_append_left opening member))
        (fun member => noFeed (List.mem_append_left opening member))
        inCode

/-- The two sides of a former deployment command join to no marker. -/
theorem FormerLine.StandsBetween.parted_marker
    {line : FormerLine}
    {before after : Text}
    (stands : line.StandsBetween before after) :
    Text.Parted marker before after := by
  by_cases noIndent : line.indent = []
  · have inCode := stands.live.inCode
    rw [noIndent, List.append_nil] at inCode
    exact parted_marker_of_run inCode after
  · rcases stands.indentReaches noIndent with rfl | lineStart
    · exact parted_marker_of_run rfl after
    · exact Text.Parted.of_last lineStart lineFeed_notMem_marker

/-- Taking a former deployment command out brings no marker in. -/
theorem not_marker_infix_cleaned
    {text : Text}
    (absent : ¬ marker <:+: text) :
    ¬ marker <:+: cleaned text := by
  by_cases noFormer : formerDeployments text = []
  · rwa [cleaned_eq_self noFormer]
  · obtain ⟨line, before, after, rfl, cleanedShape, stands, -⟩ :=
      exists_formerLine noFormer
    rw [cleanedShape, stands.parted_marker.infix_append_iff, not_or]
    constructor
    · intro inBefore
      exact absent
        (inBefore.trans (List.prefix_append before _).isInfix)
    · intro inAfter
      have afterBehind :
          after <:+ before ++ (line.text ++ after) :=
        (List.suffix_append line.text after).trans
          (List.suffix_append before (line.text ++ after))
      exact absent (inAfter.trans afterBehind.isInfix)

theorem not_marker_infix_of_fresh
    {text : Text}
    (fresh : isPatched text = false) :
    ¬ marker <:+: text := by
  rw [isPatched, Bool.or_eq_false_iff] at fresh
  rw [← Text.hasInfix_iff_infix, fresh.1]
  exact Bool.false_ne_true

theorem isPatched_of_marker_infix
    {text : Text}
    (carries : marker <:+: text) :
    isPatched text = true := by
  rw [isPatched, Text.hasInfix_iff_infix.mpr carries, Bool.true_or]

/-- A patched text carries one marker, that of its block. -/
theorem occurrences_marker_of_patched
    {text : Text}
    (patched : (patch text).outcome = .patched) :
    Text.occurrences marker (patch text).text = 1 := by
  obtain ⟨fresh, step, cleanedShape, -, result⟩ :=
    exists_linkStep_of_patched patched
  have clean :=
    not_marker_infix_cleaned (not_marker_infix_of_fresh fresh)
  rw [cleanedShape, LinkStep.text] at clean
  have noneInFront : Text.occurrences marker step.front = 0 := by
    rw [Text.occurrences_eq_zero_iff marker_ne_nil]
    exact fun inFront =>
      clean (inFront.trans (List.prefix_append step.front _).isInfix)
  have noneBehind : Text.occurrences marker step.after = 0 := by
    rw [Text.occurrences_eq_zero_iff marker_ne_nil]
    exact fun inAfter =>
      clean (inAfter.trans (List.suffix_append step.front _).isInfix)
  rw [result, occurrences_marker_append, noneInFront, noneBehind]

/-- A patch of a patched text finds the marker and changes nothing. -/
theorem patch_patch_of_patched
    {text : Text}
    (patched : (patch text).outcome = .patched) :
    patch (patch text).text =
      ⟨(patch text).text, .alreadyPatched, 0⟩ := by
  apply patch_of_isPatched
  apply isPatched_of_marker_infix
  have once := occurrences_marker_of_patched patched
  by_cases carries : marker <:+: (patch text).text
  · exact carries
  · rw [(Text.occurrences_eq_zero_iff marker_ne_nil).mpr carries] at once
    cases once

/-- A patch that reports no change has made none. -/
theorem text_of_not_patched
    {text : Text}
    (notPatched : (patch text).outcome ≠ .patched) :
    (patch text).text = text := by
  cases fresh : isPatched text with
  | true =>
      rw [patch_of_isPatched fresh]
  | false =>
      rcases patch_cases fresh with ⟨-, missing⟩ | ⟨step, -, -, result⟩
      · rw [missing]
      · rw [result] at notPatched
        exact (notPatched rfl).elim

/--
Patching is idempotent. A patched text carries exactly one marker and is
refused by the next patch; any other outcome leaves the text, and with it every
later outcome, as it is.
-/
theorem patch_idempotent
    (text : Text) :
    ((patch text).outcome = .patched →
        Text.occurrences marker (patch text).text = 1 ∧
          patch (patch text).text =
            ⟨(patch text).text, .alreadyPatched, 0⟩) ∧
      ((patch text).outcome ≠ .patched →
        (patch text).text = text ∧
          patch (patch text).text = patch text) ∧
      (patch (patch text).text).text = (patch text).text := by
  by_cases patched : (patch text).outcome = .patched
  · have again := patch_patch_of_patched patched
    refine ⟨fun _ => ⟨occurrences_marker_of_patched patched, again⟩,
      fun notPatched => (notPatched patched).elim, ?_⟩
    rw [again]
  · have unchanged := text_of_not_patched patched
    refine ⟨fun isPatched => (patched isPatched).elim,
      fun _ => ⟨unchanged, by rw [unchanged]⟩, ?_⟩
    rw [unchanged, unchanged]

/-- A marker but for its last character, which stands behind a former command. -/
def nearlyMarked : Text :=
  "target_link_libraries(a b)\n# >>> qt-deploy (managed by netter-setup) >>\nadd_custom_command(a deployqt)>\n".toList

/-- Taking the command out does not complete the marker. -/
theorem nearlyMarked_patched_once :
    (patch nearlyMarked).outcome = .patched ∧
      Text.occurrences marker (patch nearlyMarked).text = 1 ∧
      (patch (patch nearlyMarked).text).outcome = .alreadyPatched := by
  have patched : (patch nearlyMarked).outcome = .patched := by
    decide +kernel
  obtain ⟨once, again⟩ := (patch_idempotent nearlyMarked).1 patched
  exact ⟨patched, once, by rw [again]⟩

end Provision.Descriptor
