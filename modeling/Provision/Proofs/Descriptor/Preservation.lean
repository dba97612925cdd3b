import Provision.Proofs.Descriptor.Insertion

namespace Provision.Descriptor

/-!
# What a patch keeps

A patch adds the block and takes out one former deployment command at most.
Everything else of the text is in the patched text, in the same order.
-/

/--
A patched text is the cleaned text with the block in it. The cleaned text is
the text itself when no former deployment command was found, and otherwise the
text without the line stretch of the last one.
-/
theorem patched_text_keeps_all_but_former_line
    {text : Text}
    (patched : (patch text).outcome = .patched) :
    (∃ left right,
        (patch text).text = left ++ (deploymentBlock ++ right) ∧
          left ++ right = cleaned text) ∧
      (patch text).formerCommands = (formerDeployments text).length ∧
      ((patch text).formerCommands = 0 → cleaned text = text) ∧
      ((patch text).formerCommands ≠ 0 →
        ∃ (line : FormerLine) (before after : Text),
          text = before ++ (line.text ++ after) ∧
            cleaned text = before ++ after ∧
            line.StandsBetween before after ∧
            (formerDeployments text).getLast? =
              some (line.range before)) := by
  obtain ⟨-, step, cleanedShape, -, result⟩ :=
    exists_linkStep_of_patched patched
  refine ⟨⟨step.front, step.after, by rw [result],
    by rw [cleanedShape, LinkStep.text]⟩, by rw [result], ?_, ?_⟩
  · rw [result]
    intro noneFound
    exact cleaned_eq_self (List.eq_nil_of_length_eq_zero noneFound)
  · rw [result]
    intro someFound
    exact exists_formerLine
      fun noFormer => someFound (by rw [noFormer]; rfl)

/-- A descriptor with two former commands, spelled in two letter cases. -/
def twoFormerCommands : Text :=
  "add_custom_command(a deployqt)\ntarget_link_libraries(a b)\n\tadd_custom_command (a WinDeployQt)\r\n".toList

/-- Of two former commands the last one is taken out, with its line. -/
theorem twoFormerCommands_keeps_all_but_last :
    (patch twoFormerCommands).outcome = .patched ∧
      (patch twoFormerCommands).formerCommands = 2 ∧
      ∃ (line : FormerLine) (before after : Text),
        twoFormerCommands = before ++ (line.text ++ after) ∧
          cleaned twoFormerCommands = before ++ after ∧
          line.StandsBetween before after := by
  have patched : (patch twoFormerCommands).outcome = .patched := by
    decide +kernel
  have found : (patch twoFormerCommands).formerCommands = 2 := by
    decide +kernel
  obtain ⟨-, -, -, kept⟩ := patched_text_keeps_all_but_former_line patched
  obtain ⟨line, before, after, shape, cleanedShape, stands, -⟩ :=
    kept (by rw [found]; decide)
  exact ⟨patched, found, line, before, after, shape, cleanedShape, stands⟩

end Provision.Descriptor
