import Provision.Proofs.Descriptor.Applying
import Provision.Proofs.Descriptor.Rereading

namespace Provision.Descriptor

/-!
# Patching a descriptor file twice

A run that succeeds leaves the patched bytes in the file; one that fails leaves
every file as it was. So what a second run does to the file is what reading the
patched bytes again does to them.
-/

open Disk Run

variable {machine : Machine} {world : World} {path : Path}

/-- A run that fails changes no file; one that succeeds patches the bytes of the descriptor. -/
theorem apply_cases
    (machine : Machine)
    (path : Path)
    (rooted : world.disk.Rooted) :
    (∃ failure after,
      (apply path false).exec machine world = (.error failure, after) ∧
        ∀ dir other bytes mode,
          world.disk.HasFile dir other bytes mode →
            after.disk.HasFile dir other bytes mode) ∨
      ∃ bytes mode after,
        world.disk.HasFile machine.directory path bytes mode ∧
          (apply path false).exec machine world =
            (.ok (patch (decode bytes).1), after) ∧
          after.disk.HasFile machine.directory path (patchedBytes bytes) mode ∧
          after.disk.Rooted := by
  have applied := applied_apply machine path false rooted
  rcases runs : (apply path false).exec machine world with ⟨outcome, after⟩
  rw [runs] at applied
  dsimp only at applied
  generalize sameFinal : after.disk = final at applied
  cases applied with
  | @unread failure =>
      exact .inl ⟨failure, after, rfl, fun _ _ _ _ had => sameFinal ▸ had⟩
  | @unwritten failure _ _ _ _ keeps =>
      exact .inl ⟨failure, after, rfl, sameFinal ▸ keeps⟩
  | @kept bytes mode had nothingToWrite =>
      have unpatched : patchedBytes bytes = bytes :=
        if_neg fun patched => Bool.noConfusion (nothingToWrite patched)
      refine .inr ⟨bytes, mode, after, had, rfl, ?_, sameFinal ▸ rooted⟩
      rw [unpatched]
      exact sameFinal ▸ had
  | @rewritten bytes mode _ _ had patched _ takes =>
      have written :
          patchedBytes bytes = Utf8.encode (patch (decode bytes).1).text :=
        if_pos patched
      refine .inr ⟨bytes, mode, after, had, rfl, ?_, sameFinal ▸ takes.rooted rooted⟩
      rw [written]
      exact sameFinal ▸ takes.hasFile had

/--
Where a run succeeded, the next one changes the file again only if it takes the
bytes that the first one wrote for UTF-16, and is not stopped on the way. That
takes a descriptor that was read as Latin-1 and has zeros among its bytes.
-/
theorem second_run_changes_iff
    {first second : World}
    {bytes : Bytes}
    {result : Patch}
    {again : Except Failure Patch}
    (rooted : world.disk.Rooted)
    (held : world.disk.read machine.directory path = .ok bytes)
    (firstRun : (apply path false).exec machine world = (.ok result, first))
    (secondRun : (apply path false).exec machine first = (again, second)) :
    first.disk.read machine.directory path = .ok (patchedBytes bytes) ∧
      (second.disk.read machine.directory path ≠
          first.disk.read machine.directory path ↔
        Misread bytes ∧ again.isOk = true) ∧
      (Misread bytes → (decode bytes).2 = .latin1 ∧ 0 ∈ bytes) := by
  rcases apply_cases machine path rooted with
      ⟨failure, after, fails, -⟩ |
      ⟨found, mode, after, had, succeeds, hasPatched, rootedFirst⟩
  · rw [fails] at firstRun
    cases firstRun
  rw [succeeds] at firstRun
  cases firstRun
  rw [had.read_eq, Except.ok.injEq] at held
  subst held
  refine ⟨hasPatched.read_eq, ?_, Misread.latin1⟩
  rw [hasPatched.read_eq]
  rcases apply_cases machine path rootedFirst with
      ⟨failure, after, fails, keeps⟩ |
      ⟨found, mode, after, hadPatched, succeeds, hasAgain, -⟩
  · rw [fails] at secondRun
    cases secondRun
    rw [(keeps _ _ _ _ hasPatched).read_eq]
    simp [Except.isOk, Except.toBool]
  · rw [succeeds] at secondRun
    cases secondRun
    have same := hadPatched.read_eq
    rw [hasPatched.read_eq, Except.ok.injEq] at same
    subst same
    rw [hasAgain.read_eq, Ne, Except.ok.injEq]
    simpa [Except.isOk, Except.toBool] using patchedBytes_patchedBytes_ne_iff

/-- A run over the descriptor of a world. -/
def runIn (world : World) : Except Failure Patch × World :=
  (apply descriptorPath false).exec plainMachine world

/-- What the descriptor of a world holds. -/
def descriptorBytes (world : World) : Except SystemError Bytes :=
  world.disk.read plainMachine.directory descriptorPath

/-- A link step with an accent, in Latin-1. -/
def accentedStep : Bytes :=
  Utf8.encode "target_link_libraries(caf".toList ++ [0xE9, 0x29]

/-- What was read as Latin-1 is seen to be patched when it is read as UTF-8. -/
theorem accentedStep_patched_once :
    (runIn (descriptorWorld accentedStep)).1.isOk = true ∧
      descriptorBytes (runIn (runIn (descriptorWorld accentedStep)).2).2 =
        descriptorBytes (runIn (descriptorWorld accentedStep)).2 := by
  have succeeds : (runIn (descriptorWorld accentedStep)).1.isOk = true := by
    decide +kernel
  have held :
      descriptorBytes (descriptorWorld accentedStep) = .ok accentedStep := by
    decide +kernel
  have noZero : 0 ∉ accentedStep := by
    decide +kernel
  refine ⟨succeeds, ?_⟩
  rcases firstRun : runIn (descriptorWorld accentedStep) with ⟨outcome, first⟩
  rw [firstRun] at succeeds
  cases outcome with
  | error failure => cases succeeds
  | ok result =>
      rcases secondRun : runIn first with ⟨again, second⟩
      obtain ⟨-, changes, latin1⟩ :=
        second_run_changes_iff (descriptorWorld_rooted accentedStep) held
          firstRun secondRun
      by_cases same : descriptorBytes second = descriptorBytes first
      · exact same
      · exact (noZero (latin1 (changes.mp same).1).2).elim

/-- The step in Latin-1, and behind it another one and a long comment in UTF-16. -/
def mixedEncodings : Bytes :=
  accentedStep ++
    Utf16.encode .littleEndian
      ("\ntarget_link_libraries(b)\n".toList ++ List.replicate 857 '#')

/-- Read as UTF-16 after the first run, the descriptor is patched once more. -/
theorem mixedEncodings_patched_twice :
    (runIn (descriptorWorld mixedEncodings)).1.isOk = true ∧
      (runIn (runIn (descriptorWorld mixedEncodings)).2).1.isOk = true ∧
      descriptorBytes (runIn (runIn (descriptorWorld mixedEncodings)).2).2 ≠
        descriptorBytes (runIn (descriptorWorld mixedEncodings)).2 := by
  -- Spelled out as characters, the literals need no decoding in the kernel.
  unfold runIn apply patch cleaned excision? formerDeployments isPatched
    insertionPoint? insertBlock? deploymentBlock blockLines marker endMarker
    formerMarker linkKeyword formerKeyword mixedEncodings accentedStep
  repeat rw [String.toList_ofList]
  decide +kernel

end Provision.Descriptor
