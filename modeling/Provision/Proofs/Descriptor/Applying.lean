import Provision.Proofs.Descriptor.Replacing
import Provision.Proofs.Encoding.Utf8

namespace Provision.Descriptor

/-!
# Runs over a descriptor

A run reads the descriptor, or fails with nothing changed. What it read decides
whether there is something to write; all that stands between the two are status
lines. A run that writes gives the descriptor its new contents in one step, so
one that fails on the way leaves the descriptor as it was.
-/

open Disk Run

variable {machine : Machine} {world : World} {path : Path} {dryRun : Bool}

/-- A descriptor is read from a file, or not at all; the disk stays as it is. -/
theorem read_cases
    (machine : Machine)
    (world : World)
    (path : Path) :
    (∃ failure after,
      (Source.read path).exec machine world = (.error failure, after) ∧
        after.disk = world.disk) ∨
      ∃ bytes mode after,
        world.disk.HasFile machine.directory path bytes mode ∧
          (Source.read path).exec machine world =
            (.ok ⟨path, (decode bytes).1, (decode bytes).2⟩, after) ∧
          after.disk = world.disk := by
  simp only [Source.read, Attempt.exec_bind, Attempt.exec_lift, exec_isFile]
  cases isFile : world.disk.isFile machine.directory path with
  | false =>
      exact .inl ⟨_, world, rfl, rfl⟩
  | true =>
      obtain ⟨bytes, mode, has⟩ := isFile_iff.mp isFile
      simp only [if_true, Attempt.exec_bind, Attempt.exec_orFail]
      rcases reads :
          (readStep fun disk dir => disk.read dir path).exec machine world
        with ⟨outcome, asked⟩
      cases outcome with
      | error reason =>
          exact .inl ⟨_, asked, rfl, readStep_error reads⟩
      | ok found =>
          obtain ⟨looked, sameDisk⟩ := readStep_ok reads
          rw [has.read_eq, Except.ok.injEq] at looked
          exact .inr ⟨bytes, mode, asked, has, by rw [looked]; rfl, sameDisk⟩

theorem reportFormer_disk
    (result : Patch) :
    ((reportFormer result).exec machine world).2.disk = world.disk := by
  rw [reportFormer]
  split
  · simp
  · split <;> simp

/-- How a run over a descriptor ends, and the disk that it leaves. -/
inductive Applied (before : Disk) (dir : Location) (path : Path) (dryRun : Bool) :
    Except Failure Patch → Disk → Prop where
  | unread {failure : Failure} :
      Applied before dir path dryRun (.error failure) before
  /-- Something went wrong on the way to the new contents. -/
  | unwritten
      {failure : Failure}
      {bytes : Bytes}
      {mode : Nat}
      {after : Disk}
      (had : before.HasFile dir path bytes mode)
      (keeps :
        ∀ dir other bytes mode,
          before.HasFile dir other bytes mode → after.HasFile dir other bytes mode) :
      Applied before dir path dryRun (.error failure) after
  | kept
      {bytes : Bytes}
      {mode : Nat}
      (had : before.HasFile dir path bytes mode)
      (nothingToWrite :
        (patch (decode bytes).1).outcome = .patched → dryRun = true) :
      Applied before dir path dryRun (.ok (patch (decode bytes).1)) before
  | rewritten
      {bytes : Bytes}
      {mode : Nat}
      {place : Location}
      {after : Disk}
      (had : before.HasFile dir path bytes mode)
      (patched : (patch (decode bytes).1).outcome = .patched)
      (wet : dryRun = false)
      (takes :
        TakesPlace before after dir path place
          (Utf8.encode (patch (decode bytes).1).text) mode) :
      Applied before dir path dryRun (.ok (patch (decode bytes).1)) after

/-- Whatever step is refused, a run ends in one of these ways. -/
theorem applied_apply
    (machine : Machine)
    (path : Path)
    (dryRun : Bool)
    (rooted : world.disk.Rooted) :
    Applied world.disk machine.directory path dryRun
      ((apply path dryRun).exec machine world).1
      ((apply path dryRun).exec machine world).2.disk := by
  simp only [apply, Attempt.exec_bind, Attempt.exec_lift, exec_inform]
  rcases read_cases machine world path with
      ⟨failure, asked, reads, sameDisk⟩ |
      ⟨bytes, mode, asked, has, reads, sameDisk⟩
  · rw [reads]
    exact sameDisk ▸ .unread
  rw [reads]
  dsimp only
  generalize shown :
    ((reportFormer (patch (decode bytes).1)).exec machine
      (statusShown _ asked)).2 = reported
  have reportedDisk : reported.disk = world.disk := by
    rw [← shown, reportFormer_disk, statusShown_disk, sameDisk]
  cases outcome : (patch (decode bytes).1).outcome with
  | alreadyPatched =>
      simp only [Attempt.exec_bind, Attempt.exec_lift, exec_confirm, Attempt.exec_pure,
        statusShown_disk, reportedDisk]
      exact .kept has (by simp [outcome])
  | anchorMissing =>
      simp only [Attempt.exec_bind, Attempt.exec_lift, exec_caution, Attempt.exec_pure,
        statusShown_disk, reportedDisk]
      exact .kept has (by simp [outcome])
  | patched =>
      cases dryRun with
      | true =>
          simp only [if_true, Attempt.exec_bind, Attempt.exec_lift, exec_inform,
            Attempt.exec_pure, statusShown_disk, reportedDisk]
          exact .kept has fun _ => rfl
      | false =>
          simp only [Bool.false_eq_true, if_false, Attempt.exec_bind, Source.write,
            Attempt.exec_orFail, Attempt.exec_lift, exec_confirm, Attempt.exec_pure]
          rcases replaces :
              (replaceContent path (Utf8.encode (patch (decode bytes).1).text)).exec
                machine reported with ⟨replaced, after⟩
          cases replaced with
          | error reason =>
              have keeps := replaceContent_error (reportedDisk ▸ rooted) replaces
              exact .unwritten has (reportedDisk ▸ keeps)
          | ok =>
              obtain ⟨place, takes⟩ :=
                replaceContent_ok (reportedDisk ▸ rooted) (reportedDisk ▸ has) replaces
              change Applied _ _ _ _ (.ok _) (statusShown _ after).disk
              rw [statusShown_disk]
              exact .rewritten has outcome rfl (reportedDisk ▸ takes)

/-- A run that is to write, and that ends with a patch. -/
def Rewrites (dryRun : Bool) (outcome : Except Failure Patch) : Prop :=
  dryRun = false ∧ ∃ result, outcome = .ok result ∧ result.outcome = .patched

instance (dryRun : Bool) (outcome : Except Failure Patch) :
    Decidable (Rewrites dryRun outcome) :=
  match outcome with
  | .ok result =>
      decidable_of_iff (dryRun = false ∧ result.outcome = .patched) (by simp [Rewrites])
  | .error _ => .isFalse (by simp [Rewrites])

/--
A run that rewrites the descriptor leaves the patched text in UTF-8, under the
permission bits that the file had. Every other run, wherever it is stopped,
leaves what is read at the path as it was.
-/
theorem apply_all_or_nothing
    {outcome : Except Failure Patch}
    {after : World}
    (rooted : world.disk.Rooted)
    (runs : (apply path dryRun).exec machine world = (outcome, after)) :
    (Rewrites dryRun outcome →
      ∃ bytes mode,
        world.disk.HasFile machine.directory path bytes mode ∧
          outcome = .ok (patch (decode bytes).1) ∧
          after.disk.HasFile machine.directory path
            ((patch (decode bytes).1).text.flatMap String.utf8EncodeChar) mode) ∧
      (¬ Rewrites dryRun outcome →
        after.disk.file machine.directory path =
          world.disk.file machine.directory path) := by
  have applied := applied_apply machine path dryRun rooted
  rw [runs] at applied
  dsimp only at applied
  clear runs
  generalize after.disk = final at applied ⊢
  cases applied with
  | unread =>
      refine ⟨?_, fun _ => rfl⟩
      rintro ⟨-, result, fails, -⟩
      cases fails
  | unwritten had keeps =>
      refine ⟨?_, fun _ => ?_⟩
      · rintro ⟨-, result, fails, -⟩
        cases fails
      · rw [had.file_eq, (keeps _ _ _ _ had).file_eq]
  | kept had nothingToWrite =>
      refine ⟨?_, fun _ => rfl⟩
      rintro ⟨wet, result, ends, patched⟩
      obtain rfl := Except.ok.inj ends
      rw [nothingToWrite patched] at wet
      cases wet
  | rewritten had patched wet takes =>
      refine ⟨fun _ => ⟨_, _, had, rfl, ?_⟩, fun unwritten => ?_⟩
      · rw [← Utf8.encode_eq_flatMap]
        exact takes.hasFile had
      · exact (unwritten ⟨wet, _, rfl, patched⟩).elim

/-- A machine that refuses no step of the file system and runs no command. -/
def plainMachine : Machine where
  runner world _ := { outcome := .error .notFound, disk := world.disk }

/-- The path of the descriptor in the working directory. -/
def descriptorPath : Path :=
  "CMakeLists.txt"

/-- A world that holds a descriptor and nothing else. -/
def descriptorWorld (bytes : Bytes) : World where
  disk := ⟨[(["CMakeLists.txt"], .file bytes 0o644)]⟩
  environment := .ofList []

theorem descriptorWorld_rooted
    (bytes : Bytes) :
    (descriptorWorld bytes).disk.Rooted := by
  intro location stored
  by_cases isRoot : location = []
  · subst isRoot
    exact node?_root _
  · rw [node?_of_ne_root isRoot] at stored
    by_cases isDescriptor : location = [FileName.ofText "CMakeLists.txt"]
    · subst isDescriptor
      exact node?_root _
    · have differs := beq_eq_false_iff_ne.mpr isDescriptor
      exact (stored (by simp [descriptorWorld, List.lookup_cons, differs])).elim

/-- A machine that refuses one step of the file system. -/
def refusingMachine (step : Nat) : Machine :=
  { plainMachine with
    refusal := fun asked => if asked = step then some .noSpace else none }

/-- A link step in UTF-16. -/
def wideStep : Bytes :=
  Utf16.encode .littleEndian "target_link_libraries(a)".toList

/-- It is patched, unless one of six steps is refused; then it stays as it was. -/
theorem wideStep_all_or_nothing :
    (∃ bytes mode,
      (descriptorWorld wideStep).disk.HasFile [] descriptorPath bytes mode ∧
        ((apply descriptorPath false).exec plainMachine
          (descriptorWorld wideStep)).2.disk.HasFile [] descriptorPath
            ((patch (decode bytes).1).text.flatMap String.utf8EncodeChar) mode) ∧
      ∀ step < 6,
        ((apply descriptorPath false).exec (refusingMachine step)
          (descriptorWorld wideStep)).2.disk.file [] descriptorPath =
            .ok (wideStep, 0o644) := by
  have rooted := descriptorWorld_rooted wideStep
  have goesThrough :
      Rewrites false
        ((apply descriptorPath false).exec plainMachine (descriptorWorld wideStep)).1 := by
    decide +kernel
  have stopped :
      ∀ step < 6,
        ¬ Rewrites false
          ((apply descriptorPath false).exec (refusingMachine step)
            (descriptorWorld wideStep)).1 := by
    decide +kernel
  constructor
  · rcases runs :
        (apply descriptorPath false).exec plainMachine (descriptorWorld wideStep)
      with ⟨outcome, after⟩
    rw [runs] at goesThrough
    obtain ⟨bytes, mode, had, -, has⟩ := (apply_all_or_nothing rooted runs).1 goesThrough
    exact ⟨bytes, mode, had, has⟩
  · intro step isStep
    have notThrough := stopped step isStep
    rcases runs :
        (apply descriptorPath false).exec (refusingMachine step)
          (descriptorWorld wideStep)
      with ⟨outcome, after⟩
    rw [runs] at notThrough
    exact (apply_all_or_nothing rooted runs).2 notThrough

end Provision.Descriptor
