import Provision.Descriptor.Apply
import Provision.Proofs.Disk.Replacement
import Provision.Proofs.Run.Steps

namespace Provision.Descriptor

/-!
# Replacing the contents of a file

A replacement that succeeds changes the file at a path and nothing else; the
file keeps its permission bits. One that fails leaves every file as it was,
whatever step it fails at.
-/

open Disk Run

variable {machine : Machine} {world after : World} {path temporary : Path}
  {content : Bytes} {reason : SystemError}

section Spare

variable {before : Disk} {place : Location} {oldContent spareContent : Bytes}
  {oldMode spareMode : Nat}

private theorem replaceBy_ok
    (rooted : before.Rooted)
    (had : before.HasFile machine.directory path oldContent oldMode)
    (names : NamesSpare before machine.directory temporary place)
    (spare : Spare before world.disk place spareContent spareMode)
    (succeeds :
      (replaceBy path temporary content).exec machine world = (.ok (), after)) :
    ∃ newPlace,
      TakesPlace before after.disk machine.directory path newPlace content
        oldMode := by
  rw [replaceBy] at succeeds
  obtain ⟨_, filled, writes, rest⟩ := exec_mk_bind_ok succeeds
  have wrote := writeStep_ok writes
  have written := names.write_ok spare wrote
  obtain ⟨mode, asked, reads, rest⟩ := exec_mk_bind_ok rest
  obtain ⟨found, sameDisk⟩ := readStep_ok reads
  rw [(written.beside.hasFile had).mode_eq, Except.ok.injEq] at found
  obtain ⟨_, given, gives, renames⟩ := exec_mk_bind_ok rest
  have gave := writeStep_ok gives
  have ready := names.setMode_ok (sameDisk ▸ written) gave
  rw [← found] at ready
  rw [ExceptT.run_mk] at renames
  have renamed := writeStep_ok renames
  exact names.rename_ok rooted had ready renamed

private theorem replaceBy_error
    (names : NamesSpare before machine.directory temporary place)
    (spare : Spare before world.disk place spareContent spareMode)
    (fails :
      (replaceBy path temporary content).exec machine world =
        (.error reason, after)) :
    Beside before after.disk place := by
  rw [replaceBy] at fails
  rcases exec_mk_bind_error fails with fails | ⟨_, filled, writes, rest⟩
  · exact writeStep_error fails ▸ spare.beside
  have wrote := writeStep_ok writes
  have written := names.write_ok spare wrote
  rcases exec_mk_bind_error rest with fails | ⟨mode, asked, reads, rest⟩
  · exact readStep_error fails ▸ written.beside
  have unchanged := (readStep_ok reads).2 ▸ written
  rcases exec_mk_bind_error rest with fails | ⟨_, given, gives, renames⟩
  · exact writeStep_error fails ▸ unchanged.beside
  have gave := writeStep_ok gives
  have ready := names.setMode_ok unchanged gave
  rw [ExceptT.run_mk] at renames
  exact writeStep_error renames ▸ ready.beside

end Spare

/-- After a replacement, another file stands where the path leads, and nothing else changed. -/
theorem replaceContent_ok
    {oldContent : Bytes}
    {mode : Nat}
    (rooted : world.disk.Rooted)
    (had : world.disk.HasFile machine.directory path oldContent mode)
    (succeeds :
      (replaceContent path content).exec machine world = (.ok (), after)) :
    ∃ place,
      TakesPlace world.disk after.disk machine.directory path place content
        mode := by
  rw [replaceContent, exec_bind] at succeeds
  rcases creates :
      (fileStep fun disk dir => disk.createTemporary dir (directoryOf path)).exec
        machine world with ⟨outcome, created⟩
  rw [creates] at succeeds
  cases outcome with
  | error reason => cases succeeds
  | ok temporary =>
      have made := fileStep_ok creates
      obtain ⟨place, names, spare⟩ := createTemporary_ok made
      rw [exec_bind] at succeeds
      rcases replaces :
          (replaceBy path temporary content).exec machine created
        with ⟨result, replaced⟩
      rw [replaces] at succeeds
      cases result with
      | error reason => cases succeeds
      | ok =>
          cases succeeds
          exact replaceBy_ok rooted had names spare replaces

/-- A replacement that fails leaves every file with its contents. -/
theorem replaceContent_error
    (rooted : world.disk.Rooted)
    (fails :
      (replaceContent path content).exec machine world = (.error reason, after)) :
    ∀ dir other bytes mode,
      world.disk.HasFile dir other bytes mode →
        after.disk.HasFile dir other bytes mode := by
  intro dir other bytes mode had
  rw [replaceContent, exec_bind] at fails
  rcases creates :
      (fileStep fun disk dir => disk.createTemporary dir (directoryOf path)).exec
        machine world with ⟨outcome, created⟩
  rw [creates] at fails
  cases outcome with
  | error reason =>
      cases fails
      exact fileStep_error creates ▸ had
  | ok temporary =>
      have made := fileStep_ok creates
      obtain ⟨place, names, spare⟩ := createTemporary_ok made
      rw [exec_bind] at fails
      rcases replaces :
          (replaceBy path temporary content).exec machine created
        with ⟨result, left⟩
      rw [replaces] at fails
      cases result with
      | ok => cases fails
      | error reason =>
          have beside := replaceBy_error names spare replaces
          rw [exec_bind] at fails
          cases fails
          rcases removes :
              (writeStep fun disk dir => disk.removeFile dir temporary).exec
                machine left with ⟨removed, cleaned⟩
          cases removed with
          | error reason =>
              exact (writeStep_error removes ▸ beside).hasFile had
          | ok =>
              have took := writeStep_ok removes
              have taken := names.removeFile_ok beside took
              have cleared := beside.remove rooted
              rw [← taken] at cleared
              exact cleared.hasFile had

end Provision.Descriptor
