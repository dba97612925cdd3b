import Provision.Descriptor.Decoding
import Provision.Descriptor.Patch
import Provision.Disk.Files
import Provision.Run.Console

namespace Provision.Descriptor

/-!
# Patching a descriptor file

A descriptor is read in whatever encoding it has and written as UTF-8. The new
contents go to a temporary file beside it, which then takes its place in one
step; so the file holds the old contents until it holds the new ones, and keeps
its permission bits.
-/

/-- A descriptor that was read from a file. -/
structure Source where
  path : Path
  text : Text
  encoding : Encoding
  deriving Repr, DecidableEq

/-- Read a descriptor file. -/
def Source.read (path : Path) : Attempt Source := do
  unless ← Run.isFile path do
    throw (.fileNotFound path.text)
  let bytes ←
    Attempt.orFail
      (fun reason => .fileUnreadable path.text reason.message)
      (Run.readStep fun disk dir => disk.read dir path)
  let (text, encoding) := decode bytes
  return ⟨path, text, encoding⟩

/-- The directory that holds the file at a path. -/
def directoryOf (path : Path) : Path :=
  match path.parent? with
  | some dir => if dir.isEmpty then "." else dir
  | none => "."

/-- Write a temporary file and give it the place and the permission bits of another file. -/
def replaceBy (path temporary : Path) (content : Bytes) : Run (Except SystemError Unit) :=
  ExceptT.run do
    ExceptT.mk (Run.writeStep fun disk dir => disk.write dir temporary content)
    let mode ← ExceptT.mk (Run.readStep fun disk dir => disk.mode dir path)
    ExceptT.mk (Run.writeStep fun disk dir => disk.setMode dir temporary mode)
    ExceptT.mk (Run.writeStep fun disk dir => disk.rename dir temporary path)

/-- Replace the contents of a file in one step; its permission bits stay. -/
def replaceContent (path : Path) (content : Bytes) : Run (Except SystemError Unit) := do
  match ← Run.fileStep fun disk dir => disk.createTemporary dir (directoryOf path) with
  | .error reason => return .error reason
  | .ok temporary =>
      match ← replaceBy path temporary content with
      | .ok () => return .ok ()
      | .error reason =>
          let _ ← Run.writeStep fun disk dir => disk.removeFile dir temporary
          return .error reason

/-- Write a text over a descriptor, as UTF-8. -/
def Source.write (source : Source) (text : Text) : Attempt Unit :=
  Attempt.orFail
    (fun reason => .fileUnwritable source.path.text reason.message)
    (replaceContent source.path (Utf8.encode text))

/-- What users call the file at a path. -/
def shownName (path : Path) : String :=
  (path.fileName?.map FileName.text).getD path.text

/-- Report the deployment commands of the older form that a patch met. -/
def reportFormer (patch : Patch) : Run Unit := do
  if 1 < patch.formerCommands then
    Run.caution
      ("Found " ++ toString patch.formerCommands ++
        " legacy deployment commands; only the last one is replaced")
  else if patch.formerCommands = 1 ∧ patch.outcome = .patched then
    Run.inform "Replacing legacy deployment command"

/-- Read and patch the descriptor at a path; write it unless this is a dry run. -/
def apply (path : Path) (dryRun : Bool) : Attempt Patch := do
  let source ← Source.read path
  let name := shownName path
  Run.inform (name ++ " successfully read with encoding " ++ source.encoding.name)
  let patch := patch source.text
  reportFormer patch
  match patch.outcome with
  | .alreadyPatched => Run.confirm (name ++ " already updated")
  | .anchorMissing =>
      Run.caution
        ("Could not find a suitable place in " ++ name ++ " for updating (no " ++
          String.ofList linkKeyword ++ " block)")
  | .patched =>
      if dryRun then
        Run.inform (name ++ " would be updated (dry run)")
      else
        source.write patch.text
        Run.confirm (name ++ " updated with automatic deployment settings")
  return patch

end Provision.Descriptor
