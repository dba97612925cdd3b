import Provision.CommandLine.Parse
import Provision.Commands.Perform
import Provision.Disk.Changes

namespace Provision.Console

/-!
# The command line

The files that a request can be about are read, the request is performed on
them, and the files that changed are written. Programs that lie on the search
path are seen, but none is started.
-/

/-- The runner that starts no command. -/
def noCommands (world : World) (_ : Invocation) : Reply where
  outcome := .error .permissionDenied
  disk := world.disk

/-- Programs by which the presence of tools is told. -/
def programNames (platform : Platform) : List String :=
  Tool.all.map platform.executable ++ Qt.qmakeNames ++ [Platform.packageManager]

/-- Take a node into a disk if the system has a file at the path. -/
def seen (disk : Disk) (dir : Location) (path : Path) (node : IO Node) : IO Disk := do
  try
    return disk.createAll dir [(path, ← node)]
  catch _ =>
    return disk

/-- A file of the system as a plain file. -/
def plainFile (path : Path) : IO Node := do
  return .file (← IO.FS.readBinFile path.text).toList Disk.createdMode

/-- A file of the system as a program, whose contents do not matter. -/
def programFile (path : Path) : IO Node :=
  IO.FS.withFile path.text .read fun _ => return .file [] LaunchScript.programMode

/-- What the system tells about where the program runs. -/
structure Surroundings where
  dir : Location
  searchPath : String
  home : Option Path
  project : Option String

/-- Look at where the program runs. -/
def surroundings : IO Surroundings := do
  let dir ← IO.currentDir
  return {
    dir := Path.plainLocation dir.toString []
    searchPath := (← IO.getEnv "PATH").getD ""
    home := (← IO.getEnv "HOME").map Path.ofText
    project := ← IO.getEnv "NETTER_PROJECT_DIR" }

/-- The environment of the process, as far as a run looks at it. -/
def Surroundings.environment (around : Surroundings) : Snapshot :=
  .ofList [("PATH", around.searchPath)]

/-- The machine of the system. -/
def Surroundings.machine (around : Surroundings) : Machine where
  runner := noCommands
  directory := around.dir
  home := around.home

/-- The path of the project directory, links resolved by the system. -/
def projectPath (around : Surroundings) (request : CommandLine.Request) : IO Path := do
  let path := request.project.getD (Path.ofLocation around.dir)
  try
    return .ofText (← IO.FS.realPath path.text).toString
  catch _ =>
    return path

/-- The disk with the programs of the search path. -/
def withPrograms (around : Surroundings) (disk : Disk) : IO Disk :=
  (SearchList.entries around.searchPath).foldlM
    (fun disk entry =>
      (programNames .unix).foldlM
        (fun disk name => seen disk around.dir (entry.child name) (programFile (entry.child name)))
        disk)
    disk

/-- The disk with the files that a request about a project can be about. -/
def load (around : Surroundings) (project : Path) : IO Disk := do
  let whole := Disk.empty.createAll around.dir [(project, .directory)]
  let disk ← withPrograms around whole
  let settings := project.child settingsFile
  let disk ← seen disk around.dir settings (plainFile settings)
  let world : World := { disk := disk, environment := around.environment }
  let (loaded, _) := ((Project.load (some project)).run.run around.machine).run world
  let disk ←
    match loaded with
    | .ok loaded => seen disk around.dir loaded.descriptor (plainFile loaded.descriptor)
    | .error _ => pure disk
  match around.home with
  | some home =>
      let profile := Persistence.userProfile home
      seen disk around.dir profile (plainFile profile)
  | none => return disk

/-- Write a file that changed; a program may be run by everyone. -/
def store (change : Disk.FileChange) : IO Unit := do
  let path := (Path.ofLocation change.location).text
  match change.file with
  | none => IO.FS.removeFile path
  | some (content, mode) =>
      IO.FS.writeBinFile path ⟨content.toArray⟩
      if isExecutableMode mode then
        let all : IO.AccessRight := { read := true, execution := true }
        IO.setAccessRights path ⟨{ all with write := true }, all, all⟩

/-- Report why a request failed, and what can be done about it. -/
def report (failure : Failure) : IO Unit := do
  IO.eprintln ("Error: " ++ failure.message)
  if let some help := failure.help? then
    IO.eprintln ("  help: " ++ help)

/-- Perform a request on the files of the system. Answers the exit code. -/
def serve (around : Surroundings) (request : CommandLine.Request) : IO UInt32 := do
  let project ← projectPath around request
  let disk ← load around project
  let world : World := { disk := disk, environment := around.environment }
  let request :=
    if request.project.isSome then { request with project := some project } else request
  let (result, after) := ((Commands.perform .unix request).run.run around.machine).run world
  (disk.changes after.disk).forM store
  IO.print after.out
  IO.eprint after.err
  for warning in after.warnings do
    IO.eprintln ("WARN " ++ warning.shown)
  match result with
  | .ok () => return 0
  | .error failure =>
      report failure
      return 1

/-- How the program is called. -/
def usage : String :=
  "Usage: netter-setup [--project DIR] [--verbose] COMMAND [OPTIONS]\n" ++
    "Commands: setup, check, resolve, patch, script, version, completions"

end Provision.Console

open Provision in
/-- Read the command line and perform the request on it. -/
def main (arguments : List String) : IO UInt32 := do
  let around ← Console.surroundings
  match CommandLine.parse arguments around.project with
  | .ok request => Console.serve around request
  | .error error =>
      if error.exitCode = 0 then
        IO.println Console.usage
      else
        IO.eprintln Console.usage
      return error.exitCode.toUInt32
