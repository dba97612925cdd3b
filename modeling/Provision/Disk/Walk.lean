import Provision.Disk.Basic

namespace Provision

/-!
# Walking along paths

A path leads to a location name by name. A symbolic link on the way is replaced
by its target, and a walk that meets too many links is given up. Only the last
name of a path may be missing; then the path leads to the place where it could
be created.
-/

/-- One piece of a path on a walk. -/
inductive PathStep where
  /-- Stay in the directory that was reached. -/
  | stay
  | up
  | enter (name : FileName)
  deriving Repr, DecidableEq

/-- The step that a piece of a path asks for. -/
def PathStep.ofPiece (piece : Bytes) : PathStep :=
  if piece.isEmpty || piece = [Path.dot] then .stay
  else if piece = [Path.dot, Path.dot] then .up
  else .enter ⟨piece⟩

/-- The steps of a path. -/
def Path.steps (path : Path) : List PathStep :=
  path.pieces.map PathStep.ofPiece

namespace Disk

/-- How many bytes a name has at most. -/
def nameLimit : Nat := 255

/-- Every path has fewer bytes. -/
def pathLimit : Nat := 4096

/-- Where a walk along the names of a path comes to. -/
inductive Stop where
  /-- The walk is over; nothing need be stored at the location. -/
  | arrived (location : Location)
  /-- A link, found in a directory, has to be followed before the rest. -/
  | atLink (dir : Location) (target : Path) (rest : List PathStep)
  | failed (reason : SystemError)
  deriving Repr, DecidableEq

/-- Whether a link that a walk meets is followed. -/
inductive LastLink where
  | followed
  /-- A link at the end of the path stands for itself. -/
  | kept
  deriving Repr, DecidableEq

/-- Walk on from a location up to the next link. -/
def advance (disk : Disk) (last : LastLink) (location : Location) : List PathStep → Stop
  | [] => .arrived location
  | step :: rest =>
      match disk.node? location with
      | none => .failed .notFound
      | some (.file ..) => .failed .notADirectory
      | some (.link _) => .failed .notADirectory
      | some (.device _) => .failed .notADirectory
      | some .directory =>
          match step with
          | .stay => advance disk last location rest
          | .up => advance disk last location.dropLast rest
          | .enter name =>
              let next := location ++ [name]
              if nameLimit < name.bytes.length then
                .failed .nameTooLong
              else
                match disk.node? next with
                | some (.link target) =>
                    if rest.isEmpty && last == .kept then
                      .arrived next
                    else
                      .atLink location target rest
                | _ => advance disk last next rest

/-- How many links a walk follows. -/
def linkLimit : Nat := 40

/-- Where a path starts that is found in a directory. -/
def startOf (dir : Location) (path : Path) : Location :=
  if path.isAbsolute then [] else dir

/-- Walk to the end of the steps, following at most `links` links. -/
def walk (disk : Disk) (last : LastLink) :
    (links : Nat) → Location → List PathStep → Except SystemError Location
  | links, location, steps =>
      match disk.advance last location steps with
      | .arrived location => .ok location
      | .failed reason => .error reason
      | .atLink dir target rest =>
          match links with
          | 0 => .error .tooManyLinks
          | links + 1 =>
              if target.isEmpty then
                .error .notFound
              else
                walk disk last links (startOf dir target) (target.steps ++ rest)

/-- The location that a path leads to from a directory. -/
def locate
    (disk : Disk)
    (last : LastLink)
    (dir : Location)
    (path : Path) :
    Except SystemError Location :=
  if path.isEmpty then
    .error .notFound
  else if path.bytes.contains 0 then
    .error .pathHoldsNul
  else if pathLimit ≤ path.bytes.length then
    .error .nameTooLong
  else
    disk.walk last linkLimit (startOf dir path) path.steps

/-- The node that a path leads to, links followed. -/
def target? (disk : Disk) (dir : Location) (path : Path) : Option Node :=
  match disk.locate .followed dir path with
  | .ok location => disk.node? location
  | .error _ => none

/-- Whether a path leads to a regular file. -/
def isFile (disk : Disk) (dir : Location) (path : Path) : Bool :=
  match disk.target? dir path with
  | some (.file ..) => true
  | _ => false

/-- Whether a path leads to a directory. -/
def isDirectory (disk : Disk) (dir : Location) (path : Path) : Bool :=
  disk.target? dir path == some .directory

/-- Whether a path leads to a regular file that may be run. -/
def isProgram (disk : Disk) (dir : Location) (path : Path) : Bool :=
  match disk.target? dir path with
  | some (.file _ mode) => isExecutableMode mode
  | _ => false

end Disk

end Provision
