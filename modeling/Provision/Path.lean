import Provision.Encoding.Utf8

namespace Provision

/-!
# Paths

A path is any sequence of bytes, as the system has it; a name on a disk need not
be UTF-8. Nothing is normalised when paths are joined. Two paths may name the
same place: repeated and trailing separators and `.` between names do not count,
so paths are compared by their components. What is printed of a path, or stored
as text, is its lossy reading.
-/

/-- The name of a file in its directory, as the system has it. -/
structure FileName where
  bytes : Bytes
  deriving Repr, DecidableEq

namespace FileName

/-- The name that a text writes. -/
def ofText (text : String) : FileName :=
  ⟨Utf8.encode text.toList⟩

/-- A name as it is shown; what is not UTF-8 is replaced. -/
def text (name : FileName) : String :=
  String.ofList (Utf8.decodeLossy name.bytes)

instance : Coe String FileName :=
  ⟨ofText⟩

/-- Names are in the order of their bytes. -/
instance : LT FileName :=
  ⟨fun left right => left.bytes < right.bytes⟩

instance : DecidableLT FileName :=
  fun left right => inferInstanceAs (Decidable (left.bytes < right.bytes))

end FileName

/-- A path as the system has it. -/
structure Path where
  bytes : Bytes
  deriving Repr, DecidableEq

namespace Path

/-- The path that a text writes. -/
def ofText (text : String) : Path :=
  ⟨Utf8.encode text.toList⟩

/-- A path as it is shown; what is not UTF-8 is replaced. -/
def text (path : Path) : String :=
  String.ofList (Utf8.decodeLossy path.bytes)

/-- Characters of a path as it is shown. -/
def chars (path : Path) : Text :=
  path.text.toList

instance : Coe String Path :=
  ⟨ofText⟩

/-- The byte between the names of a path: a slash. -/
def separator : UInt8 := 0x2F

/-- The byte that stands for a directory itself, and twice for the one above: a dot. -/
def dot : UInt8 := 0x2E

/-- A meaningful part of a path. -/
inductive Component where
  | root
  /-- A leading `.` of a relative path. -/
  | here
  | up
  | name (name : FileName)
  deriving Repr, DecidableEq

/-- Whether a path holds nothing. -/
def isEmpty (path : Path) : Bool :=
  path.bytes.isEmpty

/-- Whether a path starts at the root. -/
def isAbsolute (path : Path) : Bool :=
  path.bytes.head? == some separator

/-- Whether a path ends in a separator. -/
def endsInSeparator (path : Path) : Bool :=
  path.bytes.getLast? == some separator

/-- A path without the separators at its end. -/
def withoutEndSeparators (path : Path) : Path :=
  ⟨(path.bytes.reverse.dropWhile (· == separator)).reverse⟩

/-- What stands between the separators of a path. -/
def pieces (path : Path) : List Bytes :=
  Text.splitOn separator path.bytes

/-- The component that a piece writes after the first place, if it writes one. -/
def pieceComponent? (piece : Bytes) : Option Component :=
  if piece.isEmpty || piece = [dot] then
    none
  else if piece = [dot, dot] then
    some .up
  else
    some (.name ⟨piece⟩)

/-- The components of a path, which alone decide what it names. -/
def components (path : Path) : List Component :=
  match path.pieces with
  | [] => []
  | first :: rest =>
      let lead :=
        if path.isAbsolute then
          [.root]
        else if first = [dot] then
          [.here]
        else
          (pieceComponent? first).toList
      lead ++ rest.filterMap pieceComponent?

/-- Whether two paths name the same place by their components. -/
def sameAs (left right : Path) : Bool :=
  left.components == right.components

/--
A path below another one. An absolute path stands for itself; otherwise one
separator stands between the two, unless the first is empty or ends in one.
-/
def join (base part : Path) : Path :=
  if part.isAbsolute then
    part
  else if base.isEmpty || base.endsInSeparator then
    ⟨base.bytes ++ part.bytes⟩
  else
    ⟨base.bytes ++ separator :: part.bytes⟩

/-- A path below another one, by the name of its last part. -/
def child (base : Path) (name : FileName) : Path :=
  base.join ⟨name.bytes⟩

/-- The name that a path ends in, unless it ends in the root, `.` or `..`. -/
def fileName? (path : Path) : Option FileName :=
  match path.components.getLast? with
  | some (.name name) => some name
  | _ => none

/-- Pieces at the end of a path that stand for no component. -/
def dropSilent (isFirstPlace : Bool) : List Bytes → List Bytes
  | [] => []
  | piece :: rest =>
      let rest := dropSilent false rest
      if rest.isEmpty && (piece.isEmpty || (piece = [dot] && !isFirstPlace)) then
        []
      else
        piece :: rest

/--
The path without its last component, as it is written up to there. The root and
the empty path have no parent.
-/
def parent? (path : Path) : Option Path :=
  let absolute := path.isAbsolute
  let body := dropSilent (!absolute) (if absolute then path.pieces.tail else path.pieces)
  if body.isEmpty then
    none
  else
    let kept := [separator].intercalate (dropSilent (!absolute) body.dropLast)
    some ⟨if absolute then separator :: kept else kept⟩

end Path

end Provision
