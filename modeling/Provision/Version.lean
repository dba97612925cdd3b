import Provision.Unicode.Classes
import Provision.Text.Basic

namespace Provision

/-!
# Versions

Versions have three components, each below 2^64, and are ordered component by
component. They are written with points between the components.
-/

/-- A version `major.minor.patch`. -/
structure Version where
  major : Nat
  minor : Nat
  patch : Nat
  deriving Repr, DecidableEq

namespace Version

/-- Components of a version are below this bound. -/
def componentBound : Nat := UInt64.size

/-- Components of a version, in the order that matters. -/
def components (version : Version) : List Nat :=
  [version.major, version.minor, version.patch]

/-- Whether a version is older than another one. -/
def isOlder (left right : Version) : Bool :=
  left.components < right.components

/-- A version as users read and write it. -/
def shown (version : Version) : String :=
  toString version.major ++ "." ++ toString version.minor ++ "." ++
    toString version.patch

/-- A component of a version, as messages name it. -/
inductive Component where
  | major
  | minor
  | patch
  deriving Repr, DecidableEq

/-- Name of a component. -/
def Component.name : Component → String
  | major => "major"
  | minor => "minor"
  | patch => "patch"

/-- Why a text is no version. -/
inductive ParseError where
  | missing (component : Component) (source : String)
  | invalid (component : Component) (source : String)
  | tooMany (source : String)
  deriving Repr, DecidableEq

/-- Message for users; the text is quoted as it was given. -/
def ParseError.message : ParseError → String
  | missing component source => "missing " ++ component.name ++ " in '" ++ source ++ "'"
  | invalid component source => "invalid " ++ component.name ++ " in '" ++ source ++ "'"
  | tooMany source => "too many components in '" ++ source ++ "'"

/-- Value of a digit. -/
def digitValue (c : Char) : Nat :=
  c.toNat - '0'.toNat

/-- Value of a run of digits. -/
def numberValue (digits : Text) : Nat :=
  digits.foldl (fun value digit => value * 10 + digitValue digit) 0

/-- Value of a non-empty run of ASCII digits, if it is a component. -/
def digitsComponent? (digits : Text) : Option Nat :=
  if digits.isEmpty || !digits.all Char.isDigit then
    none
  else if numberValue digits < componentBound then
    some (numberValue digits)
  else
    none

/-- Value of a written component; a plus sign may stand in front. -/
def component? : Text → Option Nat
  | '+' :: digits => digitsComponent? digits
  | digits => digitsComponent? digits

/-- Read one component off the front of the pieces. -/
def takeComponent
    (source : String)
    (component : Component) :
    List Text → Except ParseError (Nat × List Text)
  | [] => .error (.missing component source)
  | piece :: rest =>
      match component? piece with
      | some value => .ok (value, rest)
      | none => .error (.invalid component source)

/-- Read a version; white space around it is passed over. -/
def parse (source : String) : Except ParseError Version := do
  let pieces := Text.splitOn '.' (Text.trimBy Unicode.isWhitespace source.toList)
  let (major, pieces) ← takeComponent source .major pieces
  let (minor, pieces) ← takeComponent source .minor pieces
  let (patch, pieces) ← takeComponent source .patch pieces
  if pieces.isEmpty then
    .ok ⟨major, minor, patch⟩
  else
    .error (.tooMany source)

/-- The version that a text writes, if it writes one. -/
def parse? (source : String) : Option Version :=
  (parse source).toOption

/-- The newest of some versions. -/
def newest? : List Version → Option Version
  | [] => none
  | version :: rest =>
      match newest? rest with
      | none => some version
      | some other => if other.isOlder version then some version else some other

/-- Put a version into its place in an ascending list. -/
def insertSorted (version : Version) : List Version → List Version
  | [] => [version]
  | other :: rest =>
      if version.isOlder other then
        version :: other :: rest
      else
        other :: insertSorted version rest

/-- Versions in ascending order, repetitions kept. -/
def sort (versions : List Version) : List Version :=
  versions.foldl (fun sorted version => insertSorted version sorted) []

end Version

end Provision
