import Provision.Disk.Files
import Provision.Host.Utilities.Numerals

namespace Provision.Utilities

/-!
# Permissions in words

A change of permissions says whose permissions it is about, whether they are
added, taken or set, and which they are. Changes are carried out in turn.
-/

/-- Why a change of permissions cannot be read. -/
inductive PermissionProblem where
  | operator (c : Option Char)
  | letter (c : Char)
  deriving Repr, DecidableEq

namespace Permissions

/-- All permission bits, those for running as somebody else included. -/
def allBits : Nat := 0o7777

/-- Bits of those whom a letter names. -/
def whomOf : Char → Nat
  | 'u' => 0o4700
  | 'g' => 0o2070
  | 'o' => 0o1007
  | _ => allBits

/-- Some bits without others. -/
def without (bits others : Nat) : Nat :=
  bits - (bits &&& others)

/-- The bits that a letter stands for, where some bits are present. -/
def bitsOf (isDirectory : Bool) (present : Nat) : Char → Option Nat
  | 'r' => some 0o444
  | 'w' => some 0o222
  | 'x' => some 0o111
  | 'X' => some (if isDirectory || present &&& executeBits != 0 then executeBits else 0)
  | 's' => some 0o6000
  | 't' => some 0o1000
  | 'u' => some (present / 64 % 8 * 0o111)
  | 'g' => some (present / 8 % 8 * 0o111)
  | 'o' => some (present % 8 * 0o111)
  | _ => none

/-- Whether a character begins a change. -/
def isSign (c : Char) : Bool :=
  c == '+' || c == '-' || c == '='

/-- What a change is about. -/
structure Subject where
  whom : Nat
  /-- Whether the change names whom it is about. -/
  isNamed : Bool
  isDirectory : Bool
  deriving Repr, DecidableEq

/-- Carry out changes for the same people, each a sign with letters. -/
def changeBits (subject : Subject) :
    (fuel : Nat) → (present : Nat) → Text → Except PermissionProblem Nat
  | 0, present, _ => .ok present
  | _ + 1, present, [] => .ok present
  | fuel + 1, present, sign :: rest => do
      if !isSign sign then
        .error (.operator (some sign))
      let letters := rest.takeWhile fun c => !isSign c
      let bits ← letters.foldlM (fun found c =>
        match bitsOf subject.isDirectory present c with
        | some bits => .ok (found ||| bits)
        | none => .error (.letter c)) 0
      let bits := bits &&& subject.whom
      let changed :=
        match sign with
        | '+' => present ||| bits
        | '-' => without present bits
        | _ => if subject.isNamed then without present subject.whom ||| bits else bits
      changeBits subject fuel changed (rest.drop letters.length)

/-- Carry out changes of permissions; `mask` is what changes for nobody in particular omit. -/
def changeAll (mask : Nat) (isDirectory : Bool) :
    List Text → (present : Nat) → Except PermissionProblem Nat
  | [], present => .ok present
  | clause :: rest, present => do
      let letters := clause.takeWhile fun c => ['u', 'g', 'o', 'a'].contains c
      let changes := clause.drop letters.length
      if changes.isEmpty then
        .error (.operator none)
      let subject : Subject := {
        whom :=
          if letters.isEmpty then without allBits mask
          else letters.foldl (fun found c => found ||| whomOf c) 0
        isNamed := !letters.isEmpty
        isDirectory := isDirectory }
      let changed ← changeBits subject (clause.length + 1) present changes
      changeAll mask isDirectory rest changed

/-- The permissions after a change that a text writes, in digits or in letters. -/
def changed (mask : Nat) (isDirectory : Bool) (text : Text) (present : Nat) :
    Except PermissionProblem Nat :=
  let digits := if text.head?.any isSign then text.drop 1 else text
  if !digits.isEmpty && digits.all (fun c => '0' ≤ c && c ≤ '7') then
    let bits := (spanDigits 8 digits).1
    if bits ≤ allBits then
      match text.head? with
      | some '+' => .ok (present ||| bits)
      | some '-' => .ok (without present bits)
      | _ => .ok bits
    else
      .error (.operator none)
  else
    changeAll mask isDirectory (Text.splitOn ',' text) present

/-- Letters of the permissions in three bits. -/
def letters (bits : Nat) : Text :=
  (if bits &&& 4 != 0 then ['r'] else []) ++ (if bits &&& 2 != 0 then ['w'] else []) ++
    (if bits &&& 1 != 0 then ['x'] else [])

/-- Letters of all permissions, as files are listed with them. -/
def modeLetters (mode : Nat) : Text :=
  let three (bits : Nat) (special : Bool) (letter : Char) : Text :=
    let flag (bit : Nat) (c : Char) : Char := if bits &&& bit != 0 then c else '-'
    let last :=
      if special then (if bits &&& 1 != 0 then letter else letter.toUpper) else flag 1 'x'
    [flag 4 'r', flag 2 'w', last]
  three (mode / 64 % 8) (mode &&& 0o4000 != 0) 's' ++
    three (mode / 8 % 8) (mode &&& 0o2000 != 0) 's' ++
    three (mode % 8) (mode &&& 0o1000 != 0) 't'

end Permissions

end Provision.Utilities
