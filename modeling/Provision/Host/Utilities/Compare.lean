import Provision.Host.Utilities.Print

namespace Provision.Utilities

open Programs

/-!
# Comparing files

Files are compared byte by byte, or line by line with the changes that lead
from one to the other.
-/

/-- Complain about how a utility that compares was called. -/
def misusedComparison (message : Octets) : Act α := do
  Act.complain message
  let name := (← read).name
  Act.complain ("Try '".toList ++ name ++ " --help' for more information.".toList)
  Act.exit 2

/-- The two files that are compared. -/
def comparedOperands (operands : List Octets) : Act (Octets × Octets) := do
  match operands with
  | left :: right :: _ => return (left, right)
  | [only] => misusedComparison ("missing operand after ".toList ++ quotedAlways only)
  | [] =>
      let name := (← read).name
      misusedComparison ("missing operand after ".toList ++ quotedAlways name)

/-- The place of the first difference, or which text ends first. -/
inductive Difference where
  | none
  | atByte (byte line : Nat)
  /-- A text ends behind so many bytes and ends of lines. -/
  | leftEnds (bytes lines : Nat)
  | rightEnds (bytes lines : Nat)
  deriving Repr, DecidableEq

/-- Find the first difference of two texts. -/
def firstDifference : (byte line : Nat) → Octets → Octets → Difference
  | _, _, [], [] => .none
  | byte, line, [], _ :: _ => .leftEnds byte line
  | byte, line, _ :: _, [] => .rightEnds byte line
  | byte, line, c :: left, d :: right =>
      if c == d then
        firstDifference (byte + 1) (if c == '\n' then line + 1 else line) left right
      else
        .atByte (byte + 1) (line + 1)

/-- Numbers of bytes that differ, with the bytes. -/
def allDifferences : (byte : Nat) → Octets → Octets → List (Nat × Char × Char)
  | byte, c :: left, d :: right =>
      let rest := allDifferences (byte + 1) left right
      if c == d then rest else (byte, c, d) :: rest
  | _, _, _ => []

/-- A number in octal digits, with blanks in front. -/
def octalColumn (c : Char) : Octets :=
  let digits := Nat.toDigits 8 c.toNat
  List.replicate (3 - digits.length) ' ' ++ digits

/-- Compare two files byte by byte. -/
def cmp : Utility := fun _ arguments => do
  let switches := [
    Switch.short 's' "quiet" .alone, Switch.short 'l' "verbose" .alone,
    Switch.short 'b' "print-bytes" .alone, Switch.short 'n' "bytes" .withValue,
    Switch.short 'i' "ignore-initial" .withValue, Switch.long "silent" .alone]
  let call ←
    match readArguments switches true (arguments.length + 1) arguments {} with
    | .ok call => pure call
    | .error message => misusedComparison message
  let silent := call.has "s" || call.has "silent"
  let (left, right) ←
    match call.operands with
    | [only] => do pure (only, ['-'])
    | operands => comparedOperands operands
  let usual := ((call.value? "i").bind scaledCount?).getD 0
  let skipped (index : Nat) : Nat := (call.operands[index]?.bind scaledCount?).getD usual
  let content (operand : Octets) : Act Octets := do
    match ← Act.readOperand operand with
    | .ok text => return text
    | .error reason => do
        unless silent do
          Act.complain (operand ++ ": ".toList ++ reason.words.toList)
        Act.exit 2
  let cut (skipped : Nat) (text : Octets) : Octets :=
    let text := text.drop skipped
    match (call.value? "n").bind scaledCount? with
    | some count => text.take count
    | none => text
  let leftText := cut (skipped 2) (← content left)
  let rightText := cut (skipped 3) (← content right)
  let difference := firstDifference 0 0 leftText rightText
  if difference == .none then
    return 0
  else if silent then
    return 1
  else
    let number (number : Nat) : Octets := (toString number).toList
    let complainEnd (name text : Octets) (bytes lines : Nat) : Act Unit :=
      let place :=
        if text.isEmpty then " which is empty".toList
        else if call.has "l" then " after byte ".toList ++ number bytes
        else if endsLine text then
          " after byte ".toList ++ number bytes ++ ", line ".toList ++ number lines
        else
          " after byte ".toList ++ number bytes ++ ", in line ".toList ++ number (lines + 1)
      Act.complain ("EOF on ".toList ++ name ++ place)
    if call.has "l" then
      for (byte, c, d) in allDifferences 1 leftText rightText do
        Act.printLine (number byte ++ ' ' :: octalColumn c ++ ' ' :: octalColumn d)
    match difference with
    | .none => pure ()
    | .atByte byte line =>
        unless call.has "l" do
          Act.printLine (left ++ ' ' :: right ++ " differ: char ".toList ++ number byte ++
            ", line ".toList ++ number line)
    | .leftEnds bytes lines => complainEnd left leftText bytes lines
    | .rightEnds bytes lines => complainEnd right rightText bytes lines
    return 1

/-! ## Changes of lines -/

/-- A step from the lines of one file to those of another. -/
inductive LineStep where
  | same
  | removed (line : Octets)
  | added (line : Octets)
  deriving Repr, DecidableEq

/-- The row of lengths of common lines for one more line on the left. -/
def lengthsRow (line : Octets) : List Octets → List Nat → List Nat
  | [], _ => [0]
  | other :: others, next =>
      let row := lengthsRow line others (next.drop 1)
      let behind := row.head?.getD 0
      let length :=
        if line == other then (next.drop 1).head?.getD 0 + 1
        else max behind (next.head?.getD 0)
      length :: row

/-- For each rest of the left lines, the lengths of common lines with each rest of the right. -/
def lengthsTable (right : List Octets) : List Octets → List (List Nat)
  | [] => [List.replicate (right.length + 1) 0]
  | line :: rest =>
      let table := lengthsTable right rest
      lengthsRow line right (table.head?.getD []) :: table

/-- The steps from lines on the left to lines on the right that keep the most lines. -/
def lineSteps : (fuel : Nat) → (table : List (List Nat)) → List Octets → List Octets →
    List LineStep
  | 0, _, _, _ => []
  | _ + 1, _, [], right => right.map .added
  | _ + 1, _, left, [] => left.map .removed
  | fuel + 1, table, line :: left, other :: right =>
      let row := table.head?.getD []
      let next := (table.drop 1).head?.getD []
      if line == other then
        .same :: lineSteps fuel ((table.drop 1).map (List.drop 1)) left right
      else if (row.drop 1).head?.getD 0 ≤ next.head?.getD 0 then
        .removed line :: lineSteps fuel (table.drop 1) left (other :: right)
      else
        .added other :: lineSteps fuel (table.map (List.drop 1)) (line :: left) right

/-- Lines that are replaced by others, with the numbers of the lines in front of them. -/
structure LineChange where
  leftStart : Nat
  rightStart : Nat
  removed : List Octets
  added : List Octets
  deriving Repr, DecidableEq

/-- Put steps together to changes. -/
def lineChanges : (left right : Nat) → (present : Option LineChange) → List LineStep →
    List LineChange
  | _, _, present, [] => present.toList
  | left, right, present, .same :: rest =>
      present.toList ++ lineChanges (left + 1) (right + 1) none rest
  | left, right, present, .removed line :: rest =>
      let change := present.getD ⟨left, right, [], []⟩
      lineChanges (left + 1) right (some { change with removed := change.removed ++ [line] }) rest
  | left, right, present, .added line :: rest =>
      let change := present.getD ⟨left, right, [], []⟩
      lineChanges left (right + 1) (some { change with added := change.added ++ [line] }) rest

/-- A range of line numbers. -/
def lineRange (start count : Nat) : Octets :=
  if count == 0 then (toString start).toList
  else if count == 1 then (toString (start + 1)).toList
  else (toString (start + 1) ++ "," ++ toString (start + count)).toList

/-- A line as it is shown in a change. -/
def changedLine (sign : Char) (line : Octets) : Octets :=
  sign :: ' ' :: line ++ if endsLine line then [] else "\n\\ No newline at end of file\n".toList

/-- A change as it is shown. -/
def LineChange.shown (change : LineChange) : Octets :=
  let letter := if change.removed.isEmpty then 'a' else if change.added.isEmpty then 'd' else 'c'
  let between :=
    if change.removed.isEmpty || change.added.isEmpty then [] else "---\n".toList
  lineRange change.leftStart change.removed.length ++
    letter :: lineRange change.rightStart change.added.length ++ ['\n'] ++
    change.removed.flatMap (changedLine '<') ++ between ++ change.added.flatMap (changedLine '>')

/-- Compare two files line by line. -/
def diff : Utility := fun _ arguments => do
  let switches := plainSwitches "abBcdeEinNprtTuwyZ" ++ [
    Switch.short 'q' "brief" .alone, Switch.short 's' "report-identical-files" .alone,
    Switch.short 'U' "unified" .withValue, Switch.long "color" .maybeValue]
  let call ←
    match readArguments switches true (arguments.length + 1) arguments {} with
    | .ok call => pure call
    | .error message => misusedComparison message
  let (left, right) ← comparedOperands call.operands
  let content (operand other : Octets) : Act (Octets × Octets) := do
    let path :=
      if (← Act.isDirectory operand) && operand != ['-'] then
        operand ++ '/' :: baseName other []
      else
        operand
    match ← Act.readOperand path with
    | .ok text => return (path, text)
    | .error reason => do
        Act.complain (path ++ ": ".toList ++ reason.words.toList)
        Act.exit 2
  let (leftName, leftText) ← content left right
  let (rightName, rightText) ← content right left
  let names (words : String) : Octets :=
    "Files ".toList ++ leftName ++ " and ".toList ++ rightName ++ words.toList
  if leftText == rightText then
    if call.has "s" then
      Act.printLine (names " are identical")
    return 0
  else if call.has "q" then
    Act.printLine (names " differ")
    return 1
  else
    let leftLines := wholeLines leftText
    let rightLines := wholeLines rightText
    let steps := lineSteps (leftLines.length + rightLines.length + 1)
      (lengthsTable rightLines leftLines) leftLines rightLines
    Act.print ((lineChanges 0 0 none steps).flatMap LineChange.shown)
    return 1

end Provision.Utilities
