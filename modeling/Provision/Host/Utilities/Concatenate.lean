import Provision.Host.Utilities.Print

namespace Provision.Utilities

open Programs

/-!
# Utilities that show inputs or parts of them

Inputs are shown whole, from their beginnings, up to their ends, or counted.
-/

/-- How a utility shows lines. -/
structure LineStyle where
  numbers : Bool := false
  /-- Whether only lines with something on them are numbered. -/
  numbersFull : Bool := false
  squeezes : Bool := false
  showsEnds : Bool := false
  showsTabs : Bool := false
  showsHidden : Bool := false
  deriving Repr, DecidableEq

/-- A character as it is shown where everything is to be seen. -/
def visible (c : Char) : Octets :=
  let plain (c : Char) : Octets :=
    if c < ' ' then ['^', Char.ofNat (c.toNat + 64)]
    else if c == '\x7f' then ['^', '?']
    else [c]
  if c == '\t' || c == '\n' then [c]
  else if c.toNat < 128 then plain c
  else 'M' :: '-' :: plain (Char.ofNat (c.toNat - 128))

/-- What has been shown: the number of the latest line, and whether it was empty. -/
structure ShownLines where
  number : Nat := 0
  wasEmpty : Bool := false
  deriving Repr, DecidableEq

/-- Show a line, with what ends it. -/
def showLine (style : LineStyle) (shown : ShownLines) (line : Octets) : Octets × ShownLines :=
  let isEmpty := line == ['\n']
  if style.squeezes && isEmpty && shown.wasEmpty then
    ([], shown)
  else
    let counts := if style.numbersFull then !isEmpty else style.numbers
    let number := if counts then shown.number + 1 else shown.number
    let front := if counts then aligned 6 number ++ ['\t'] else []
    let text := line.filter (· != '\n')
    let text := if style.showsHidden then text.flatMap visible else text
    let text :=
      if style.showsTabs then text.flatMap fun c => if c == '\t' then "^I".toList else [c]
      else text
    let ending := if endsLine line then (if style.showsEnds then ['$', '\n'] else ['\n']) else []
    (front ++ text ++ ending, ⟨number, isEmpty⟩)

/-- Show inputs one after the other. -/
def cat : Utility := fun _ arguments => do
  let switches := [
    Switch.short 'A' "show-all" .alone, Switch.short 'b' "number-nonblank" .alone,
    Switch.short 'e' "" .alone, Switch.short 'E' "show-ends" .alone,
    Switch.short 'n' "number" .alone, Switch.short 's' "squeeze-blank" .alone,
    Switch.short 't' "" .alone, Switch.short 'T' "show-tabs" .alone,
    Switch.short 'u' "" .alone, Switch.short 'v' "show-nonprinting" .alone]
  let call ← Act.arguments switches 1 arguments
  let any (keys : List String) : Bool := keys.any call.has
  let style : LineStyle := {
    numbers := call.has "n"
    numbersFull := call.has "b"
    squeezes := call.has "s"
    showsEnds := any ["A", "e", "E"]
    showsTabs := any ["A", "t", "T"]
    showsHidden := any ["A", "e", "t", "v"] }
  if style == {} then
    forEachInput call.operands fun _ text => Act.print text
  else
    let mut shown : ShownLines := {}
    let mut code := 0
    for operand in if call.operands.isEmpty then [['-']] else call.operands do
      match ← Act.readOperand operand with
      | .ok text =>
          for line in wholeLines text do
            let (text, next) := showLine style shown line
            shown := next
            Act.print text
      | .error reason =>
          code := 1
          Act.complainName operand reason
    return code

/-- How much of an input is shown. -/
inductive Portion where
  | lines (count : Nat)
  /-- All but some lines at the other end. -/
  | allButLines (count : Nat)
  | bytes (count : Nat)
  | allButBytes (count : Nat)
  deriving Repr, DecidableEq

/-- The beginning of a text. -/
def Portion.head (portion : Portion) (text : Octets) : Octets :=
  match portion with
  | lines count => ((wholeLines text).take count).flatten
  | allButLines count =>
      let all := wholeLines text
      (all.take (all.length - count)).flatten
  | bytes count => text.take count
  | allButBytes count => text.take (text.length - count)

/-- The end of a text; where something is left out, it is left out at the beginning. -/
def Portion.tail (portion : Portion) (text : Octets) : Octets :=
  match portion with
  | lines count =>
      let all := wholeLines text
      (all.drop (all.length - count)).flatten
  | allButLines count => ((wholeLines text).drop (count - 1)).flatten
  | bytes count => text.drop (text.length - count)
  | allButBytes count => text.drop (count - 1)

/-- Show a portion of each input, under its name where there are several. -/
def showPortions (call : Arguments) (cut : Octets → Octets) (quiet verbose : Bool) :
    Act Nat := do
  let operands := if call.operands.isEmpty then [['-']] else call.operands
  let showsNames := verbose || (1 < operands.length && !quiet)
  let mut code := 0
  let mut isFirst := true
  for operand in operands do
    match ← (if operand == ['-'] then Act.readDescriptor 0 else Act.readFile operand) with
    | .ok text =>
        if showsNames then
          let name := if operand == ['-'] then "standard input".toList else operand
          let gap := if isFirst then [] else ['\n']
          Act.print (gap ++ "==> ".toList ++ name ++ " <==\n".toList)
          isFirst := false
        Act.print (cut text)
    | .error reason =>
        code := 1
        match reason with
        | .isADirectory => Act.complainThat "error reading" operand reason
        | reason =>
            Act.complain ("cannot open ".toList ++ quotedAlways operand ++
              " for reading: ".toList ++ reason.words.toList)
  return code

/-- An option that is only a number, written as an option for lines. -/
def numberOption (arguments : List Octets) : List Octets :=
  match arguments with
  | ('-' :: digit :: digits) :: rest =>
      if digit.isDigit then ['-', 'n'] :: (digit :: digits) :: rest else arguments
  | arguments => arguments

/-- Show the beginnings of inputs. -/
def head : Utility := fun _ arguments => do
  let switches := [
    Switch.short 'c' "bytes" .withValue, Switch.short 'n' "lines" .withValue,
    Switch.short 'q' "quiet" .alone, Switch.short 'v' "verbose" .alone,
    Switch.short 'z' "zero-terminated" .alone]
  let call ← Act.arguments switches 1 (numberOption arguments)
  let read (text : Octets) (part allBut : Nat → Portion) (what : String) : Act Portion := do
    let digits := if text.head? == some '-' then text.drop 1 else text
    match scaledCount? digits with
    | some count => return if digits.length < text.length then allBut count else part count
    | none =>
        Act.fail ("invalid number of ".toList ++ what.toList ++ ": ".toList ++
          quotedAlways text) 1
  let portion ←
    match call.last? ["c", "n"] with
    | some "c" => read ((call.value? "c").getD []) .bytes .allButBytes "bytes"
    | some _ => read ((call.value? "n").getD []) .lines .allButLines "lines"
    | none => pure (.lines 10)
  showPortions call portion.head (call.has "q") (call.has "v")

/-- Show the ends of inputs. -/
def tail : Utility := fun _ arguments => do
  let switches := [
    Switch.short 'c' "bytes" .withValue, Switch.short 'n' "lines" .withValue,
    Switch.short 'q' "quiet" .alone, Switch.short 'v' "verbose" .alone,
    Switch.short 'f' "follow" .maybeValue, Switch.short 'F' "" .alone,
    Switch.short 'z' "zero-terminated" .alone]
  let first :=
    match arguments with
    | ('+' :: digit :: digits) :: rest =>
        if digit.isDigit then ['-', 'n'] :: ('+' :: digit :: digits) :: rest else arguments
    | arguments => numberOption arguments
  let call ← Act.arguments switches 1 first
  let read (text : Octets) (part allBut : Nat → Portion) (what : String) : Act Portion := do
    let signed := text.head? == some '+' || text.head? == some '-'
    match scaledCount? (if signed then text.drop 1 else text) with
    | some count => return if text.head? == some '+' then allBut count else part count
    | none =>
        Act.fail ("invalid number of ".toList ++ what.toList ++ ": ".toList ++
          quotedAlways text) 1
  let portion ←
    match call.last? ["c", "n"] with
    | some "c" => read ((call.value? "c").getD []) .bytes .allButBytes "bytes"
    | some _ => read ((call.value? "n").getD []) .lines .allButLines "lines"
    | none => pure (.lines 10)
  showPortions call portion.tail (call.has "q") (call.has "v")

/-- What is counted in a text. -/
structure Counts where
  lines : Nat := 0
  words : Nat := 0
  bytes : Nat := 0
  /-- The length of the longest line. -/
  longest : Nat := 0
  deriving Repr, DecidableEq

/-- Count what is in a text. -/
def Counts.of (text : Octets) : Counts where
  lines := text.countP (· == '\n')
  words := (Text.wordsBy Matching.CharacterClass.isSpace text).length
  bytes := text.length
  longest := (linesOf text).foldl (fun longest line => max longest line.length) 0

/-- The counts of two texts together. -/
def Counts.add (left right : Counts) : Counts where
  lines := left.lines + right.lines
  words := left.words + right.words
  bytes := left.bytes + right.bytes
  longest := max left.longest right.longest

/-- Whether an operand leads to a regular file, and then its size. -/
def regularSize? (operand : Octets) : Act (Option Nat) := do
  let place? ←
    if operand == ['-'] then do pure ((← read).descriptor? 0)
    else pure none
  match place? with
  | some place =>
      let system ← Act.system
      match system.opened[place]?.map OpenFile.channel with
      | some (.file location) =>
          match system.disk.node? location with
          | some (.file content _) => return some content.length
          | _ => return none
      | _ => return none
  | none =>
      match ← Act.nodeAt .followed operand with
      | .ok (.file content _) => return some content.length
      | _ => return none

/-- Count lines, words and bytes. -/
def wc : Utility := fun _ arguments => do
  let switches := [
    Switch.short 'c' "bytes" .alone, Switch.short 'm' "chars" .alone,
    Switch.short 'l' "lines" .alone, Switch.short 'w' "words" .alone,
    Switch.short 'L' "max-line-length" .alone]
  let call ← Act.arguments switches 1 arguments
  let keys := ["l", "w", "m", "c", "L"].filter call.has
  let keys := if keys.isEmpty then ["l", "w", "c"] else keys
  let operands := if call.operands.isEmpty then [['-']] else call.operands
  let sizes ← operands.mapM regularSize?
  let missing ← operands.mapM fun operand => do
    if operand == ['-'] then return false
    else return !((← Act.nodeAt .followed operand) matches .ok _)
  let total := (sizes.filterMap id).foldl (· + ·) 0
  let hasOther := (sizes.zip missing).any fun (size, isMissing) => size.isNone && !isMissing
  let digits := (toString total).length
  let width :=
    if operands.length == 1 && keys.length == 1 then 1
    else if missing.head? == some true then 1
    else if hasOther then max 7 digits
    else digits
  let line (counts : Counts) (name : Octets) : Octets :=
    let number (key : String) : Nat :=
      match key with
      | "l" => counts.lines
      | "w" => counts.words
      | "L" => counts.longest
      | _ => counts.bytes
    let numbers := joined [' '] (keys.map fun key => aligned width (number key))
    numbers ++ (if name.isEmpty then [] else ' ' :: name) ++ ['\n']
  let mut whole : Counts := {}
  let mut code := 0
  for operand in operands do
    match ← Act.readOperand operand with
    | .ok text =>
        let counts := Counts.of text
        whole := whole.add counts
        Act.print (line counts (if call.operands.isEmpty then [] else operand))
    | .error reason =>
        code := 1
        Act.complainName operand reason
        if reason == .isADirectory then
          Act.print (line {} operand)
  if 1 < operands.length then
    Act.print (line whole "total".toList)
  return code

/-- Copy the input to the output and to files. -/
def tee : Utility := fun _ arguments => do
  let switches := [
    Switch.short 'a' "append" .alone, Switch.short 'i' "ignore-interrupts" .alone,
    Switch.short 'p' "" .alone]
  let call ← Act.arguments switches 1 arguments
  let opening := if call.has "a" then Opening.adding else .writing
  let mut code := 0
  let text ←
    match ← Act.readDescriptor 0 with
    | .ok text => pure text
    | .error reason => do
        Act.complain ("read error: " ++ reason.words).toList
        pure []
  Act.print text
  for operand in call.operands do
    match ← Act.writeFile operand text opening with
    | .ok () => pure ()
    | .error reason =>
        code := 1
        Act.complainName operand reason
  return code

end Provision.Utilities
