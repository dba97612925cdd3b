import Provision.Host.Utilities.Print

namespace Provision.Utilities

open Programs

/-!
# Utilities that rearrange lines

They sort lines, cut columns out of them, join them, or replace their characters.
-/

/-- Where a key of a line begins or ends: a field, and a character of it. -/
structure KeyPlace where
  field : Nat
  character : Nat
  deriving Repr, DecidableEq

/-- How lines are compared. -/
structure Ordering where
  numeric : Bool := false
  reversed : Bool := false
  folds : Bool := false
  skipsBlanks : Bool := false
  onlyWords : Bool := false
  deriving Repr, DecidableEq

/-- A part of lines by which they are sorted. -/
structure SortKey where
  start : KeyPlace
  stop : Option KeyPlace := none
  ordering : Ordering
  deriving Repr, DecidableEq

namespace SortKey

/-- Read a place of a key, with the letters behind it. -/
def readPlace (text : Octets) : Option (KeyPlace × Octets) :=
  let field := text.takeWhile Char.isDigit
  match text.drop field.length with
  | '.' :: rest =>
      let character := rest.takeWhile Char.isDigit
      (count? field).map fun number =>
        (⟨number, (count? character).getD 0⟩, rest.drop character.length)
  | rest => (count? field).map fun number => (⟨number, 0⟩, rest)

/-- The ordering that letters behind a key ask for. -/
def orderingOf (letters : Octets) : Ordering where
  numeric := letters.contains 'n'
  reversed := letters.contains 'r'
  folds := letters.contains 'f'
  skipsBlanks := letters.contains 'b'
  onlyWords := letters.contains 'd'

/-- Read a key; without letters it has the usual ordering. -/
def ofText? (usual : Ordering) (text : Octets) : Option SortKey := do
  let (start, rest) ← readPlace text
  if start.field == 0 then
    none
  else
    let letters := rest.takeWhile (· != ',')
    match rest.drop letters.length with
    | ',' :: rest => do
        let (stop, more) ← readPlace rest
        let all := letters ++ more
        return ⟨start, some stop, if all.isEmpty then usual else orderingOf all⟩
    | _ => some ⟨start, none, if letters.isEmpty then usual else orderingOf letters⟩

end SortKey

/-- The offsets at which the fields of a line begin and end. -/
def fieldSpans (separator : Option Char) : (fuel : Nat) → (offset : Nat) → Octets →
    List (Nat × Nat)
  | 0, _, _ => []
  | fuel + 1, offset, text =>
      match separator with
      | some c =>
          let field := text.takeWhile (· != c)
          let stop := offset + field.length
          match text.drop field.length with
          | _ :: rest => (offset, stop) :: fieldSpans separator fuel (stop + 1) rest
          | [] => [(offset, stop)]
      | none =>
          if text.isEmpty then
            []
          else
            let isBlank (c : Char) : Bool := c == ' ' || c == '\t'
            let blanks := text.takeWhile isBlank
            let word := (text.drop blanks.length).takeWhile fun c => !isBlank c
            let length := blanks.length + word.length
            (offset, offset + length) ::
              fieldSpans separator fuel (offset + length) (text.drop length)

/-- The part of a line that a key takes. -/
def SortKey.part (key : SortKey) (separator : Option Char) (line : Octets) : Octets :=
  let spans := fieldSpans separator (line.length + 2) 0 line
  let start :=
    match spans[key.start.field - 1]? with
    | none => line.length
    | some (start, _) =>
        let blanks :=
          if key.ordering.skipsBlanks then
            ((line.drop start).takeWhile fun c => c == ' ' || c == '\t').length
          else 0
        min line.length (start + blanks + (key.start.character - 1))
  let stop :=
    match key.stop with
    | none => line.length
    | some place =>
        match spans[place.field - 1]? with
        | none => line.length
        | some (start, stop) => if place.character == 0 then stop else start + place.character
  (line.take stop).drop start

/-- The number in front of a text, as parts before and behind its point. -/
def leadingNumber (text : Octets) : Bool × Nat × Octets :=
  let text := text.dropWhile fun c => c == ' ' || c == '\t'
  let negative := text.head? == some '-'
  let digits := if negative then text.drop 1 else text
  let whole := digits.takeWhile Char.isDigit
  let places :=
    match digits.drop whole.length with
    | '.' :: rest => (rest.takeWhile Char.isDigit).reverse.dropWhile (· == '0') |>.reverse
    | _ => []
  (negative, (spanDigits 10 whole).1, places)

/-- Whether a number is less than another one: the sign, the whole part, and the places. -/
def isLess (left right : Bool × Nat × Octets) : Bool :=
  let isZero (number : Bool × Nat × Octets) : Bool := number.2.1 == 0 && number.2.2.isEmpty
  let less (left right : Nat × Octets) : Bool :=
    left.1 < right.1 || (left.1 == right.1 && Octets.isBefore left.2 right.2)
  if isZero left && isZero right then false
  else if isZero left then !right.1
  else if isZero right then left.1
  else if left.1 != right.1 then left.1
  else if left.1 then less right.2 left.2
  else less left.2 right.2

/-- Whether a text comes before another one; nothing if neither does. -/
def Ordering.compare (ordering : Ordering) (left right : Octets) : Option Bool :=
  let before :=
    if ordering.numeric then
      let left := leadingNumber left
      let right := leadingNumber right
      if isLess left right then some true else if isLess right left then some false else none
    else
      let plain (text : Octets) : Octets :=
        let text :=
          if ordering.onlyWords then text.filter fun c => c.isAlphanum || c == ' ' || c == '\t'
          else text
        if ordering.folds then text.map Char.toUpper else text
      let left := plain left
      let right := plain right
      if Octets.isBefore left right then some true
      else if Octets.isBefore right left then some false
      else none
  if ordering.reversed then before.map (!·) else before

/-- Whether a line comes before another one by the first key in which they differ. -/
def compareLines (separator : Option Char) (left right : Octets) : List SortKey → Option Bool
  | [] => none
  | key :: rest =>
      match key.ordering.compare (key.part separator left) (key.part separator right) with
      | some before => some before
      | none => compareLines separator left right rest

/-- Drop each line that equals the one before it. -/
def dropRepeated (isSame : Octets → Octets → Bool) : List Octets → List Octets
  | [] => []
  | [last] => [last]
  | first :: second :: rest =>
      if isSame first second then
        dropRepeated isSame (first :: rest)
      else
        first :: dropRepeated isSame (second :: rest)
termination_by lines => lines.length

/-- Sort lines. -/
def sort : Utility := fun _ arguments => do
  let switches := plainSwitches "bdfginrsuzMhV" ++ [
    Switch.short 'c' "check" .alone, Switch.short 'C' "" .alone,
    Switch.short 'k' "key" .withValue, Switch.short 't' "field-separator" .withValue,
    Switch.short 'o' "output" .withValue, Switch.short 'm' "merge" .alone,
    Switch.short 'S' "buffer-size" .withValue, Switch.short 'T' "" .withValue,
    Switch.long "numeric-sort" .alone, Switch.long "reverse" .alone,
    Switch.long "unique" .alone]
  let call ← Act.arguments switches 2 arguments
  let has (key name : String) : Bool := call.has key || call.has name
  let usual : Ordering := {
    numeric := has "n" "numeric-sort" || call.has "g" || call.has "h"
    reversed := has "r" "reverse"
    folds := call.has "f"
    skipsBlanks := call.has "b"
    onlyWords := call.has "d" }
  let separator := (call.value? "t").bind List.head?
  let keys ← (call.values "k").mapM fun text => do
    match SortKey.ofText? usual text with
    | some key => return key
    | none =>
        Act.fail ("invalid number at field start: invalid count at start of ".toList ++
          quotedAlways text) 2
  let keys := if keys.isEmpty then [⟨⟨1, 0⟩, none, usual⟩] else keys
  let mut whole := []
  for operand in if call.operands.isEmpty then [['-']] else call.operands do
    match ← Act.readOperand operand with
    | .ok text => whole := whole ++ linesOf text
    | .error reason =>
        let words := if reason == .isADirectory then "read failed: " else "cannot read: "
        Act.fail (words.toList ++ quotedName operand ++ ": ".toList ++ reason.words.toList) 2
  let unique := has "u" "unique"
  let last (left right : Octets) : Bool :=
    if unique || call.has "s" then false
    else if usual.reversed then Octets.isBefore right left
    else Octets.isBefore left right
  let isBefore (left right : Octets) : Bool :=
    (compareLines separator left right keys).getD (last left right)
  if call.has "c" || call.has "C" then
    let pairs := (List.range whole.length).zip (whole.zip (whole.drop 1))
    match pairs.find? fun entry =>
        isBefore entry.2.2 entry.2.1 || (unique && !isBefore entry.2.1 entry.2.2) with
    | none => return 0
    | some (index, _, line) =>
        if call.has "c" then
          let name := call.operands.head?.getD ['-']
          Act.complain (name ++ ':' :: (toString (index + 2)).toList ++ ": disorder: ".toList ++ line)
        return 1
  else
    let sorted := whole.mergeSort fun left right => !isBefore right left
    let isSame (left right : Octets) : Bool := !isBefore left right && !isBefore right left
    let text := closedLines (if unique then dropRepeated isSame sorted else sorted)
    match call.value? "o" with
    | none => Act.print text
    | some path =>
        match ← Act.writeFile path text .writing with
        | .ok () => pure ()
        | .error reason =>
            Act.fail ("open failed: ".toList ++ quotedName path ++ ": ".toList ++
              reason.words.toList) 2
    return 0

/-- Lines that stand next to each other and are the same, with their number. -/
def countRepeated (isSame : Octets → Octets → Bool) : List Octets → List (Nat × Octets)
  | [] => []
  | line :: rest =>
      match countRepeated isSame rest with
      | (count, next) :: others =>
          if isSame line next then (count + 1, line) :: others
          else (1, line) :: (count, next) :: others
      | [] => [(1, line)]

/-- Report or omit repeated lines. -/
def uniq : Utility := fun _ arguments => do
  let switches := [
    Switch.short 'c' "count" .alone, Switch.short 'd' "repeated" .alone,
    Switch.short 'D' "" .alone, Switch.short 'i' "ignore-case" .alone,
    Switch.short 'u' "unique" .alone, Switch.short 'f' "skip-fields" .withValue,
    Switch.short 's' "skip-chars" .withValue, Switch.short 'w' "check-chars" .withValue]
  let call ← Act.arguments switches 1 arguments
  let input := call.operands.head?.getD ['-']
  match ← Act.readOperand input with
  | .error reason =>
      Act.complainName input reason
      return 1
  | .ok text =>
      let skipped := ((call.value? "s").bind count?).getD 0
      let part (line : Octets) : Octets :=
        let line := line.drop skipped
        if call.has "i" then line.map Char.toLower else line
      let groups := countRepeated (fun left right => part left == part right) (linesOf text)
      let groups := groups.filter fun group =>
        (!call.has "d" || 1 < group.1) && (!call.has "u" || group.1 == 1)
      let lines := groups.map fun (count, line) =>
        if call.has "c" then aligned 7 count ++ ' ' :: line else line
      match call.operands[1]? with
      | none => Act.print (closedLines lines)
      | some path => discard (Act.writeFile path (closedLines lines) .writing)
      return 0

/-- A range of positions, counted from one. -/
structure PositionRange where
  first : Nat
  last : Option Nat
  deriving Repr, DecidableEq

/-- Whether a position lies in a range. -/
def PositionRange.contains (range : PositionRange) (position : Nat) : Bool :=
  range.first ≤ position && range.last.all fun last => position ≤ last

/-- Read a list of positions and ranges. -/
def positionRanges? (text : Octets) : Option (List PositionRange) :=
  let pieces := Text.wordsBy (fun c => c == ',' || c == ' ') text
  if pieces.isEmpty then
    none
  else
    pieces.mapM fun piece =>
      let first := piece.takeWhile Char.isDigit
      match piece.drop first.length with
      | [] => (count? first).map fun number => ⟨number, some number⟩
      | '-' :: last =>
          if first.isEmpty && last.isEmpty then none
          else if last.isEmpty then (count? first).map fun number => ⟨number, none⟩
          else (count? last).map fun number => ⟨(count? first).getD 1, some number⟩
      | _ => none

/-- The items of a list at positions that are wanted. -/
def selectItems (isWanted : Nat → Bool) (items : List α) : List α :=
  ((List.range items.length).zip items).filterMap fun (index, item) =>
    if isWanted (index + 1) then some item else none

/-- Cut columns or fields out of lines. -/
def cut : Utility := fun _ arguments => do
  let switches := [
    Switch.short 'b' "bytes" .withValue, Switch.short 'c' "characters" .withValue,
    Switch.short 'd' "delimiter" .withValue, Switch.short 'f' "fields" .withValue,
    Switch.short 's' "only-delimited" .alone, Switch.short 'n' "" .alone,
    Switch.long "complement" .alone, Switch.long "output-delimiter" .withValue]
  let call ← Act.arguments switches 1 arguments
  match ["b", "c", "f"].filter call.has with
  | [] => Act.misused "you must specify a list of bytes, characters, or fields".toList 1
  | _ :: _ :: _ => Act.misused "only one list may be specified".toList 1
  | [key] =>
      let delimiter := (call.value? "d").getD ['\t']
      if 1 < delimiter.length then
        Act.misused "the delimiter must be a single character".toList 1
      else if key != "f" && call.has "d" then
        Act.misused ("an input delimiter may be specified only " ++
          "when operating on fields").toList 1
      else
        let written := (call.value? key).getD []
        match positionRanges? written with
        | none =>
            if key == "f" then
              Act.misused ("invalid field value ".toList ++ quotedAlways written) 1
            else
              Act.misused ("invalid byte/character position ".toList ++ quotedAlways written) 1
        | some ranges =>
            if ranges.any fun range => range.first == 0 then
              Act.misused (if key == "f" then "fields are numbered from 1"
                else "byte/character positions are numbered from 1").toList 1
            else
              let sign := delimiter.head?.getD '\x00'
              let isWanted (position : Nat) : Bool :=
                (ranges.any fun range => range.contains position) != call.has "complement"
              let between := (call.value? "output-delimiter").getD [sign]
              let cutLine (line : Octets) : Option Octets :=
                if key != "f" then
                  some (selectItems isWanted line)
                else if !line.contains sign then
                  if call.has "s" then none else some line
                else
                  some (joined between (selectItems isWanted (Text.splitOn sign line)))
              forEachInput call.operands fun _ text =>
                Act.print (closedLines ((linesOf text).filterMap cutLine))

/-- Reverse the characters of lines. -/
def rev : Utility := fun _ arguments => do
  let call ← Act.arguments [] 1 arguments
  forEachInput call.operands fun _ text =>
    Act.print ((wholeLines text).flatMap fun line =>
      if endsLine line then line.dropLast.reverse ++ ['\n'] else line.reverse)

/-- Show the lines of each input, the last one first. -/
def tac : Utility := fun _ arguments => do
  let call ← Act.arguments [Switch.short 's' "separator" .withValue] 1 arguments
  forEachInput call.operands fun _ text => Act.print (wholeLines text).reverse.flatten

/-- Number lines. -/
def nl : Utility := fun _ arguments => do
  let switches := [
    Switch.short 'b' "body-numbering" .withValue, Switch.short 'w' "number-width" .withValue,
    Switch.short 's' "number-separator" .withValue, Switch.short 'v' "" .withValue,
    Switch.short 'n' "number-format" .withValue]
  let call ← Act.arguments switches 1 arguments
  let (text, code) ← wholeInput call.operands
  let width := ((call.value? "w").bind count?).getD 6
  let separator := (call.value? "s").getD ['\t']
  let all := call.value? "b" == some ['a']
  let start := ((call.value? "v").bind count?).getD 1
  let step (shown : Octets × Nat) (line : Octets) : Octets × Nat :=
    let (done, number) := shown
    if line.isEmpty && !all then
      (done ++ List.replicate (width + separator.length) ' ' ++ ['\n'], number)
    else
      (done ++ aligned width number ++ separator ++ line ++ ['\n'], number + 1)
  Act.print ((linesOf text).foldl step ([], start)).1
  return code

/-- Put the lines of inputs next to each other. -/
def pasteLines (delimiters : Octets) : (fuel : Nat) → List (List Octets) → Octets
  | 0, _ => []
  | fuel + 1, columns =>
      if columns.all List.isEmpty then
        []
      else
        let cells := columns.map fun column => column.head?.getD []
        let between (index : Nat) : Octets :=
          if delimiters.isEmpty then [] else [delimiters[index % delimiters.length]?.getD '\t']
        let line := ((List.range cells.length).zip cells).flatMap fun (index, cell) =>
          if index == 0 then cell else between (index - 1) ++ cell
        line ++ '\n' :: pasteLines delimiters fuel (columns.map (List.drop 1))

/-- Join lines of inputs. -/
def paste : Utility := fun _ arguments => do
  let switches := [
    Switch.short 'd' "delimiters" .withValue, Switch.short 's' "serial" .alone]
  let call ← Act.arguments switches 1 arguments
  let delimiters := (unescaped {} ((call.value? "d").getD ['\t'])).1
  let mut columns := []
  for operand in if call.operands.isEmpty then [['-']] else call.operands do
    match ← Act.readOperand operand with
    | .ok text => columns := columns ++ [linesOf text]
    | .error reason => do
        Act.complainName operand reason
        return (1 : Nat)
  if call.has "s" then
    for column in columns do
      Act.print (pasteLines delimiters 1 (column.map fun line => [line]))
  else
    -- The standard input is shared by all operands that stand for it.
    let dashes := call.operands.countP (· == ['-'])
    let shared :=
      if 1 < dashes then
        let lines := (columns.find? fun column => !column.isEmpty).getD []
        let place (index : Nat) : List Octets :=
          ((List.range lines.length).zip lines).filterMap fun (number, line) =>
            if number % dashes == index then some line else none
        (List.range dashes).map place
      else
        columns
    let height := shared.foldl (fun height column => max height column.length) 0
    Act.print (pasteLines delimiters (height + 1) shared)
  return 0

/-- The characters that a set of characters names, in order. -/
def expandSet : (fuel : Nat) → Octets → Octets
  | 0, _ => []
  | _ + 1, [] => []
  | fuel + 1, '[' :: ':' :: rest =>
      let name := rest.takeWhile (· != ':')
      match rest.drop name.length, Matching.CharacterClass.names.lookup name with
      | ':' :: ']' :: rest, some found =>
          let members := (List.range 256).map Char.ofNat |>.filter found.contains
          members ++ expandSet fuel rest
      | _, _ => '[' :: expandSet fuel (':' :: rest)
  | fuel + 1, '\\' :: rest =>
      match Utilities.readEscape {} rest with
      | (.text [c], behind) =>
          if behind.length < rest.length then expandRange fuel c behind
          else '\\' :: expandSet fuel rest
      | (_, behind) =>
          match rest with
          | c :: _ => c :: expandSet fuel behind
          | [] => ['\\']
  | fuel + 1, c :: rest => expandRange fuel c rest
where
  /-- The characters from one on up to the end of the range that it may begin. -/
  expandRange (fuel : Nat) (c : Char) (rest : Octets) : Octets :=
    match rest with
    | '-' :: d :: behind =>
        let (last, behind) :=
          if d == '\\' then
            match Utilities.readEscape {} behind with
            | (.text [e], behind) => (e, behind)
            | _ => (d, behind)
          else (d, behind)
        if last < c then
          c :: '-' :: expandSet fuel (d :: behind)
        else
          let count := last.toNat - c.toNat + 1
          (List.range count).map (fun (index : Nat) => Char.ofNat (c.toNat + index)) ++
            expandSet fuel behind
    | rest => c :: expandSet fuel rest

/-- The character that takes the place of another one. -/
def translated (source target : Octets) (c : Char) : Char :=
  -- The last of several places counts.
  match (source.zip target).reverse.lookup c with
  | some d => d
  | none => c

/-- Leave one of neighbouring characters that are the same. -/
def squeeze (squeezed : Octets) : Octets → Octets
  | c :: d :: rest =>
      if c == d && squeezed.contains c then squeeze squeezed (d :: rest)
      else c :: squeeze squeezed (d :: rest)
  | text => text

/-- Replace, squeeze or delete characters. -/
def tr : Utility := fun _ arguments => do
  let switches := [
    Switch.short 'c' "complement" .alone, Switch.short 'C' "" .alone,
    Switch.short 'd' "delete" .alone, Switch.short 's' "squeeze-repeats" .alone,
    Switch.short 't' "truncate-set1" .alone]
  let call ← Act.leadingArguments switches 1 arguments
  let deletes := call.has "d"
  let squeezes := call.has "s"
  match call.operands with
  | [] => missingOperand 1
  | first :: others =>
      let expand (text : Octets) : Octets := expandSet (text.length + 1) text
      let named := expand first
      let source :=
        if call.has "c" || call.has "C" then
          (List.range 256).map Char.ofNat |>.filter fun c => !named.contains c
        else named
      let needsMore (words : String) : Act Nat :=
        Act.misused ("missing operand after ".toList ++ quotedAlways first ++
          ('\n' :: words.toList)) 1
      match others, deletes, squeezes with
      | _ :: _ :: _, _, _ => extraOperand (others[1]?.getD []) 1
      | [], false, false =>
          needsMore "Two strings must be given when translating."
      | [], true, true =>
          needsMore "Two strings must be given when both deleting and squeezing repeats."
      | second :: _, true, false =>
          Act.misused ("extra operand ".toList ++ quotedAlways second ++
            ("\nOnly one string may be given when deleting " ++
              "without squeezing repeats.").toList) 1
      | others, _, _ =>
          let target := expand (others.head?.getD [])
          if !others.isEmpty && !deletes && target.isEmpty then
            Act.fail "when not truncating set1, string2 must be non-empty".toList 1
          else
            let padded := target ++
              List.replicate (source.length - target.length) (target.getLast?.getD ' ')
            match ← Act.readDescriptor 0 with
            | .error reason =>
                Act.fail ("read error: " ++ reason.words).toList 1
            | .ok text =>
                let text := if deletes then text.filter fun c => !source.contains c else text
                let text :=
                  if deletes || others.isEmpty then text else text.map (translated source padded)
                let squeezed := if others.isEmpty then source else target
                Act.print (if squeezes then squeeze squeezed text else text)
                return 0

/-- Break lines that are too long. -/
def fold : Utility := fun _ arguments => do
  let switches := [
    Switch.short 'w' "width" .withValue, Switch.short 's' "spaces" .alone,
    Switch.short 'b' "bytes" .alone]
  let call ← Act.arguments switches 1 arguments
  let width := max 1 (((call.value? "w").bind count?).getD 80)
  let broken (line : Octets) : Octets :=
    let pieces := (List.range (line.length / width + 1)).map fun (index : Nat) =>
      (line.drop (index * width)).take width
    joined ['\n'] (pieces.filter fun piece => !piece.isEmpty)
  forEachInput call.operands fun _ text =>
    Act.print (closedLines ((linesOf text).map broken))

end Provision.Utilities
