import Provision.Host.Programs.Options
import Provision.Host.Utilities.Condition
import Provision.Host.Utilities.Printf

namespace Provision.Utilities

open Programs

/-!
# Utilities that print and test

They print their arguments in some way, or only succeed or fail. Names in what
they complain of are quoted; where they read files, they read them in turn.
-/

/-!
## Names in complaints

A name is shown so that a shell would read it as one word: with quotes where
they are needed, and with escapes for what cannot be shown.
-/

namespace QuotedName

/-- Whether a character cannot be shown. -/
def isHidden (c : Char) : Bool :=
  c < ' ' || '~' < c

/-- Characters that are special to shells wherever they stand. -/
def specialSigns : List Char :=
  " !\"$&()*;<=>[^\x60|?\\'".toList

/-- Whether a name must be quoted. -/
def isNeeded (name : Octets) : Bool :=
  name.isEmpty || name.any (fun c => isHidden c || specialSigns.contains c) ||
    name.head? == some '#' || name.head? == some '~' || name == ['\x7b'] || name == ['\x7d']

/-- Whether a character stands for itself between double quotes as well. -/
def isPlain (c : Char) : Bool :=
  c.isAlphanum || " '%+,-./:]_@".toList.contains c

/-- The escape for a character that cannot be shown. -/
def escape (c : Char) : Octets :=
  match c with
  | '\n' => ['\\', 'n']
  | '\t' => ['\\', 't']
  | '\r' => ['\\', 'r']
  | '\x07' => ['\\', 'a']
  | '\x08' => ['\\', 'b']
  | '\x0b' => ['\\', 'v']
  | '\x0c' => ['\\', 'f']
  | c =>
      let digits := Nat.toDigits 8 c.toNat
      '\\' :: List.replicate (3 - digits.length) '0' ++ digits

/-- A name in pieces that are quoted in turn as text and as escapes. -/
def pieces : (escapes : Bool) → Octets → Octets
  | _, [] => ['\'']
  | escapes, c :: rest =>
      if isHidden c then
        (if escapes then [] else "'$'".toList) ++ escape c ++ pieces true rest
      else
        let start := if escapes then ['\'', '\''] else []
        let shown := if c == '\'' then "'\\''".toList else [c]
        start ++ shown ++ pieces false rest

/-- A name in quotes. -/
def quote (name : Octets) : Octets :=
  if name.any isHidden then
    '\'' :: pieces false name
  else if name.contains '\'' then
    if name.all isPlain then '"' :: name ++ ['"'] else '\'' :: pieces false name
  else
    '\'' :: name ++ ['\'']

end QuotedName

/-- A name that stands alone in a complaint. -/
def quotedName (name : Octets) : Octets :=
  if QuotedName.isNeeded name || name.contains ':' then QuotedName.quote name else name

/-- A name in the middle of a complaint. -/
def quotedAlways (name : Octets) : Octets :=
  QuotedName.quote name

namespace Act

/-- Complain that something is refused about a name. -/
def complainName (name : Octets) (reason : SystemError) : Act Unit :=
  Act.complain (quotedName name ++ ": ".toList ++ reason.words.toList)

/-- Complain that what was to be done with a name is refused. -/
def complainThat (words : String) (name : Octets) (reason : SystemError) : Act Unit :=
  Act.complain
    (words.toList ++ ' ' :: quotedAlways name ++ ": ".toList ++ reason.words.toList)

end Act

/-! ## Printing and testing -/

/-- Join texts with another one between them. -/
def joined (between : Octets) : List Octets → Octets
  | [] => []
  | [last] => last
  | first :: rest => first ++ between ++ joined between rest

/-- A utility that does nothing. -/
def answering (code : Nat) : Utility := fun _ _ =>
  return code

/-- Complain that an operand is missing. -/
def missingOperand (code : Nat) : Act α :=
  Act.misused "missing operand".toList code

/-- Complain about an operand that is not expected. -/
def extraOperand (operand : Octets) (code : Nat) : Act α :=
  Act.misused ("extra operand ".toList ++ quotedAlways operand) code

/-- Escapes that the printer of words knows if it is asked to. -/
def echoEscapes : EscapeStyle where
  zeroOctal := true
  hexadecimal := true
  escape := true
  stops := true

/-- Read options in front of words: whether the line is ended, and escapes are known. -/
def echoOptions (ends escapes : Bool) : List Octets → Bool × Bool × List Octets
  | [] => (ends, escapes, [])
  | word :: rest =>
      match word with
      | '-' :: letter :: letters =>
          let letters := letter :: letters
          if letters.all fun c => c == 'n' || c == 'e' || c == 'E' then
            let escapes := letters.foldl (fun escapes c =>
              if c == 'e' then true else if c == 'E' then false else escapes) escapes
            echoOptions (ends && !letters.contains 'n') escapes rest
          else
            (ends, escapes, word :: rest)
      | _ => (ends, escapes, word :: rest)

/-- Print words. -/
def echo : Utility := fun _ arguments => do
  let (ends, escapes, words) := echoOptions true false arguments
  let text := joined [' '] words
  let (text, stopped) := if escapes then unescaped echoEscapes text else (text, false)
  Act.print (text ++ if ends && !stopped then ['\n'] else [])
  return 0

/-- Print a format. -/
def printf : Utility := fun _ arguments => do
  let words := if arguments.head? == some "--".toList then arguments.tail else arguments
  match words with
  | [] => missingOperand 1
  | format :: rest =>
      let printing := printFormat .system format rest
      for complaint in printing.complaints do
        Act.complain complaint
      Act.print printing.out
      return printing.status

/-- Test a condition. -/
def test : Utility := fun _ arguments => do
  let process ← read
  let setting : TestSetting := {
    tester := .system
    files := ⟨(← Act.system).disk, process⟩ }
  match testCall setting process.name arguments with
  | .ok truth => return if truth then 0 else 1
  | .error problem => do
      Act.complain (problem.message .system)
      return 2

/-- How many blocks of lines are printed without end. -/
def endlessBlocks : Nat := 200

/-- Print a line again and again, until nobody reads it. -/
def yes : Utility := fun _ arguments => do
  let call ← Act.arguments [] 1 arguments
  let words := if call.operands.isEmpty then [['y']] else call.operands
  let line := joined [' '] words ++ ['\n']
  let count := 1024 / line.length + 1
  let block := (List.replicate count line).flatten
  for _ in List.range endlessBlocks do
    Act.print block
  Act.finish (.killed Signal.pipe)

/-- A decimal number: its digits as a whole number, and how many stand behind the point. -/
structure DecimalNumber where
  digits : Int
  places : Nat
  deriving Repr, DecidableEq

namespace DecimalNumber

/-- Read a decimal number. -/
def ofText? (text : Octets) : Option DecimalNumber :=
  let (negative, digits) := spanSign text
  let whole := digits.takeWhile Char.isDigit
  let behind := digits.drop whole.length
  let places :=
    match behind with
    | '.' :: places => places
    | _ => []
  let isWhole := behind.isEmpty && !whole.isEmpty
  let isBroken := behind.head? == some '.' && places.all Char.isDigit &&
    !(whole.isEmpty && places.isEmpty)
  if isWhole || isBroken then
    let number : Int := (spanDigits 10 (whole ++ places)).1
    some ⟨if negative then -number else number, places.length⟩
  else
    none

/-- The digits of a number with so many places behind the point. -/
def scaled (number : DecimalNumber) (places : Nat) : Int :=
  number.digits * Int.pow 10 (places - number.places)

/-- The text of a number with so many places behind the point. -/
def shown (digits : Int) (places : Nat) : Octets :=
  let text := (toString digits.natAbs).toList
  let padded := List.replicate (places + 1 - text.length) '0' ++ text
  let whole := padded.take (padded.length - places)
  let behind := padded.drop (padded.length - places)
  (if digits < 0 then ['-'] else []) ++ whole ++ if places == 0 then [] else '.' :: behind

end DecimalNumber

/-- The numbers of a sequence. -/
def sequence (first step last : Int) : List Int :=
  let count :=
    if 0 < step && first ≤ last then (last - first) / step + 1
    else if step < 0 && last ≤ first then (first - last) / (-step) + 1
    else 0
  (List.range count.toNat).map fun (index : Nat) => first + index * step

/-- A number with zeros in front of it up to a width. -/
def zeroPadded (width : Nat) (text : Octets) : Octets :=
  match text with
  | '-' :: digits => '-' :: List.replicate (width - text.length) '0' ++ digits
  | digits => List.replicate (width - digits.length) '0' ++ digits

/-- Print a sequence of numbers. -/
def seq : Utility := fun _ arguments => do
  let switches := [
    Switch.short 'w' "equal-width" .alone, Switch.short 's' "separator" .withValue,
    Switch.short 'f' "format" .withValue]
  -- A number below zero is no option.
  let isNumber (word : Octets) : Bool := (DecimalNumber.ofText? word).isSome
  let front := arguments.takeWhile fun word => !isNumber word
  let call ← Act.leadingArguments switches 1 front
  let operands := call.operands ++ arguments.drop front.length
  let number (text : Octets) : Act DecimalNumber := do
    match DecimalNumber.ofText? text with
    | some number => return number
    | none => Act.misused ("invalid floating point argument: ".toList ++ quotedAlways text) 1
  let (first, step, last) ←
    match operands with
    | [] => missingOperand 1
    | [last] => do pure (⟨1, 0⟩, ⟨1, 0⟩, ← number last)
    | [first, last] => do pure (← number first, ⟨1, 0⟩, ← number last)
    | [first, step, last] => do pure (← number first, ← number step, ← number last)
    | _ :: _ :: _ :: extra :: _ => extraOperand extra 1
  if step.digits == 0 then
    let text := operands[1]?.getD []
    Act.misused ("invalid Zero increment value: ".toList ++ quotedAlways text) 1
  else
    let shownPlaces := max first.places step.places
    let places := max shownPlaces last.places
    let numbers := sequence (first.scaled places) (step.scaled places) (last.scaled places)
    let cut (number : Int) : Int := number / Int.pow 10 (places - shownPlaces)
    let texts := numbers.map fun number => DecimalNumber.shown (cut number) shownPlaces
    let width := texts.foldl (fun width text => max width text.length) 0
    let texts := if call.has "w" then texts.map (zeroPadded width) else texts
    let texts :=
      match call.value? "f" with
      | some format => texts.map fun text => (printFormat .system format [text]).out
      | none => texts
    let separator := (call.value? "s").getD ['\n']
    unless texts.isEmpty do
      Act.print (joined separator texts ++ ['\n'])
    return 0

/-- The name of a path without its directories, and without an ending. -/
def baseName (path ending : Octets) : Octets :=
  let trimmed := (path.reverse.dropWhile (· == '/')).reverse
  if path.isEmpty then []
  else if trimmed.isEmpty then ['/']
  else
    let name := (trimmed.reverse.takeWhile (· != '/')).reverse
    if !ending.isEmpty && ending.length < name.length && ending.isSuffixOf name then
      name.take (name.length - ending.length)
    else
      name

/-- Print the last name of paths. -/
def basename : Utility := fun _ arguments => do
  let switches := [
    Switch.short 'a' "multiple" .alone, Switch.short 's' "suffix" .withValue,
    Switch.short 'z' "zero" .alone]
  let call ← Act.leadingArguments switches 1 arguments
  let ending := if call.has "z" then ['\x00'] else ['\n']
  let many := call.has "a" || call.has "s"
  match call.operands, many with
  | [], _ => missingOperand 1
  | paths, true =>
      let cut := (call.value? "s").getD []
      Act.print (paths.flatMap fun path => baseName path cut ++ ending)
      return 0
  | [path], false => do
      Act.print (baseName path [] ++ ending)
      return 0
  | [path, cut], false => do
      Act.print (baseName path cut ++ ending)
      return 0
  | _ :: _ :: extra :: _, false => extraOperand extra 1

/-- The directory that a path leads through. -/
def directoryName (path : Octets) : Octets :=
  let trimmed := path.reverse.dropWhile (· == '/')
  let front := (trimmed.dropWhile (· != '/')).dropWhile (· == '/')
  if path.isEmpty then ['.']
  else if trimmed.isEmpty then ['/']
  else if !trimmed.contains '/' then ['.']
  else if front.isEmpty then ['/']
  else front.reverse

/-- Print the directories of paths. -/
def dirname : Utility := fun _ arguments => do
  let call ← Act.arguments [Switch.short 'z' "zero" .alone] 1 arguments
  let ending := if call.has "z" then ['\x00'] else ['\n']
  if call.operands.isEmpty then
    missingOperand 1
  else
    Act.print (call.operands.flatMap fun path => directoryName path ++ ending)
    return 0

/-- Refuse operands. -/
def withoutOperands (arguments : List Octets) : Act Unit := do
  let call ← Act.arguments [] 1 arguments
  match call.operands with
  | [] => return ()
  | extra :: _ => extraOperand extra 1

/-- Print who runs a process. -/
def whoami : Utility := fun _ arguments => do
  withoutOperands arguments
  Act.printLine "root".toList
  return 0

/-- Print one line about the system. -/
def telling (line : String) : Utility := fun _ arguments => do
  withoutOperands arguments
  Act.printLine line.toList
  return 0

/-- Print the name with which somebody came in: nobody did. -/
def logname : Utility := fun _ arguments => do
  withoutOperands arguments
  Act.fail "no login name".toList 1

/-- Print the terminal that is read: there is none. -/
def tty : Utility := fun _ arguments => do
  let call ← Act.arguments [Switch.short 's' "silent" .alone] 2 arguments
  unless call.has "s" do
    Act.printLine "not a tty".toList
  return 1

/-- Print who somebody is. -/
def identity : Utility := fun _ arguments => do
  let switches := [
    Switch.short 'u' "user" .alone, Switch.short 'g' "group" .alone,
    Switch.short 'G' "groups" .alone, Switch.short 'n' "name" .alone,
    Switch.short 'r' "real" .alone]
  let call ← Act.arguments switches 1 arguments
  match call.operands.find? fun name => name != "root".toList && name != ['0'] with
  | some name => Act.fail (quotedAlways name ++ ": no such user".toList) 1
  | none =>
      let single := call.has "u" || call.has "g" || call.has "G"
      let line :=
        if single then (if call.has "n" then "root" else "0")
        else "uid=0(root) gid=0(root) groups=0(root)"
      Act.printLine line.toList
      return 0

/-- What the system says of itself, by the letters of the options that ask for it. -/
def systemFacts : List (String × String) := [
  ("s", "Linux"), ("n", "localhost"), ("r", "6.1.0"), ("v", "#1 SMP"), ("m", "x86_64"),
  ("p", "x86_64"), ("i", "x86_64"), ("o", "GNU/Linux")]

/-- Print what the system is. -/
def uname : Utility := fun _ arguments => do
  let switches := [
    Switch.short 'a' "all" .alone, Switch.short 's' "kernel-name" .alone,
    Switch.short 'n' "nodename" .alone, Switch.short 'r' "kernel-release" .alone,
    Switch.short 'v' "kernel-version" .alone, Switch.short 'm' "machine" .alone,
    Switch.short 'p' "processor" .alone, Switch.short 'i' "hardware-platform" .alone,
    Switch.short 'o' "operating-system" .alone]
  let call ← Act.arguments switches 1 arguments
  match call.operands with
  | extra :: _ => extraOperand extra 1
  | [] =>
      let asked := systemFacts.filter fun fact => call.has "a" || call.has fact.1
      let asked := if asked.isEmpty then systemFacts.take 1 else asked
      Act.printLine (joined [' '] (asked.map fun fact => fact.2.toList))
      return 0

/-- Whether a text tells how long something takes. -/
def isInterval (text : Octets) : Bool :=
  let number := if text.getLast?.any "smhd".toList.contains then text.dropLast else text
  match DecimalNumber.ofText? number with
  | some found => 0 ≤ found.digits
  | none => number == "infinity".toList || number == "inf".toList

/-- Wait for a while. -/
def sleep : Utility := fun _ arguments => do
  let call ← Act.arguments [] 1 arguments
  if call.operands.isEmpty then
    missingOperand 1
  else
    let wrong := call.operands.filter fun text => !isInterval text
    match wrong with
    | [] => return 0
    | wrong =>
        for text in wrong.dropLast do
          Act.complain ("invalid time interval ".toList ++ quotedAlways text)
        let last := wrong.getLast?.getD []
        Act.misused ("invalid time interval ".toList ++ quotedAlways last) 1

/-- Print the working directory. -/
def pwd : Utility := fun _ arguments => do
  let call ← Act.arguments (plainSwitches "LP") 1 arguments
  let process ← read
  let plain := octetsOf (Path.ofLocation process.directory)
  let told := process.variableNamed? "PWD"
  let path :=
    match told with
    | some path => if call.has "L" && path.head? == some '/' then path else plain
    | none => plain
  Act.printLine path
  return 0

/-!
## Inputs of utilities

Many utilities read files one after the other, or the standard input if none is
named. A file that cannot be read is reported, and the others are read all the
same.
-/

/-- The lines of a text, without what ends them. -/
def linesOf (text : Octets) : List Octets :=
  let pieces := Text.splitOn '\n' text
  if pieces.getLast? == some [] then pieces.dropLast else pieces

/-- Whether a text ends with the end of a line. -/
def endsLine (text : Octets) : Bool :=
  text.getLast? == some '\n'

/-- Lines with their ends. -/
def closedLines (lines : List Octets) : Octets :=
  lines.flatMap fun line => line ++ ['\n']

/-- The lines of a text, each with what ends it. -/
def wholeLines (text : Octets) : List Octets :=
  let lines := linesOf text
  if endsLine text || text.isEmpty then
    lines.map fun line => line ++ ['\n']
  else
    lines.dropLast.map (fun line => line ++ ['\n']) ++ lines.getLast?.toList

/-- Run a step for each input. Answers the exit code. -/
def forEachInput (operands : List Octets) (step : (name : Octets) → Octets → Act Unit) :
    Act Nat := do
  let mut code := 0
  for operand in if operands.isEmpty then [['-']] else operands do
    match ← Act.readOperand operand with
    | .ok text => step operand text
    | .error reason =>
        code := 1
        Act.complainName operand reason
  return code

/-- All inputs in one text, with the exit code. -/
def wholeInput (operands : List Octets) : Act (Octets × Nat) := do
  let mut whole := []
  let mut code := 0
  for operand in if operands.isEmpty then [['-']] else operands do
    match ← Act.readOperand operand with
    | .ok text => whole := whole ++ text
    | .error reason =>
        code := 1
        Act.complainName operand reason
  return (whole, code)

/-- A number with blanks in front of it up to a width. -/
def aligned (width : Nat) (number : Nat) : Octets :=
  let digits := (toString number).toList
  List.replicate (width - digits.length) ' ' ++ digits

/-- A number with a letter behind it that multiplies it. -/
def scaledCount? (text : Octets) : Option Nat :=
  let digits := text.takeWhile Char.isDigit
  match count? digits, String.ofList (text.drop digits.length) with
  | some number, "" => some number
  | some number, "b" => some (number * 512)
  | some number, "k" | some number, "K" | some number, "KiB" => some (number * 1024)
  | some number, "kB" | some number, "KB" => some (number * 1000)
  | some number, "M" | some number, "MiB" => some (number * 1024 * 1024)
  | some number, "MB" => some (number * 1000 * 1000)
  | some number, "G" => some (number * 1024 * 1024 * 1024)
  | _, _ => none

end Provision.Utilities
