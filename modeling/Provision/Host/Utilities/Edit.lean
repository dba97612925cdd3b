import Provision.Host.Utilities.EditScript
import Provision.Host.Utilities.Print

namespace Provision.Utilities

open Programs Matching

/-!
# Editing lines

Lines are read one after the other, edited as a script says, and printed. A
second text is held back and can be fetched.
-/

/-- How far a range of lines is selected. -/
inductive RangeProgress where
  | outside
  /-- Inside, up to a line if it is known. -/
  | inside (last : Option Nat)
  | behind
  deriving Repr, DecidableEq

/-- A line of an input, and whether it is ended. -/
structure InputLine where
  text : Octets
  isEnded : Bool
  deriving Repr, DecidableEq

/-- An input with its name. -/
structure EditInput where
  name : Octets
  lines : List InputLine
  deriving Repr, DecidableEq

/-- The lines of a text, each with whether it is ended. -/
def inputLines (separator : Char) (text : Octets) : List InputLine :=
  let pieces := Text.splitOn separator text
  let ended := pieces.dropLast.map fun (piece : Octets) => InputLine.mk piece true
  match pieces.getLast? with
  | some [] | none => ended
  | some piece => ended ++ [⟨piece, false⟩]

/-- What waits to be printed behind the present line. -/
inductive WaitingText where
  | text (text : Octets)
  | file (path : Octets)
  deriving Repr, DecidableEq

/-- How lines are edited. -/
structure EditSetting where
  commands : Array EditCommand
  /-- Whether lines are printed only if the script says so. -/
  quiet : Bool
  /-- What stands between lines. -/
  separator : Char
  /-- How wide lines are that show everything. -/
  width : Nat

/-- How far lines are edited. -/
structure EditState where
  space : Octets := []
  isEnded : Bool := true
  held : Octets := []
  heldEnded : Bool := true
  lineNumber : Nat := 0
  name : Octets := ['-']
  ahead : List EditInput := []
  ranges : List (Nat × RangeProgress) := []
  replaced : Bool := false
  waiting : List WaitingText := []
  /-- Whether the line printed last is not ended. -/
  owesEnd : Bool := false
  /-- What is printed into a file instead, the latest first. -/
  kept : Option (List Octets) := none
  latest : Option SearchPattern := none

/-- A part of editing. -/
abbrev Editing := StateT EditState Act

/-- How a script goes on behind a command. -/
inductive EditFlow where
  | next
  | jump (index : Nat)
  /-- The next line is read; the present one is printed or not. -/
  | ended (prints : Bool)
  /-- The script starts again with what is left of the line. -/
  | again
  | quit (code : Nat) (prints : Bool)
  deriving Repr, DecidableEq

namespace Editing

/-- Print a text. -/
def write (text : Octets) : Editing Unit := do
  match (← get).kept with
  | some kept => modify fun state => { state with kept := some (text :: kept) }
  | none => Act.print text

/-- End the line printed last, if that was not done. -/
def endPrinted (separator : Char) : Editing Unit := do
  if (← get).owesEnd then
    write [separator]
    modify fun state => { state with owesEnd := false }

/-- Print a line. -/
def printLine (setting : EditSetting) (line : Octets) (isEnded : Bool) : Editing Unit := do
  endPrinted setting.separator
  write (if isEnded then line ++ [setting.separator] else line)
  modify fun state => { state with owesEnd := !isEnded }

/-- Print the present line. -/
def printSpace (setting : EditSetting) : Editing Unit := do
  let state ← get
  printLine setting state.space state.isEnded

/-- Print what waits for the end of the present line. -/
def printWaiting (setting : EditSetting) : Editing Unit := do
  let waiting := (← get).waiting
  modify fun state => { state with waiting := [] }
  for entry in waiting do
    match entry with
    | .text text =>
        endPrinted setting.separator
        write text
    | .file path =>
        match ← Act.readOperand (if path == "/dev/stdin".toList then ['-'] else path) with
        | .ok text =>
            unless text.isEmpty do
              endPrinted setting.separator
              write text
        | .error _ => pure ()

/-- Write a line to a file. -/
def writeTo (setting : EditSetting) (path line : Octets) : Editing Unit := do
  let isEnded := (← get).isEnded
  if path == "/dev/stdout".toList then
    printLine setting line isEnded
  else
    let text := if isEnded then line ++ ['\n'] else line
    if path == "/dev/stderr".toList then
      discard (Act.writeTo 2 text)
    else
      discard (Act.writeFile path text .adding)

/-- Whether there is no line behind the present one. -/
def isLast : Editing Bool := do
  return (← get).ahead.all fun input => input.lines.isEmpty

/-- Take the next line of the inputs. -/
def takeLine (fuel : Nat) : List EditInput → Option (InputLine × Octets × List EditInput)
  | [] => none
  | input :: others =>
      match input.lines with
      | line :: lines => some (line, input.name, { input with lines := lines } :: others)
      | [] =>
          match fuel with
          | 0 => none
          | fuel + 1 => takeLine fuel others

/-- Read the next line. Answers whether there was one. -/
def readLine (setting : EditSetting) : Editing (Option InputLine) := do
  printWaiting setting
  let state ← get
  match takeLine state.ahead.length state.ahead with
  | none => return none
  | some (line, name, ahead) =>
      set { state with
        ahead := ahead
        name := name
        lineNumber := state.lineNumber + 1
        replaced := false }
      return some line

/-- The expression that is searched for, and how. -/
def patternOf (pattern : SearchPattern) : Editing SearchPattern := do
  match pattern.regex, (← get).latest with
  | none, some latest => return latest
  | none, none => do
      Act.complain "-e expression #1, char 0: no previous regular expression".toList
      Act.exit 1
  | some _, _ => do
      modify fun state => { state with latest := some pattern }
      return pattern

/-- Whether the present line is a place that is selected. -/
def isAt (place : LinePlace) : Editing Bool := do
  let state ← get
  match place with
  | .number number => return state.lineNumber == number
  | .every first step =>
      if step == 0 then
        return state.lineNumber == first
      else
        return first ≤ state.lineNumber && (state.lineNumber - first) % step == 0
  | .last => isLast
  | .found pattern => do
      let pattern ← patternOf pattern
      return (pattern.regex.getD .empty).isFoundIn pattern.style state.space

/-- Note how far a range is selected. -/
def setRange (index : Nat) (progress : RangeProgress) : Editing Unit :=
  modify fun state => { state with
    ranges := (index, progress) :: state.ranges.filter fun entry => entry.1 != index }

/-- Begin a range at the present line. -/
def beginRange (index : Nat) (last : RangeEnd) : Editing Unit := do
  let number := (← get).lineNumber
  let upTo (stop : Nat) : Editing Unit :=
    if number < stop then setRange index (.inside (some stop)) else setRange index .behind
  match last with
  | .place (.number stop) => upTo stop
  | .behind count => upTo (number + count)
  | .multiple factor =>
      upTo (if factor == 0 then number else (number / factor + 1) * factor)
  | .place _ => setRange index (.inside none)

/-- Whether the present line is selected by a command with an index. -/
def isSelected (index : Nat) (selection : LineSelection) : Editing Bool := do
  match selection.last with
  | none => isAt selection.first
  | some last =>
      let progress := ((← get).ranges.lookup index).getD
        (if selection.first == .number 0 then .inside none else .outside)
      match progress, last with
      | .inside (some stop), _ =>
          let number := (← get).lineNumber
          if stop ≤ number then
            setRange index .behind
          return number ≤ stop
      | .inside none, .place place =>
          if ← isAt place then
            setRange index .behind
          return true
      | .inside none, _ => return true
      | _, last =>
          if ← isAt selection.first then
            beginRange index last
            return true
          else
            return false

/-- Write letters as a case asks. -/
def inCase (case : LetterCase) (text : Octets) : Octets :=
  match case with
  | .upper => text.map Char.toUpper
  | .lower => text.map Char.toLower
  | _ => text

/-- Put the parts of a replacement together; `once` is the case of the next letter. -/
def fillParts (group : Nat → Octets) : (case : LetterCase) → (once : Option LetterCase) →
    List ReplacementPart → Octets
  | _, _, [] => []
  | case, once, part :: rest =>
      let put (text : Octets) : Octets :=
        match once, text with
        | none, text => inCase case text ++ fillParts group case none rest
        | some once, [] => fillParts group case (some once) rest
        | some once, c :: text =>
            inCase once [c] ++ inCase case text ++ fillParts group case none rest
      match part with
      | .text text => put text
      | .group number => put (group number)
      | .letters .upperNext => fillParts group case (some .upper) rest
      | .letters .lowerNext => fillParts group case (some .lower) rest
      | .letters case => fillParts group case once rest

/-- Where a text is searched for more matches. -/
structure ReplacementPlace where
  /-- How many matches were found. -/
  count : Nat
  offset : Nat
  /-- Where the latest match that was not empty ended. -/
  latestEnd : Option Nat
  deriving Repr, DecidableEq

/-- Replace matches in a text. Answers whether there were any, and the new text. -/
def replaceMatches (substitution : Substitution) (pattern : SearchPattern) (text : Octets) :
    (fuel : Nat) → ReplacementPlace → Bool × Octets
  | 0, place => (false, text.drop place.offset)
  | fuel + 1, place =>
      match (pattern.regex.getD .empty).search? pattern.style text place.offset with
      | none => (false, text.drop place.offset)
      | some found =>
          let span := found.whole
          let before := (text.take span.start).drop place.offset
          let isEmpty := span.start == span.stop
          let behind := (text.drop span.stop).take 1
          let isAdjacent := isEmpty && place.latestEnd == some span.start
          let count := if isAdjacent then place.count else place.count + 1
          let isWanted := !isAdjacent && (substitution.number.getD 1) ≤ count
          let group (number : Nat) : Octets := (found.group? text number).getD []
          let put :=
            if isWanted then fillParts group .asWritten none substitution.parts
            else span.of text
          let next : ReplacementPlace := {
            count := count
            offset := if isEmpty then span.stop + 1 else span.stop
            latestEnd := if isEmpty then place.latestEnd else some span.stop }
          let start := before ++ put
          if isWanted && !substitution.everywhere then
            (true, start ++ text.drop span.stop)
          else if isEmpty && behind.isEmpty then
            (isWanted, start)
          else
            let (replaced, rest) := replaceMatches substitution pattern text fuel next
            (isWanted || replaced, start ++ (if isEmpty then behind else []) ++ rest)

/-- Replace matches in the present line. -/
def substitute (setting : EditSetting) (substitution : Substitution) : Editing Unit := do
  let pattern ← patternOf substitution.pattern
  let space := (← get).space
  let (replaced, text) :=
    replaceMatches substitution pattern space (space.length + 2) ⟨0, 0, none⟩
  if replaced then
    modify fun state => { state with space := text, replaced := true }
    if substitution.prints then
      printSpace setting
    match substitution.file with
    | some path => writeTo setting path text
    | none => pure ()

/-- How a character is shown when everything is shown. -/
def visible (c : Char) : Octets :=
  match c with
  | '\\' => ['\\', '\\']
  | '\x07' => ['\\', 'a']
  | '\x08' => ['\\', 'b']
  | '\x0c' => ['\\', 'f']
  | '\n' => ['\\', 'n']
  | '\r' => ['\\', 'r']
  | '\t' => ['\\', 't']
  | '\x0b' => ['\\', 'v']
  | c =>
      if ' ' ≤ c && c ≤ '~' then
        [c]
      else
        let digits := Nat.toDigits 8 c.toNat
        '\\' :: List.replicate (3 - digits.length) '0' ++ digits

/-- A text in lines of a width, in which everything is shown. -/
def visibleLines (width : Nat) : (used : Nat) → Octets → Octets
  | _, [] => ['$']
  | used, c :: rest =>
      let shown := visible c
      if 1 < width && width - 1 < used + shown.length then
        ['\\', '\n'] ++ shown ++ visibleLines width shown.length rest
      else
        shown ++ visibleLines width (used + shown.length) rest

/-- The command behind the block that begins in front of an index. -/
def behindBlock (commands : Array EditCommand) : (fuel : Nat) → (depth index : Nat) → Nat
  | 0, _, index => index
  | fuel + 1, depth, index =>
      match commands[index]?.map EditCommand.action with
      | none => index
      | some .openBlock => behindBlock commands fuel (depth + 1) (index + 1)
      | some .closeBlock =>
          if depth == 0 then index + 1 else behindBlock commands fuel (depth - 1) (index + 1)
      | some _ => behindBlock commands fuel depth (index + 1)

/-- Where a jump to a label leads. -/
def labelIndex (commands : Array EditCommand) (label : Octets) : Nat :=
  if label.isEmpty then
    commands.size
  else
    (commands.findIdx? fun command => command.action == .label label).getD commands.size

/-- The first line of a text, and what follows it. -/
def firstLine (text : Octets) : Octets × Option Octets :=
  let line := text.takeWhile (· != '\n')
  (line, if line.length < text.length then some (text.drop (line.length + 1)) else none)

/-- Carry out what a command does. -/
def act (setting : EditSetting) (index : Nat) (command : EditCommand) : Editing EditFlow := do
  let state ← get
  match command.action with
  | .openBlock | .closeBlock | .label _ | .nothing => return .next
  | .jump condition label =>
      let taken :=
        match condition with
        | .always => true
        | .replaced => state.replaced
        | .notReplaced => !state.replaced
      unless condition == .always do
        set { state with replaced := false }
      return if taken then .jump (labelIndex setting.commands label) else .next
  | .substitute substitution =>
      substitute setting substitution
      return .next
  | .translate pairs =>
      set { state with space := state.space.map fun c => (pairs.lookup c).getD c }
      return .next
  | .append text =>
      set { state with waiting := state.waiting ++ [WaitingText.text text] }
      return .next
  | .insert text =>
      endPrinted setting.separator
      write text
      return .next
  | .change text =>
      let isInside := (state.ranges.lookup index).any fun progress => progress matches .inside _
      unless isInside && !command.inverts do
        endPrinted setting.separator
        write text
      return .ended false
  | .delete => return .ended false
  | .deleteFirst =>
      match firstLine state.space with
      | (_, none) => return .ended false
      | (_, some rest) =>
          set { state with space := rest }
          return .again
  | .print =>
      printSpace setting
      return .next
  | .printFirst =>
      printLine setting (firstLine state.space).1 true
      return .next
  | .printNumber =>
      endPrinted setting.separator
      write ((toString state.lineNumber).toList ++ ['\n'])
      return .next
  | .printName =>
      endPrinted setting.separator
      write (state.name ++ ['\n'])
      return .next
  | .printVisible width =>
      endPrinted setting.separator
      write (visibleLines (width.getD setting.width) 0 state.space ++ ['\n'])
      return .next
  | .next =>
      if ← isLast then
        return .quit 0 true
      else
        unless setting.quiet do
          printSpace setting
        match ← readLine setting with
        | none => return .quit 0 false
        | some line =>
            modify fun state => { state with space := line.text, isEnded := line.isEnded }
            return .next
  | .appendNext =>
      if ← isLast then
        return .quit 0 true
      else
        match ← readLine setting with
        | none => return .quit 0 true
        | some line =>
            modify fun state => { state with
              space := state.space ++ '\n' :: line.text
              isEnded := line.isEnded }
            return .next
  | .quit code prints => return .quit code prints
  | .hold =>
      set { state with held := state.space, heldEnded := state.isEnded }
      return .next
  | .holdBehind =>
      set { state with
        held := state.held ++ '\n' :: state.space
        heldEnded := state.heldEnded || state.isEnded }
      return .next
  | .fetch =>
      set { state with space := state.held, isEnded := state.heldEnded }
      return .next
  | .fetchBehind =>
      set { state with
        space := state.space ++ '\n' :: state.held
        isEnded := state.isEnded || state.heldEnded }
      return .next
  | .exchange =>
      set { state with
        space := state.held
        isEnded := state.heldEnded
        held := state.space
        heldEnded := state.isEnded }
      return .next
  | .clear =>
      set { state with space := [] }
      return .next
  | .readFile path =>
      set { state with waiting := state.waiting ++ [WaitingText.file path] }
      return .next
  | .writeFile path =>
      writeTo setting path state.space
      return .next
  | .writeFirst path =>
      writeTo setting path (firstLine state.space).1
      return .next

/-- Carry out commands from an index on. -/
def runCommands (setting : EditSetting) : (fuel : Nat) → (index : Nat) → Editing EditFlow
  | 0, _ => return .quit 1 false
  | fuel + 1, index => do
      match setting.commands[index]? with
      | none => return .ended true
      | some command =>
          let selected ←
            match command.selection with
            | none => pure true
            | some selection => isSelected index selection
          if selected == command.inverts then
            if command.action == .openBlock then
              let behind := behindBlock setting.commands setting.commands.size 0 (index + 1)
              runCommands setting fuel behind
            else
              runCommands setting fuel (index + 1)
          else
            match ← act setting index command with
            | .next => runCommands setting fuel (index + 1)
            | .jump target => runCommands setting fuel target
            | flow => return flow

/-- How many commands may be carried out for one line. -/
def commandLimit : Nat := 10000000

/-- Edit all lines. Answers the exit code, and whether the script asked to end. -/
def editLines (setting : EditSetting) : (fuel : Nat) → (reads : Bool) → Editing (Nat × Bool)
  | 0, _ => return (0, false)
  | fuel + 1, reads => do
      let line? ← if reads then readLine setting else pure none
      match line?, reads with
      | none, true => return (0, false)
      | line?, _ =>
          match line? with
          | some line =>
              modify fun state => { state with space := line.text, isEnded := line.isEnded }
          | none => pure ()
          match ← runCommands setting commandLimit 0 with
          | .quit code prints =>
              if prints && !setting.quiet then
                printSpace setting
              if prints then
                printWaiting setting
              return (code, true)
          | .again =>
              printWaiting setting
              editLines setting fuel false
          | .ended true =>
              unless setting.quiet do
                printSpace setting
              printWaiting setting
              editLines setting fuel true
          | _ =>
              printWaiting setting
              editLines setting fuel true

end Editing

/-- How many lines are edited at most. -/
def editLimit : Nat := 10000000

/-- A piece of a script: a text that was given, or a file. -/
inductive ScriptPiece where
  | given (number : Nat) (text : Octets)
  | file (path text : Octets)
  deriving Repr, DecidableEq

/-- The place in which a script is refused, in words. -/
def ScriptPiece.place (piece : ScriptPiece) (problem : ScriptProblem) : Octets :=
  match piece with
  | given number _ =>
      ("-e expression #" ++ toString number ++ ", char " ++ toString problem.position).toList
  | file path _ => "file ".toList ++ path ++ (" line " ++ toString problem.line).toList

/-- Read the pieces of a script one after the other; `depth` is how many blocks are open. -/
def readPieces (isExtended : Bool) : (depth : Nat) → List ScriptPiece → Act (List EditCommand)
  | depth, [] =>
      if depth == 0 then
        return []
      else
        Act.fail "-e expression #1, char 0: unmatched \x60\x7b'".toList 1
  | depth, piece :: rest => do
      let text :=
        match piece with
        | .given _ text => text
        | .file _ text => text
      let reader : ScriptReader := { rest := text, isExtended := isExtended, depth := depth }
      match (ScriptReading.readCommands (text.length + 1)).run reader with
      | .ok (commands, reader) =>
          return commands ++ (← readPieces isExtended reader.depth rest)
      | .error problem =>
          Act.fail (piece.place problem ++ ": ".toList ++ problem.words.toList) 1

/-- Join pieces of which the first ends in a backslash with the next. -/
def joinPieces : List ScriptPiece → List ScriptPiece
  | .given number text :: rest =>
      match joinPieces rest with
      | .given next more :: others =>
          if text.getLast? == some '\\' then
            .given number (text ++ '\n' :: more) :: others
          else
            .given number text :: .given next more :: others
      | others => .given number text :: others
  | piece :: rest => piece :: joinPieces rest
  | [] => []

/-- Files that a script writes. -/
def writtenFiles (commands : List EditCommand) : List Octets :=
  let paths := commands.filterMap fun command =>
    match command.action with
    | .writeFile path | .writeFirst path => some path
    | .substitute substitution => substitution.file
    | _ => none
  paths.filter fun path => path != "/dev/stdout".toList && path != "/dev/stderr".toList

/-- The labels to which a script jumps although they are not there. -/
def missingLabels (commands : List EditCommand) : List Octets :=
  commands.filterMap fun command =>
    match command.action with
    | .jump _ label =>
        if label.isEmpty || commands.any fun other => other.action == .label label then none
        else some label
    | _ => none

/-- The pieces of a script that options give. -/
def scriptPieces (options : List GivenOption) : Act (List ScriptPiece) := do
  let mut pieces := []
  let mut number := 0
  for option in options do
    match option.key, option.value with
    | "e", some text =>
        number := number + 1
        pieces := pieces ++ [.given number text]
    | "f", some path =>
        match ← Act.readOperand path with
        | .ok text => pieces := pieces ++ [.file path text]
        | .error reason =>
            Act.fail ("couldn't open file ".toList ++ path ++ ": ".toList ++
              reason.words.toList) 4
    | _, _ => pure ()
  return pieces

/-- The path under which a file is kept before it is edited. -/
def backupPath (path suffix : Octets) : Octets :=
  if suffix.contains '*' then
    let name := baseName path []
    let front := path.take (path.length - name.length)
    let kept := suffix.flatMap fun c => if c == '*' then name else [c]
    if kept.contains '/' then kept else front ++ kept
  else
    path ++ suffix

/-- Edit one file in its place. -/
def editInPlace (setting : EditSetting) (suffix : Option Octets) (path : Octets) :
    Act (Nat × Bool) := do
  match ← Act.observe fun disk dir => disk.file dir (pathOf path) with
  | .error reason =>
      if (← Act.nodeAt .followed path).toOption.isSome then
        Act.complain ("couldn't edit ".toList ++ path ++ ": not a regular file".toList)
        return (4, false)
      else
        Act.complain ("can't read ".toList ++ path ++ ": ".toList ++ reason.words.toList)
        return (2, false)
  | .ok (content, _) =>
      let text := Octets.ofBytes content
      let start : EditState := {
        ahead := [⟨path, inputLines setting.separator text⟩]
        kept := some [] }
      let ((code, quits), state) ← (Editing.editLines setting editLimit true).run start
      let rest := state.ahead.flatMap fun input => input.lines.flatMap fun line =>
        line.text ++ if line.isEnded then [setting.separator] else []
      let written := ((state.kept.getD []).reverse).flatten
      let owed := if state.owesEnd && !rest.isEmpty then [setting.separator] else []
      match suffix with
      | some suffix => discard (Act.writeFile (backupPath path suffix) text .writing)
      | none => pure ()
      discard (Act.writeFile path (written ++ if quits then owed ++ rest else []) .writing)
      return (code, quits)

/-- Edit inputs; `apart` tells whether each has lines of its own. -/
def editInputs (setting : EditSetting) (apart : Bool) (operands : List Octets) : Act Nat := do
  let mut inputs : List EditInput := []
  let mut code := 0
  let mut unreadable : Option Octets := none
  for operand in if operands.isEmpty then [['-']] else operands do
    if unreadable.isNone then
      match ← Act.readOperand operand with
      | .ok text => inputs := inputs ++ [⟨operand, inputLines setting.separator text⟩]
      | .error .isADirectory => unreadable := some operand
      | .error reason =>
          code := 2
          Act.complain ("can't read ".toList ++ operand ++ ": ".toList ++ reason.words.toList)
  let groups := if apart then inputs.map fun input => [input] else [inputs]
  let mut state : EditState := {}
  let mut goesOn := true
  for group in groups do
    if goesOn then
      let ((answer, quits), behind) ←
        (Editing.editLines setting editLimit true).run
          { state with ahead := group, lineNumber := 0 }
      state := behind
      if quits then
        goesOn := !(quits && (answer != 0 || behind.ahead.any fun input => !input.lines.isEmpty))
        if answer != 0 then
          code := answer
  match unreadable, goesOn with
  | some operand, true =>
      Act.fail ("read error on ".toList ++ operand ++ ": Is a directory".toList) 4
  | _, _ => return code

/-- Edit lines as a script says. -/
def sed : Utility := fun _ arguments => do
  let switches := plainSwitches "Eru" ++ [
    Switch.short 'n' "quiet" .alone, Switch.short 's' "separate" .alone,
    Switch.short 'z' "null-data" .alone, Switch.short 'i' "in-place" .maybeValue,
    Switch.short 'e' "expression" .withValue, Switch.short 'f' "file" .withValue,
    Switch.short 'l' "line-length" .withValue, Switch.long "silent" .alone,
    Switch.long "regexp-extended" .alone, Switch.long "posix" .alone,
    Switch.long "debug" .alone, Switch.long "sandbox" .alone,
    Switch.long "unbuffered" .alone, Switch.long "follow-symlinks" .alone]
  let usage : Octets :=
    "Usage: sed [OPTION]... \x7bscript-only-if-no-other-script\x7d [input-file]...\n".toList
  let call ←
    match readArguments switches true (arguments.length + 1) arguments {} with
    | .ok call => pure call
    | .error message => do
        Act.complain message
        discard (Act.writeTo 2 usage)
        Act.exit 1
  let given ← scriptPieces call.options
  let (pieces, operands) ←
    match given, call.operands with
    | [], script :: operands => do pure ([ScriptPiece.given 1 script], operands)
    | [], [] => do
        discard (Act.writeTo 2 usage)
        Act.exit 1
    | given, operands => do pure (given, operands)
  let isExtended := ["E", "r", "regexp-extended"].any call.has
  let startsQuiet :=
    match pieces.head? with
    | some (.given _ text) | some (.file _ text) => "#n".toList.isPrefixOf text
    | none => false
  let commands ← readPieces isExtended 0 (joinPieces pieces)
  match missingLabels commands with
  | label :: _ => Act.fail ("can't find label for jump to \x60".toList ++ label ++ ['\'']) 4
  | [] => pure ()
  for path in writtenFiles commands do
    match ← Act.writeFile path [] .writing with
    | .ok () => pure ()
    | .error reason =>
        Act.fail ("couldn't open file ".toList ++ path ++ ": ".toList ++ reason.words.toList) 4
  let setting : EditSetting := {
    commands := commands.toArray
    quiet := startsQuiet || call.has "n" || call.has "silent"
    separator := if call.has "z" then '\x00' else '\n'
    width := ((call.value? "l").bind count?).getD 70 }
  if call.has "i" then
    if operands.isEmpty then
      Act.fail "no input files".toList 4
    else
      let mut code := 0
      let mut goesOn := true
      for path in operands do
        if goesOn then
          let (answer, quits) ← editInPlace setting (call.value? "i") path
          if answer != 0 then
            code := answer
          goesOn := !quits
      return code
  else
    editInputs setting (call.has "s") operands

end Provision.Utilities
