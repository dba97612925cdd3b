import Provision.Host.Programs.Program
import Provision.Host.Utilities.Print

namespace Provision.Utilities

open Programs

/-!
# Utilities that start programs

They start a program in a changed environment, or several times.
-/

/-- Start the first program that can be started; a file without an interpreter is a script. -/
def startFirst (launcher : Launcher) (process : Process) (words : List Octets) :
    (refusal : SystemError) → List Octets → Act (Except SystemError Ending)
  | refusal, [] => return .error refusal
  | refusal, path :: rest => do
      let start (path : Octets) (words : List Octets) : Act (Except SystemError Ending) := do
        return ← (launcher process path words : StateM System _)
      match ← start path words with
      | .ok ending => return .ok ending
      | .error .notAProgram =>
          let shell := "/bin/sh".toList
          start shell (shell :: path :: words.drop 1)
      | .error reason =>
          if searchGoesOn reason then
            let refusal := if refusal == .permissionDenied then refusal else reason
            startFirst launcher process words refusal rest
          else
            return .error reason

/-- Start the program that words call, in a process. -/
def startWords (launcher : Launcher) (process : Process) (words : List Octets) :
    Act (Except SystemError Ending) := do
  let name := words.head?.getD []
  if isPathName name then
    startFirst launcher process words .notFound [name]
  else if name.isEmpty then
    return .error .notFound
  else if Disk.nameLimit < name.length then
    return .error .nameTooLong
  else
    let entries := Text.splitOn ':' ((process.variableNamed? "PATH").getD defaultPath)
    startFirst launcher process words .notFound (entries.map fun entry => inWrittenEntry entry name)

/-- The exit code for a program that cannot be started. -/
def refusalCode (reason : SystemError) : Nat :=
  if reason == .notFound then 127 else 126

/-- Become the program that words call. -/
def become (launcher : Launcher) (process : Process) (words : List Octets)
    (refuse : Octets → SystemError → Act Unit) : Act Nat := do
  match ← startWords launcher process words with
  | .ok (.exited code) => return code
  | .ok (.killed signal) => Act.finish (.killed signal)
  | .error reason => do
      refuse (words.head?.getD []) reason
      return refusalCode reason

/-- An environment in which a name has a value. -/
def withVariable (name value : Octets) : List (Octets × Octets) → List (Octets × Octets)
  | [] => [(name, value)]
  | entry :: rest =>
      if entry.1 == name then (name, value) :: rest else entry :: withVariable name value rest

/-- Read assignments in front of words. -/
def readAssignments : List Octets → List (Octets × Octets) → List (Octets × Octets) × List Octets
  | [], environment => (environment, [])
  | word :: rest, environment =>
      if word.contains '=' then
        let name := word.takeWhile (· != '=')
        readAssignments rest (withVariable name (word.drop (name.length + 1)) environment)
      else
        (environment, word :: rest)

/-- Split a text into words as a shell would, without expanding anything. -/
def splitWords : (quote : Option Char) → (word : Option Octets) → Octets → List Octets
  | _, none, [] => []
  | _, some word, [] => [word.reverse]
  | none, word, '\\' :: c :: rest => splitWords none (some (c :: word.getD [])) rest
  | none, word, c :: rest =>
      if c == '\'' || c == '"' then splitWords (some c) (some (word.getD [])) rest
      else if c == ' ' || c == '\t' || c == '\n' then
        word.toList.map List.reverse ++ splitWords none none rest
      else splitWords none (some (c :: word.getD [])) rest
  | some sign, word, c :: rest =>
      if c == sign then splitWords none word rest
      else splitWords (some sign) (some (c :: word.getD [])) rest

/-- Take apart the words that stand in one argument. -/
def splitArguments : List Octets → List Octets
  | [] => []
  | ['-', 'S'] :: text :: rest => splitWords none none text ++ rest
  | word :: rest =>
      if "-S".toList.isPrefixOf word && 2 < word.length then
        splitWords none none (word.drop 2) ++ rest
      else if "--split-string=".toList.isPrefixOf word then
        splitWords none none (word.drop "--split-string=".length) ++ rest
      else
        word :: rest

/-- Print the environment, or run a program in a changed one. -/
def env : Utility := fun launcher arguments => do
  let switches := [
    Switch.short 'i' "ignore-environment" .alone, Switch.short 'u' "unset" .withValue,
    Switch.short '0' "null" .alone, Switch.short 'C' "chdir" .withValue,
    Switch.short 'v' "debug" .alone, Switch.short 'S' "split-string" .withValue]
  let call ← Act.leadingArguments switches 125 (splitArguments arguments)
  let process ← read
  let (empties, operands) :=
    match call.operands with
    | ['-'] :: operands => (true, operands)
    | operands => (call.has "i", operands)
  let mut environment := if empties then [] else process.environment
  for name in call.values "u" do
    if name.isEmpty || name.contains '=' then
      Act.fail ("cannot unset ".toList ++ quotedAlways name ++ ": Invalid argument".toList) 125
    environment := environment.filter fun entry => entry.1 != name
  let (changed, words) := readAssignments operands environment
  let ending := if call.has "0" then ['\x00'] else ['\n']
  let directory ←
    match call.value? "C" with
    | none => pure process.directory
    | some path => do
        match (← Act.system).disk.locate .followed process.directory (pathOf path) with
        | .ok location =>
            if ← Act.isDirectory path then
              pure location
            else
              Act.complainThat "cannot change directory to" path
                (if ((← Act.system).disk.node? location).isSome then .notADirectory else .notFound)
              Act.exit 125
        | .error reason => do
            Act.complainThat "cannot change directory to" path reason
            Act.exit 125
  if words.isEmpty then
    Act.print (changed.flatMap fun entry => entry.1 ++ '=' :: entry.2 ++ ending)
    return 0
  else
    let child := { process with environment := changed, directory := directory }
    become launcher child words fun name reason => do
      Act.complain (quotedAlways name ++ ": ".toList ++ reason.words.toList)
      if reason == .notFound && name.any fun c => c == ' ' || c == '\t' then
        Act.complain "use -[v]S to pass options in shebang lines".toList

/-- Print variables of the environment. -/
def printenv : Utility := fun _ arguments => do
  let call ← Act.leadingArguments [Switch.short '0' "null" .alone] 2 arguments
  let process ← read
  let ending := if call.has "0" then ['\x00'] else ['\n']
  if call.operands.isEmpty then
    Act.print (process.environment.flatMap fun entry => entry.1 ++ '=' :: entry.2 ++ ending)
    return 0
  else
    let values := call.operands.filterMap fun name => process.environment.lookup name
    Act.print (values.flatMap fun value => value ++ ending)
    return if values.length == call.operands.length then 0 else 1

/-- Complain that a program cannot be started. -/
def refuseCommand (name : Octets) (reason : SystemError) : Act Unit :=
  Act.complainThat "failed to run command" name reason

/-- Run a program that no hangup ends. -/
def nohup : Utility := fun launcher arguments => do
  let call ← Act.leadingArguments [] 125 arguments
  if call.operands.isEmpty then
    missingOperand 125
  else
    let process ← read
    become launcher { process with ignored := process.ignored ++ [1] } call.operands refuseCommand

/-- Run a program with another priority. -/
def nice : Utility := fun launcher arguments => do
  let isNumber (word : Octets) : Bool :=
    match word with
    | '-' :: rest => (wholeNumber? rest).isSome && !rest.isEmpty
    | _ => false
  let arguments := if (arguments.head?.map isNumber).getD false then arguments.tail else arguments
  let call ← Act.leadingArguments [Switch.short 'n' "adjustment" .withValue] 125 arguments
  match call.value? "n" with
  | some text =>
      if (wholeNumber? text).isNone then
        Act.fail ("invalid adjustment ".toList ++ quotedAlways text) 125
  | none => pure ()
  if call.operands.isEmpty then
    Act.printLine ['0']
    return 0
  else
    become launcher (← read) call.operands fun name reason =>
      Act.complain (quotedAlways name ++ ": ".toList ++ reason.words.toList)

/-- Run a program for a limited time. -/
def timeout : Utility := fun launcher arguments => do
  let switches := [
    Switch.short 'k' "kill-after" .withValue, Switch.short 's' "signal" .withValue,
    Switch.short 'v' "verbose" .alone, Switch.long "preserve-status" .alone,
    Switch.long "foreground" .alone]
  let call ← Act.leadingArguments switches 125 arguments
  match call.operands with
  | interval :: name :: words =>
      if !isInterval interval then
        Act.misused ("invalid time interval ".toList ++ quotedAlways interval) 125
      else
        let process ← read
        let child := { process with number := ← Act.newProcess, parent := process.number }
        match ← startWords launcher child (name :: words) with
        | .ok (.exited code) => return code
        | .ok (.killed signal) => Act.finish (.killed signal)
        | .error reason => do
            refuseCommand name reason
            return refusalCode reason
  | _ =>
      let name := (← read).name
      discard (Act.writeTo 2
        ("Try '".toList ++ name ++ " --help' for more information.\n".toList))
      return 125

/-- Run a program in a session of its own. -/
def setsid : Utility := fun launcher arguments => do
  let call ← Act.leadingArguments (plainSwitches "cfw") 1 arguments
  if call.operands.isEmpty then
    Act.misused "no command specified".toList 1
  else
    become launcher (← read) call.operands fun name reason =>
      Act.complain ("failed to execute ".toList ++ name ++ ": ".toList ++ reason.words.toList)

/-- Run a program whose output is written at once or later. -/
def stdbuf : Utility := fun launcher arguments => do
  let switches := [
    Switch.short 'i' "input" .withValue, Switch.short 'o' "output" .withValue,
    Switch.short 'e' "error" .withValue]
  let call ← Act.leadingArguments switches 125 arguments
  if call.operands.isEmpty then
    missingOperand 125
  else if call.options.isEmpty then
    Act.misused "you must specify a buffering mode option".toList 125
  else
    become launcher (← read) call.operands refuseCommand

/-! ## Commands for many arguments -/

/-- How far a text of arguments is read. -/
structure ArgumentReader where
  /-- Whether only the end of a line ends an argument. -/
  byLine : Bool
  /-- Lines with their arguments, all in reverse. -/
  lines : List (List Octets) := [[]]
  word : Option Octets := none
  quote : Option Char := none
  escaped : Bool := false
  deriving Repr, DecidableEq

namespace ArgumentReader

/-- Add a character to the present argument. -/
def add (reader : ArgumentReader) (c : Char) : ArgumentReader :=
  { reader with word := some (c :: reader.word.getD []), escaped := false }

/-- End the present argument. -/
def endWord (reader : ArgumentReader) : ArgumentReader :=
  match reader.word, reader.lines with
  | some word, line :: lines =>
      { reader with word := none, lines := (word.reverse :: line) :: lines }
  | _, _ => reader

/-- Read a character. -/
def step (reader : ArgumentReader) (c : Char) : ArgumentReader :=
  let isBlank := c == ' ' || c == '\t'
  match reader.quote with
  | some sign =>
      if c == sign then { reader with quote := none, word := some (reader.word.getD []) }
      else reader.add c
  | none =>
      if reader.escaped then reader.add c
      else if c == '\\' then { reader with escaped := true }
      else if c == '\'' || c == '"' then
        { reader with quote := some c, word := some (reader.word.getD []) }
      else if c == '\n' then
        let ended := reader.endWord
        { ended with lines := [] :: ended.lines }
      else if isBlank && reader.byLine then
        if reader.word.isNone then reader else reader.add c
      else if isBlank then reader.endWord
      else reader.add c

/-- The lines of arguments in a text that hold any, and the quote that is not closed. -/
def read (byLine : Bool) (text : Octets) : List (List Octets) × Option Char :=
  let reader := text.foldl step { byLine := byLine }
  let ended := if reader.quote.isSome then reader else reader.endWord
  (((ended.lines.reverse).map List.reverse).filter fun line => !line.isEmpty, reader.quote)

end ArgumentReader

/-- Cut a list into pieces of a length. -/
def piecesOf (length : Nat) : (fuel : Nat) → List α → List (List α)
  | 0, _ => []
  | _ + 1, [] => []
  | fuel + 1, items => items.take length :: piecesOf length fuel (items.drop length)

/-- Put a text in place of a mark. -/
def replaceMark (mark text : Octets) : (fuel : Nat) → Octets → Octets
  | 0, rest => rest
  | _ + 1, [] => []
  | fuel + 1, c :: rest =>
      if !mark.isEmpty && mark.isPrefixOf (c :: rest) then
        text ++ replaceMark mark text fuel ((c :: rest).drop mark.length)
      else
        c :: replaceMark mark text fuel rest

/-- Run a command with arguments that are read. -/
def runWith (launcher : Launcher) (shows : Bool) (words : List Octets) : Act Nat := do
  let process ← read
  if shows then
    discard (Act.writeTo 2 (joined [' '] words ++ ['\n']))
  let (input, system) := (← Act.system).addOpen { channel := .device .null, reads := true }
  set system
  let child := { process.setDescriptor 0 (some input) with
    number := ← Act.newProcess
    parent := process.number }
  let name := words.head?.getD []
  match ← startWords launcher child words with
  | .ok (.exited 0) => return 0
  | .ok (.exited 255) => Act.fail (name ++ ": exited with status 255; aborting".toList) 124
  | .ok (.exited _) => return 123
  | .ok (.killed signal) =>
      Act.fail (name ++ ": terminated by signal ".toList ++ (toString signal).toList) 125
  | .error reason =>
      Act.fail (quotedName name ++ ": ".toList ++ reason.words.toList) (refusalCode reason)

/-- The number that an option of a command for many arguments gives. -/
def countOption (call : Arguments) (key : String) : Act (Option Nat) := do
  match call.value? key with
  | none => return none
  | some text =>
      let option := " for -".toList ++ key.toList ++ " option".toList
      match count? text with
      | some 0 => Act.misused ("value 0".toList ++ option ++ " should be >= 1".toList) 1
      | some number => return some number
      | none => Act.misused ("invalid number \"".toList ++ text ++ ['"'] ++ option) 1

/-- The commands that lines of arguments ask for. -/
def commandsFor (words : List Octets) (mark? : Option Octets) (lineCount count : Option Nat)
    (skipsEmpty : Bool) (lines : List (List Octets)) : List (List Octets) :=
  match mark?, lineCount with
  | some mark, _ => lines.map fun (line : List Octets) =>
      words.map fun (word : Octets) =>
        replaceMark mark (joined [' '] line) (word.length + 1) word
  | none, some lineCount =>
      (piecesOf lineCount lines.length lines).map fun (lines : List (List Octets)) =>
        words ++ lines.flatten
  | none, none =>
      let items := lines.flatten
      if items.isEmpty then
        if skipsEmpty then [] else [words]
      else
        (piecesOf (count.getD items.length) items.length items).map fun (items : List Octets) =>
          words ++ items

/-- Run a command with the arguments that are read. -/
def xargs : Utility := fun launcher arguments => do
  let switches := plainSwitches "prtxo" ++ [
    Switch.short '0' "null" .alone, Switch.short 'n' "max-args" .withValue,
    Switch.short 'I' "" .withValue, Switch.short 'i' "replace" .maybeValue,
    Switch.short 'L' "max-lines" .withValue, Switch.short 'd' "delimiter" .withValue,
    Switch.short 'a' "arg-file" .withValue, Switch.short 's' "max-chars" .withValue,
    Switch.short 'P' "max-procs" .withValue, Switch.short 'E' "" .withValue,
    Switch.long "no-run-if-empty" .alone, Switch.long "verbose" .alone]
  let call ← Act.leadingArguments switches 1 arguments
  let count ← countOption call "n"
  let lineCount ← countOption call "L"
  let mark? :=
    match call.value? "I" with
    | some mark => some mark
    | none => if call.has "i" then some ((call.value? "i").getD ['\x7b', '\x7d']) else none
  let operand := (call.value? "a").getD ['-']
  let text ←
    match ← Act.readOperand operand with
    | .ok text => pure text
    | .error reason => do
        Act.complain ("Cannot open input file ".toList ++ quotedAlways operand ++ ": ".toList ++
          reason.words.toList)
        Act.exit 1
  let delimiter? :=
    if call.has "0" then some '\x00'
    else (call.value? "d").bind fun text => (unescaped echoEscapes text).1.head?
  let (lines, unclosed) :=
    match delimiter? with
    | none => ArgumentReader.read mark?.isSome text
    | some delimiter =>
        let items := Text.splitOn delimiter text
        let items := if items.getLast? == some [] then items.dropLast else items
        (items.map fun item => [item], none)
  let words := if call.operands.isEmpty then ["echo".toList] else call.operands
  let mut code := 0
  match unclosed with
  | some sign =>
      let name := if sign == '"' then "double" else "single"
      Act.complain ("unmatched ".toList ++ name.toList ++ (" quote; by default quotes are " ++
        "special to xargs unless you use the -0 option").toList)
      code := 1
  | none => pure ()
  let skips := call.has "r" || call.has "no-run-if-empty" || code != 0
  for command in commandsFor words mark? lineCount count skips lines do
    let answer ← runWith launcher (call.has "t" || call.has "verbose") command
    if answer != 0 then
      code := answer
  return code

/-- The moment at which everything is said to happen, by the letters of a format. -/
def fixedDate : Char → Octets
  | 'Y' | 'G' => "2025".toList
  | 'm' | 'd' | 'V' => "01".toList
  | 'H' | 'M' | 'S' => "00".toList
  | 'y' => "25".toList
  | 'e' => " 1".toList
  | 'j' => "001".toList
  | 'a' => "Wed".toList
  | 'A' => "Wednesday".toList
  | 'b' | 'h' => "Jan".toList
  | 'B' => "January".toList
  | 'F' => "2025-01-01".toList
  | 'T' | 'X' => "00:00:00".toList
  | 'R' => "00:00".toList
  | 'D' | 'x' => "01/01/25".toList
  | 's' => "1735689600".toList
  | 'N' => "000000000".toList
  | 'Z' => "UTC".toList
  | 'z' => "+0000".toList
  | 'u' | 'w' => ['3']
  | 'n' => ['\n']
  | 't' => ['\t']
  | '%' => ['%']
  | c => ['%', c]

/-- Fill in the fields of a date. -/
def fillDate : Octets → Octets
  | '%' :: letter :: rest => fixedDate letter ++ fillDate rest
  | c :: rest => c :: fillDate rest
  | [] => []

/-- Print the date. -/
def date : Utility := fun _ arguments => do
  let switches := [
    Switch.short 'u' "utc" .alone, Switch.short 'd' "date" .withValue,
    Switch.short 'r' "reference" .withValue, Switch.short 'R' "rfc-email" .alone,
    Switch.short 'I' "iso-8601" .maybeValue]
  let call ← Act.arguments switches 1 arguments
  match call.operands with
  | [] =>
      let format := if call.has "I" then "%F" else "%a %b %e %H:%M:%S %Z %Y"
      Act.printLine (fillDate format.toList)
      return 0
  | ['+' :: format] =>
      Act.printLine (fillDate format)
      return 0
  | [word] => Act.fail ("invalid date ".toList ++ quotedAlways word) 1
  | _ :: extra :: _ => extraOperand extra 1

end Provision.Utilities
