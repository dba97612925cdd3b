import Provision.Encoding.Octets
import Provision.Host.Matching.RegexSyntax

namespace Provision.Utilities

open Matching

/-!
# Scripts that edit lines

A script is a list of commands. Each is carried out for the lines that it
selects. Errors tell the place in the script, counted in characters and lines.
-/

/-- An expression that is searched for; without one, the latest is searched for again. -/
structure SearchPattern where
  regex : Option Regex
  style : Regex.Style := {}
  deriving Repr, DecidableEq

/-- A line that a command selects. -/
inductive LinePlace where
  | number (number : Nat)
  /-- A line, and every one that is a number of lines behind it. -/
  | every (first step : Nat)
  | last
  | found (pattern : SearchPattern)
  deriving Repr, DecidableEq

/-- Where a range of lines ends. -/
inductive RangeEnd where
  | place (place : LinePlace)
  /-- So many lines behind the first. -/
  | behind (count : Nat)
  /-- The next line whose number is a multiple. -/
  | multiple (number : Nat)
  deriving Repr, DecidableEq

/-- The lines that a command selects. -/
structure LineSelection where
  first : LinePlace
  last : Option RangeEnd := none
  deriving Repr, DecidableEq

/-- How letters that are put in are written. -/
inductive LetterCase where
  | asWritten
  | upper
  | lower
  | upperNext
  | lowerNext
  deriving Repr, DecidableEq

/-- A part of what is put in place of a match. -/
inductive ReplacementPart where
  | text (text : Octets)
  /-- What a group has matched. -/
  | group (number : Nat)
  | letters (case : LetterCase)
  deriving Repr, DecidableEq

/-- How matches are replaced. -/
structure Substitution where
  pattern : SearchPattern
  parts : List ReplacementPart
  /-- Whether all matches from the first on are replaced. -/
  everywhere : Bool := false
  /-- Which match is the first that is replaced. -/
  number : Option Nat := none
  prints : Bool := false
  file : Option Octets := none
  deriving Repr, DecidableEq

/-- When a jump is taken. -/
inductive JumpCondition where
  | always
  | replaced
  | notReplaced
  deriving Repr, DecidableEq

/-- What a command does. -/
inductive EditAction where
  | openBlock
  | closeBlock
  | label (name : Octets)
  | jump (condition : JumpCondition) (label : Octets)
  | substitute (substitution : Substitution)
  | translate (pairs : List (Char × Char))
  | append (text : Octets)
  | insert (text : Octets)
  | change (text : Octets)
  | delete
  | deleteFirst
  | print
  | printFirst
  | printNumber
  | printName
  | printVisible (width : Option Nat)
  | next
  | appendNext
  | quit (code : Nat) (prints : Bool)
  | hold
  | holdBehind
  | fetch
  | fetchBehind
  | exchange
  | clear
  | readFile (path : Octets)
  | writeFile (path : Octets)
  | writeFirst (path : Octets)
  | nothing
  deriving Repr, DecidableEq

/-- A command. -/
structure EditCommand where
  selection : Option LineSelection := none
  /-- Whether the lines are meant that are not selected. -/
  inverts : Bool := false
  action : EditAction
  deriving Repr, DecidableEq

/-- Why a script cannot be read, with the place. -/
structure ScriptProblem where
  words : String
  position : Nat
  line : Nat
  deriving Repr, DecidableEq

/-- What is left of a script, and how far it is read. -/
structure ScriptReader where
  rest : Octets
  position : Nat := 0
  line : Nat := 1
  isExtended : Bool := false
  /-- How many blocks are open. -/
  depth : Nat := 0
  deriving Repr, DecidableEq

/-- A part of reading a script. -/
abbrev ScriptReading := StateT ScriptReader (Except ScriptProblem)

namespace ScriptReading

/-- Refuse the script at the place that is reached. -/
def refuse (words : String) : ScriptReading α := do
  let reader ← get
  throw ⟨words, reader.position, reader.line⟩

/-- Look at the next character. -/
def peek : ScriptReading (Option Char) := do
  return (← get).rest.head?

/-- Take the next character. -/
def take : ScriptReading (Option Char) := do
  let reader ← get
  match reader.rest with
  | [] => return none
  | c :: rest =>
      set { reader with
        rest := rest
        position := reader.position + 1
        line := if c == '\n' then reader.line + 1 else reader.line }
      return some c

/-- Take the next character without looking at it. -/
def drop : ScriptReading Unit := do
  discard take

/-- Take characters as long as they are wanted. -/
def takeWhile (isWanted : Char → Bool) : ScriptReading Octets := do
  let found := (← get).rest.takeWhile isWanted
  for _ in found do
    drop
  return found

/-- Whether a character is a blank. -/
def isBlank (c : Char) : Bool :=
  c == ' ' || c == '\t'

/-- Skip blanks. -/
def skipBlanks : ScriptReading Unit := do
  discard (takeWhile isBlank)

/-- Read a number. -/
def number : ScriptReading Nat := do
  let digits ← takeWhile Char.isDigit
  return Nat.ofDigitChars 10 digits 0

/-- A bound on the steps that read what is left. -/
def bound : ScriptReading Nat := do
  return (← get).rest.length + 1

/-- Read a name of a class in a set, up to its sign and a bracket. -/
def readNamed (sign : Char) : (fuel : Nat) → ScriptReading (Option Octets)
  | 0 => return none
  | fuel + 1 => do
      match ← take with
      | none => return none
      | some c =>
          if c == sign && (← peek) == some ']' then
            drop
            return some [c, ']']
          else
            return (← readNamed sign fuel).map (c :: ·)

/-- Read a set up to its closing bracket. -/
def readSet : (fuel : Nat) → ScriptReading (Option Octets)
  | 0 => return none
  | fuel + 1 => do
      match ← peek with
      | none | some '\n' => return none
      | some c =>
          drop
          let next ← peek
          if c == ']' then
            return some [']']
          else if c == '[' && (next == some ':' || next == some '.' || next == some '=') then
            drop
            match ← readNamed (next.getD ':') fuel with
            | none => return none
            | some named => return (← readSet fuel).map fun rest => c :: next.toList ++ named ++ rest
          else if c == '\\' && next == some 'n' then
            drop
            return (← readSet fuel).map ('\n' :: ·)
          else
            return (← readSet fuel).map (c :: ·)

/-- Read a text up to a delimiter; in an expression, the delimiter may stand in a set. -/
def readUpTo (delimiter : Char) (isExpression : Bool) :
    (fuel : Nat) → ScriptReading (Option Octets)
  | 0 => return none
  | fuel + 1 => do
      match ← peek with
      | none | some '\n' => return none
      | some c =>
          drop
          let goOn (text : Octets) : ScriptReading (Option Octets) := do
            return (← readUpTo delimiter isExpression fuel).map (text ++ ·)
          if c == delimiter then
            return some []
          else if c == '\\' then
            match ← take with
            | none => return none
            | some d =>
                if d == 'n' && isExpression then goOn ['\n']
                else if d == '\n' then goOn ['\n']
                else if d == delimiter && (isExpression || d != '&') then goOn [d]
                else goOn ['\\', d]
          else if c == '[' && isExpression then
            let start ← if (← peek) == some '^' then do drop; pure ['[', '^'] else pure ['[']
            let start ← if (← peek) == some ']' then do drop; pure (start ++ [']']) else pure start
            match ← readSet fuel with
            | none => return none
            | some set => goOn (start ++ set)
          else
            goOn [c]

/-- The character that a letter behind a backslash stands for. -/
def escaped? : Char → Option Char
  | 'a' => some '\x07'
  | 'f' => some '\x0c'
  | 'r' => some '\r'
  | 't' => some '\t'
  | 'v' => some '\x0b'
  | _ => none

/-- The character that a number behind a backslash writes, and what follows it. -/
def numbered? (text : Octets) : Option (Char × Octets) :=
  let read (base count : Nat) (isDigit : Char → Bool) (rest : Octets) : Option (Char × Octets) :=
    let digits := (rest.take count).takeWhile isDigit
    if digits.isEmpty then
      none
    else
      let value (c : Char) : Nat :=
        if c.isDigit then c.toNat - '0'.toNat else c.toLower.toNat - 'a'.toNat + 10
      let number := digits.foldl (fun total c => total * base + value c) 0
      some (Char.ofNat (number % 256), rest.drop digits.length)
  match text with
  | 'd' :: rest => read 10 3 Char.isDigit rest
  | 'o' :: rest => read 8 3 (fun c => '0' ≤ c && c ≤ '7') rest
  | 'x' :: rest =>
      read 16 2 (fun c => c.isDigit || ('a' ≤ c.toLower && c.toLower ≤ 'f')) rest
  | 'c' :: c :: rest => some (Char.ofNat (c.toUpper.toNat ^^^ 64), rest)
  | _ => none

/-- Write characters in place of escapes that stand for them in an expression. -/
def resolveEscapes : (fuel : Nat) → Octets → Octets
  | 0, text => text
  | fuel + 1, text =>
      match text with
      | '\\' :: c :: rest =>
          match escaped? c with
          | some d => d :: resolveEscapes fuel rest
          | none =>
              match numbered? (c :: rest) with
              | some (d, rest) =>
                  let isSpecial := "^$.*[]\\".toList.contains d
                  (if isSpecial then ['\\', d] else [d]) ++ resolveEscapes fuel rest
              | none => '\\' :: c :: resolveEscapes fuel rest
      | c :: rest => c :: resolveEscapes fuel rest
      | [] => []

/-- Read an expression that was written between delimiters. -/
def readPattern (text : Octets) (style : Regex.Style) : ScriptReading SearchPattern := do
  if text.isEmpty then
    return ⟨none, style⟩
  else
    let flavor := if (← get).isExtended then Regex.Flavor.extended else .basic
    match Regex.ofText flavor (resolveEscapes text.length text) with
    | .ok regex => return ⟨some regex, style⟩
    | .error problem => refuse problem.words

/-- The parts of what is put in place of a match. -/
def replacementParts : (fuel : Nat) → Octets → List ReplacementPart
  | 0, _ => []
  | fuel + 1, text =>
      match text with
      | [] => []
      | '&' :: rest => .group 0 :: replacementParts fuel rest
      | '\\' :: c :: rest =>
          match c with
          | 'n' => .text ['\n'] :: replacementParts fuel rest
          | 'U' => .letters .upper :: replacementParts fuel rest
          | 'L' => .letters .lower :: replacementParts fuel rest
          | 'u' => .letters .upperNext :: replacementParts fuel rest
          | 'l' => .letters .lowerNext :: replacementParts fuel rest
          | 'E' => .letters .asWritten :: replacementParts fuel rest
          | c =>
              if c.isDigit then
                .group (c.toNat - '0'.toNat) :: replacementParts fuel rest
              else
                match escaped? c, numbered? (c :: rest) with
                | some d, _ => .text [d] :: replacementParts fuel rest
                | none, some (d, rest) => .text [d] :: replacementParts fuel rest
                | none, none => .text [c] :: replacementParts fuel rest
      | c :: rest => .text [c] :: replacementParts fuel rest

/-- Read what must stand behind a command: nothing more. -/
def readEnd : ScriptReading Unit := do
  skipBlanks
  match ← peek with
  | none | some '}' | some '#' => return ()
  | some c =>
      drop
      unless c == '\n' || c == ';' || c == '\r' do
        refuse "extra characters after command"

/-- Read the name of a file, up to the end of the line. -/
def readFileName : ScriptReading Octets := do
  skipBlanks
  let name ← takeWhile (· != '\n')
  if name.isEmpty then
    refuse "missing filename in r/R/w/W commands"
  else
    drop
    return name

/-- Read a label. -/
def readLabel : ScriptReading Octets := do
  skipBlanks
  takeWhile fun c => !(isBlank c || c == '\n' || c == ';' || c == '}')

/-- The options of a replacement. -/
structure SubstitutionOptions where
  everywhere : Bool := false
  number : Option Nat := none
  prints : Bool := false
  style : Regex.Style := {}
  file : Option Octets := none

/-- Read the options of a replacement. -/
def readOptions : (fuel : Nat) → SubstitutionOptions → ScriptReading SubstitutionOptions
  | 0, options => return options
  | fuel + 1, options => do
      match ← peek with
      | none | some '}' | some '#' => return options
      | some c =>
          if c.isDigit then
            let number ← number
            if options.number.isSome then
              refuse "multiple number options to \x60s' command"
            else if number == 0 then
              refuse "number option to \x60s' command may not be zero"
            else
              readOptions fuel { options with number := some number }
          else
            drop
            match c with
            | ';' | '\n' => return options
            | ' ' | '\t' | '\r' | 'e' => readOptions fuel options
            | 'i' | 'I' =>
                readOptions fuel { options with style := { options.style with folds := true } }
            | 'm' | 'M' =>
                readOptions fuel { options with style := { options.style with manyLines := true } }
            | 'p' =>
                if options.prints then
                  refuse "multiple \x60p' options to \x60s' command"
                else
                  readOptions fuel { options with prints := true }
            | 'g' =>
                if options.everywhere then
                  refuse "multiple \x60g' options to \x60s' command"
                else
                  readOptions fuel { options with everywhere := true }
            | 'w' => return { options with file := some (← readFileName) }
            | _ => refuse "unknown option to \x60s'"

/-- Read a replacement. -/
def readSubstitution : ScriptReading EditAction := do
  let unterminated := "unterminated \x60s' command"
  match ← take with
  | none => refuse unterminated
  | some delimiter =>
      match ← readUpTo delimiter true (← bound) with
      | none => refuse unterminated
      | some pattern =>
          match ← readUpTo delimiter false (← bound) with
          | none => refuse unterminated
          | some replacement =>
              let options ← readOptions (← bound) {}
              let pattern ← readPattern pattern options.style
              let parts := replacementParts replacement.length replacement
              let highest := parts.foldl (fun highest part =>
                match part with
                | .group number => max highest number
                | _ => highest) 0
              match pattern.regex with
              | some regex =>
                  if regex.groups < highest then
                    refuse ("invalid reference \\" ++ toString highest ++
                      " on \x60s' command's RHS")
              | none => pure ()
              return .substitute {
                pattern := pattern
                parts := parts
                everywhere := options.everywhere
                number := options.number
                prints := options.prints
                file := options.file }

/-- The characters of a text in which a backslash may stand before another one. -/
def translated : Octets → Octets
  | '\\' :: 'n' :: rest => '\n' :: translated rest
  | '\\' :: '\\' :: rest => '\\' :: translated rest
  | c :: rest => c :: translated rest
  | [] => []

/-- Read a translation of characters. -/
def readTranslation : ScriptReading EditAction := do
  let unterminated := "unterminated \x60y' command"
  match ← take with
  | none => refuse unterminated
  | some delimiter =>
      match ← readUpTo delimiter false (← bound) with
      | none => refuse unterminated
      | some source =>
          match ← readUpTo delimiter false (← bound) with
          | none => refuse unterminated
          | some target =>
              let source := translated source
              let target := translated target
              if source.length != target.length then
                refuse "strings for \x60y' command are different lengths"
              else
                readEnd
                return .translate (source.zip target)

/-- Take backslashes out of a text, and resolve escapes. -/
def plainText : (fuel : Nat) → Octets → Octets
  | 0, text => text
  | fuel + 1, text =>
      match text with
      | '\\' :: c :: rest =>
          match escaped? c with
          | some d => d :: plainText fuel rest
          | none =>
              match numbered? (c :: rest) with
              | some (d, rest) => d :: plainText fuel rest
              | none => c :: plainText fuel rest
      | c :: rest => c :: plainText fuel rest
      | [] => []

/-- Read lines of text up to one that does not end in a backslash. -/
def readTextLines : (fuel : Nat) → ScriptReading Octets
  | 0 => return []
  | fuel + 1 => do
      match ← take with
      | none => return ['\n']
      | some '\n' => return ['\n']
      | some '\\' =>
          match ← take with
          | none => return ['\n']
          | some d => return '\\' :: d :: (← readTextLines fuel)
      | some c => return c :: (← readTextLines fuel)

/-- Read the text of a command. -/
def readText : ScriptReading Octets := do
  skipBlanks
  match ← peek with
  | none => refuse "expected \\ after \x60a', \x60c' or \x60i'"
  | some '\\' => do
      drop
      let start ← get
      skipBlanks
      match ← peek with
      | some '\n' => drop
      | _ => set start
      if (← get).rest.isEmpty then
        return []
  | some _ => pure ()
  let text ← readTextLines (← bound)
  return plainText text.length text

/-- Read a number behind a command, if there is one. -/
def readCode? : ScriptReading (Option Nat) := do
  skipBlanks
  match ← peek with
  | some c => if c.isDigit then return some (← number) else return none
  | none => return none

/-- Read the options of an expression that selects lines. -/
def readStyle : (fuel : Nat) → Regex.Style → ScriptReading Regex.Style
  | 0, style => return style
  | fuel + 1, style => do
      match ← peek with
      | some 'I' => drop; readStyle fuel { style with folds := true }
      | some 'M' => drop; readStyle fuel { style with manyLines := true }
      | _ => return style

/-- Read a place that selects lines, if there is one. -/
def readPlace? : ScriptReading (Option LinePlace) := do
  let expression (delimiter : Char) : ScriptReading (Option LinePlace) := do
    match ← readUpTo delimiter true (← bound) with
    | none => refuse "unterminated address regex"
    | some text =>
        skipBlanks
        let style ← readStyle (← bound) {}
        return some (.found (← readPattern text style))
  match ← peek with
  | some '/' => drop; expression '/'
  | some '\\' =>
      drop
      match ← take with
      | some delimiter => expression delimiter
      | none => refuse "unterminated address regex"
  | some '$' => drop; return some .last
  | some c =>
      if c == '+' || c == '~' then
        drop
        discard number
        refuse "invalid usage of +N or ~N as first address"
      else if c.isDigit then
        let first ← number
        skipBlanks
        if (← peek) == some '~' then
          drop
          return some (.every first (← number))
        else
          return some (.number first)
      else
        return none
  | none => return none

/-- Read the end of a range. -/
def readRangeEnd : ScriptReading RangeEnd := do
  skipBlanks
  match ← peek with
  | some '+' => drop; return .behind (← number)
  | some '~' => drop; return .multiple (← number)
  | _ =>
      match ← readPlace? with
      | some place => return .place place
      | none => do
          drop
          refuse "unexpected \x60,'"

/-- Read which lines a command selects. -/
def readSelection? : ScriptReading (Option LineSelection) := do
  match ← readPlace? with
  | none => return none
  | some first =>
      skipBlanks
      if (← peek) == some ',' then
        drop
        return some ⟨first, some (← readRangeEnd)⟩
      else
        return some ⟨first, none⟩

/-- Whether a selection asks for a line before the first in a way that has no meaning. -/
def isBeforeFirst (selection : LineSelection) : Bool :=
  match selection.first, selection.last with
  | .number 0, some (.place (.found _)) => false
  | .number 0, _ => true
  | _, _ => false

/-- Commands that are written with one letter and nothing else. -/
def plainAction? : Char → Option EditAction
  | '=' => some .printNumber
  | 'd' => some .delete
  | 'D' => some .deleteFirst
  | 'F' => some .printName
  | 'g' => some .fetch
  | 'G' => some .fetchBehind
  | 'h' => some .hold
  | 'H' => some .holdBehind
  | 'n' => some .next
  | 'N' => some .appendNext
  | 'p' => some .print
  | 'P' => some .printFirst
  | 'x' => some .exchange
  | 'z' => some .clear
  | _ => none

/-- Read what a command does, behind its letter. -/
def readAction (selection : Option LineSelection) (letter : Char) : ScriptReading EditAction := do
  let isRange := (selection.bind LineSelection.last).isSome
  let jump (condition : JumpCondition) : ScriptReading EditAction := do
    let label ← readLabel
    readEnd
    return .jump condition label
  match plainAction? letter with
  | some action =>
      readEnd
      return action
  | none =>
      match letter with
      | '{' =>
          modify fun reader => { reader with depth := reader.depth + 1 }
          return .openBlock
      | '}' =>
          let depth := (← get).depth
          if depth == 0 then
            refuse "unexpected \x60\x7d'"
          else if selection.isSome then
            refuse ": doesn't want any addresses"
          else
            modify fun reader => { reader with depth := depth - 1 }
            readEnd
            return .closeBlock
      | ':' =>
          if selection.isSome then
            refuse ": doesn't want any addresses"
          else
            let label ← readLabel
            if label.isEmpty then
              refuse "\":\" lacks a label"
            else
              return .label label
      | 'b' => jump .always
      | 't' => jump .replaced
      | 'T' => jump .notReplaced
      | 's' => readSubstitution
      | 'y' => readTranslation
      | 'a' => return .append (← readText)
      | 'i' => return .insert (← readText)
      | 'c' => return .change (← readText)
      | 'q' | 'Q' =>
          if isRange then
            refuse "command only uses one address"
          else
            let code ← readCode?
            readEnd
            return .quit (code.getD 0) (letter == 'q')
      | 'l' =>
          let width ← readCode?
          readEnd
          return .printVisible width
      | 'r' => return .readFile (← readFileName)
      | 'w' => return .writeFile (← readFileName)
      | 'W' => return .writeFirst (← readFileName)
      | 'v' =>
          discard readLabel
          readEnd
          return .nothing
      | '#' =>
          if selection.isSome then
            refuse "comments don't accept any addresses"
          else
            discard (takeWhile (· != '\n'))
            return .nothing
      | c => refuse ("unknown command: \x60" ++ String.singleton c ++ "'")

/-- Read a command, if there is one. -/
def readCommand? : ScriptReading (Option EditCommand) := do
  discard (takeWhile fun c => isBlank c || c == '\n' || c == ';')
  match ← peek with
  | none => return none
  | some _ => do
      let selection ← readSelection?
      skipBlanks
      let inverts := (← peek) == some '!'
      if inverts then
        drop
        skipBlanks
        if (← peek) == some '!' then
          drop
          refuse "multiple \x60!'s"
      match ← take with
      | none => refuse "missing command"
      | some letter =>
          if selection.any isBeforeFirst then
            refuse "invalid usage of line address 0"
          else
            return some ⟨selection, inverts, ← readAction selection letter⟩

/-- Read commands up to the end of the script. -/
def readCommands : (fuel : Nat) → ScriptReading (List EditCommand)
  | 0 => return []
  | fuel + 1 => do
      match ← readCommand? with
      | none => return []
      | some command => return command :: (← readCommands fuel)

end ScriptReading

end Provision.Utilities
