import Provision.Host.Shell.Characters
import Provision.Host.Shell.Syntax

namespace Provision.Shell

/-!
# Reading scripts

A script is read character by character and token by token. The reader knows the
line it is on, the names that are replaced by other text, and the texts that are
still to come behind the current line.
-/

/-- A word with the text it was written as. -/
structure WordToken where
  word : Word
  written : Octets

/-- A piece of a script. -/
inductive Token where
  | word (word : WordToken)
  | operator (sign : Octets)
  | redirection (descriptor : RedirectedDescriptor) (sign : Octets)
  | newline
  | finish

namespace Token

/-- The text of a word in which nothing is quoted or replaced. -/
def plain? : Token → Option Octets
  | word ⟨[.plain text], _⟩ => some text
  | _ => none

/-- Whether a token is a certain operator. -/
def isOperator (token : Token) (sign : String) : Bool :=
  match token with
  | operator written => written == sign.toList
  | _ => false

/-- Whether a token is a word without quotes that is written so. -/
def isPlain (token : Token) (text : String) : Bool :=
  token.plain? == some text.toList

end Token

/-- Why a script cannot be read. -/
inductive SyntaxProblem where
  /-- A token stands where it must not. -/
  | unexpected (found : Octets) (expected : Option Octets)
  | unexpectedEnd
  /-- What a sign opened is not closed. -/
  | unclosed (closing : Char)
  | unclosedArithmetic
  | badLoopVariable (written : Octets)
  | badFunctionName (written : Octets)
  | badDescriptor
  /-- A condition between double brackets is not understood. -/
  | badCondition (words : List Octets)
  deriving Repr, DecidableEq

/-- A problem with the place where it was found. -/
structure SyntaxError where
  problem : SyntaxProblem
  line : Nat
  /-- The text of the line. -/
  lineText : Octets := []
  deriving Repr, DecidableEq

/-- A text behind a line that is still to be read. -/
structure AwaitedText where
  number : Nat
  delimiter : Octets
  /-- Whether substitutions are done in it. -/
  expands : Bool
  dropsTabs : Bool
  line : Nat

/-- A text that ended with the script instead of its delimiter. -/
structure UnendedText where
  delimiter : Octets
  start : Nat
  line : Nat

/-- A script that is being read. -/
structure Reader where
  dialect : Dialect
  rest : Octets
  /-- Names that were replaced, with what is left of the text in their place. -/
  expanding : List (Octets × Octets) := []
  line : Nat := 1
  /-- What was left when the current line began. -/
  lineStart : Octets := []
  /-- How many characters were read. -/
  position : Nat := 0
  /-- Names that are replaced when they call a command. -/
  aliases : List (Octets × Octets) := []
  /-- Whether patterns have groups. -/
  groups : Bool := false
  pushed : Option Token := none
  /-- The line on which the latest token began, and what was left when the line began. -/
  tokenLine : Nat × Octets := (1, [])
  awaited : List AwaitedText := []
  /-- Texts that were read, by their numbers. -/
  texts : List (Nat × Word) := []
  nextText : Nat := 0
  unended : List UnendedText := []

/-- Something that is read from a script. -/
abbrev Parse := StateT Reader (Except SyntaxError)

namespace Reader

/-- A reader at the beginning of a text. -/
def ofText (dialect : Dialect) (text : Octets) : Reader where
  dialect := dialect
  rest := text
  lineStart := text

/-- Everything that is left. -/
def ahead (reader : Reader) : Octets :=
  (reader.expanding.flatMap Prod.snd) ++ reader.rest

/-- The next character, taken as it is. -/
def takeChar? (reader : Reader) : Option (Char × Reader) :=
  let expanding := reader.expanding.dropWhile fun entry => entry.2.isEmpty
  match expanding with
  | (name, c :: text) :: others =>
      some (c, { reader with
        expanding := (name, text) :: others
        position := reader.position + 1 })
  | _ =>
      match reader.rest with
      | [] => none
      | c :: rest =>
          let reader := { reader with
            expanding := []
            rest := rest
            position := reader.position + 1 }
          if c == '\n' then
            some (c, { reader with line := reader.line + 1, lineStart := rest })
          else
            some (c, reader)

/-- The next character, behind line ends that a backslash takes away. -/
def nextChar? : (fuel : Nat) → Reader → Option (Char × Reader)
  | 0, reader => reader.takeChar?
  | fuel + 1, reader =>
      match reader.takeChar? with
      | some ('\\', behind) =>
          match behind.takeChar? with
          | some ('\n', behind) => behind.nextChar? fuel
          | _ => some ('\\', behind)
      | found => found

/-- The text of the current line. -/
def lineText (reader : Reader) : Octets :=
  reader.lineStart.takeWhile (· != '\n')

end Reader

namespace Parse

/-- How many line ends in a row a backslash may take away. -/
def joinedLines : Nat := 1000

/-- Refuse the script. -/
def refuse (problem : SyntaxProblem) : Parse α := do
  let reader ← get
  throw ⟨problem, reader.line, reader.lineText⟩

/-- Refuse the script for something that began on an earlier line. -/
def refuseAt (line : Nat) (problem : SyntaxProblem) : Parse α := do
  throw ⟨problem, line, (← get).lineText⟩

/-- Look at the next character. -/
def peekChar : Parse (Option Char) := do
  return ((← get).nextChar? joinedLines).map Prod.fst

/-- Take the next character. -/
def takeChar : Parse (Option Char) := do
  match (← get).nextChar? joinedLines with
  | none => return none
  | some (c, reader) =>
      set reader
      return some c

/-- Take the next character as it is, a backslash before a line end too. -/
def takeRaw : Parse (Option Char) := do
  match (← get).takeChar? with
  | none => return none
  | some (c, reader) =>
      set reader
      return some c

/-- Take the next character if it is this one. -/
def takeIf (c : Char) : Parse Bool := do
  match (← get).nextChar? joinedLines with
  | some (d, reader) =>
      if c == d then
        set reader
        return true
      else
        return false
  | none => return false

/-- Take the next character if it is this one, and if a condition holds. -/
def takeWhere (holds : Bool) (c : Char) : Parse Bool :=
  if holds then takeIf c else return false

/-- Take characters as long as they belong to a class. -/
def takeWhile (belongs : Char → Bool) : (fuel : Nat) → Parse Octets
  | 0 => return []
  | fuel + 1 => do
      match (← get).nextChar? joinedLines with
      | some (c, reader) =>
          if belongs c then
            set reader
            return c :: (← takeWhile belongs fuel)
          else
            return []
      | none => return []

/-- A bound on the number of steps that read what is left. -/
def bound : Parse Nat := do
  return (← get).ahead.length + 1

/-- Take all characters of a class. -/
def takeAll (belongs : Char → Bool) : Parse Octets := do
  takeWhile belongs (← bound)

/-- Run a step, and answer also the text that it read. -/
def withText (step : Parse α) : Parse (α × Octets) := do
  let start ← get
  let answer ← step
  let count := (← get).position - start.position
  return (answer, start.ahead.take count)

/-- Take back what a step read, unless it answers something. -/
def attempt (step : Parse (Option α)) : Parse (Option α) := do
  let start ← get
  match ← step with
  | some answer => return some answer
  | none =>
      set start
      return none

/-- The dialect of the script. -/
def dialect : Parse Dialect := do
  return (← get).dialect

/-- Whether the script is for the shell with more features. -/
def isBash : Parse Bool := do
  return (← get).dialect == .bash

end Parse

end Provision.Shell
