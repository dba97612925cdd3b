import Provision.Host.Shell.Words

namespace Provision.Shell

/-!
# Tokens

Signs that separate or join commands, redirections, and words. Behind a line end
stand the texts that the line asked for.
-/

/-- Signs that separate or join commands, the longest first. -/
def commandSigns : Dialect → List String
  | .dash => [";;", "&&", "||", ";", "&", "|", "(", ")"]
  | .bash => [";;&", ";;", ";&", "&&", "||", "|&", ";", "&", "|", "(", ")"]

/-- Signs of redirections, the longest first. -/
def redirectionSigns : Dialect → List String
  | .dash => ["<<-", "<<", "<&", "<>", "<", ">>", ">|", ">&", ">"]
  | .bash => ["&>>", "&>", "<<<", "<<-", "<<", "<&", "<>", "<", ">>", ">|", ">&", ">"]

/-- Words that have a meaning of their own where a command may begin. -/
def keywords : Dialect → List String
  | .dash => ["!", "case", "do", "done", "elif", "else", "esac", "fi", "for", "if", "in",
      "then", "until", "while", "\x7b", "\x7d"]
  | .bash => ["!", "case", "do", "done", "elif", "else", "esac", "fi", "for", "if", "in",
      "then", "until", "while", "\x7b", "\x7d", "function", "select", "time", "[["]

namespace Tokens

open Parse Words

/-- Take a sign if it comes next. -/
def takeSign (sign : Octets) : Parse Bool := do
  let start ← get
  for c in sign do
    if !(← takeIf c) then
      set start
      return false
  return true

/-- Take the first sign of a list that comes next. -/
def takeSomeSign : List String → Parse (Option Octets)
  | [] => return none
  | sign :: rest => do
      if ← takeSign sign.toList then return some sign.toList else takeSomeSign rest

/-- Take a redirection sign behind a descriptor. -/
def takeRedirection (descriptor : RedirectedDescriptor) : Parse (Option Token) := do
  match ← takeSomeSign (redirectionSigns (← dialect)) with
  | some sign => return some (.redirection descriptor sign)
  | none => return none

/-- Take a redirection, with the descriptor in front of its sign. -/
def readRedirection : Parse (Option Token) :=
  attempt do
    let digits ← takeAll Char.isDigit
    if digits.isEmpty then
      if ← takeWhere (← isBash) '{' then
        let name ← takeAll continuesName
        let next ← (if ← takeIf '}' then peekChar else pure none)
        if isName name && (next == some '<' || next == some '>') then
          takeRedirection (.variable name)
        else
          return none
      else
        takeRedirection .usual
    else
      let next ← peekChar
      if (next == some '<' || next == some '>') && (digits.length == 1 || (← isBash)) then
        takeRedirection (.number (numberOfDigits 10 digits))
      else
        return none

/-- Skip blanks and a comment. -/
def skipBlanks : Parse Unit := do
  discard (takeAll fun c => c == ' ' || c == '\t')
  if (← peekChar) == some '#' then
    let comment := (← get).ahead.takeWhile (· != '\n')
    for _ in comment do
      discard takeRaw

/-- Read the next token; `assigns` tells whether it may be an assignment. -/
def read (nested : Nested) (assigns : Bool) : Parse Token := do
  match (← get).pushed with
  | some token =>
      modify fun reader => { reader with pushed := none }
      return token
  | none =>
      skipBlanks
      modify fun reader => { reader with tokenLine := (reader.line, reader.lineStart) }
      match ← peekChar with
      | none =>
          readAwaited nested
          return .finish
      | some '\n' =>
          discard takeChar
          readAwaited nested
          return .newline
      | some _ =>
          match ← peekTwo with
          | (some '<', some '(') | (some '>', some '(') =>
              if ← isBash then
                return .word (← readWord nested false)
              else
                return (← readRedirection).getD .finish
          | _ =>
              match ← readRedirection with
              | some token => return token
              | none =>
                  match ← takeSomeSign (commandSigns (← dialect)) with
                  | some sign => return .operator sign
                  | none => return .word (← readWord nested assigns)

/-- Put a token back. -/
def putBack (token : Token) : Parse Unit :=
  modify fun reader => { reader with pushed := some token }

/-- Read the next token that is not a line end. -/
def readBehindLines (nested : Nested) (assigns : Bool) : (fuel : Nat) → Parse Token
  | 0 => return .finish
  | fuel + 1 => do
      match ← read nested assigns with
      | .newline => readBehindLines nested assigns fuel
      | token => return token

/--
Replace a word that calls a command by the text that it stands for, unless it is
being replaced already.
-/
def replaceAliases (nested : Nested) (assigns : Bool) : (fuel : Nat) → Token → Parse Token
  | 0, token => return token
  | fuel + 1, token => do
      let reader ← get
      match token.plain? with
      | none => return token
      | some name =>
          match reader.aliases.lookup name with
          | none => return token
          | some text =>
              if reader.expanding.any fun entry => entry.1 == name then
                return token
              else
                set { reader with expanding := (name, text ++ [' ']) :: reader.expanding }
                replaceAliases nested assigns fuel (← read nested assigns)

/-- Read a token where a command may begin. -/
def readCommandStart (nested : Nested) (behindLines : Bool) : Parse Token := do
  let token ←
    if behindLines then readBehindLines nested true (← bound) else read nested true
  replaceAliases nested true 100 token

/-- Whether a token is a keyword. -/
def isKeyword (dialect : Dialect) (token : Token) : Bool :=
  match token.plain? with
  | some text => (keywords dialect).any fun keyword => keyword.toList == text
  | none => false

/-- Whether a token ends a list of commands. -/
def endsList (token : Token) : Bool :=
  [")", ";;", ";&", ";;&"].any token.isOperator ||
    ["do", "done", "elif", "else", "esac", "fi", "then", "\x7d"].any token.isPlain ||
    (token matches .finish)

/-- A text between double quotes. -/
def doubleQuoted (text : Octets) : Octets :=
  '"' :: text ++ ['"']

/-- What a token is called in a complaint. -/
def shown (dialect : Dialect) (keywordsCount : Bool) (token : Token) : Octets :=
  match dialect, token with
  | .dash, .word _ =>
      match token.plain? with
      | some text =>
          if keywordsCount && isKeyword .dash token then doubleQuoted text else "word".toList
      | none => "word".toList
  | .dash, .operator sign => doubleQuoted sign
  | .dash, .redirection .. => "redirection".toList
  | .dash, .finish => "end of file".toList
  | .bash, .word word => word.written
  | .bash, .operator sign => sign
  | .bash, .redirection _ sign => sign
  | _, .newline => "newline".toList
  | .bash, .finish => []

/-- The line on which a script ends. -/
def lastLine (reader : Reader) : Nat :=
  if reader.lineStart.isEmpty then reader.line else reader.line + 1

/-- Refuse a token that stands where it must not. -/
def refuseToken (keywordsCount : Bool) (token : Token) (expected : Option String) : Parse α := do
  let reader ← get
  match reader.dialect, token with
  | .bash, .finish => refuseAt (lastLine reader) .unexpectedEnd
  | .bash, _ =>
      let (line, start) :=
        if token matches .newline then reader.tokenLine else (reader.line, reader.lineStart)
      throw {
        problem := .unexpected (shown .bash false token) none
        line := line
        lineText := start.takeWhile (· != '\n') }
  | .dash, _ =>
      refuse (.unexpected (shown .dash keywordsCount token) (expected.map String.toList))

end Tokens

end Provision.Shell
