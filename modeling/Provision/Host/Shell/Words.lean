import Provision.Host.Shell.Reader

namespace Provision.Shell

/-!
# Reading words

A word ends at a blank or at a sign that separates commands, unless they are
quoted or belong to a substitution. What a character means depends on the quotes
it stands in.
-/

/-- The quotes that text stands in. -/
inductive Quoting where
  | unquoted
  /-- Double quotes. -/
  | doubled
  /-- A text behind a line of the script. -/
  | text
  | calculation
  deriving Repr, DecidableEq

namespace Quoting

/-- The quotes for a word that stands in a substitution. -/
def inner : Quoting → Quoting
  | unquoted => unquoted
  | doubled | text | calculation => doubled

end Quoting

/-- Where reading stops. -/
inductive Stop where
  /-- Before a sign that ends a word. -/
  | separator
  /-- Behind a closing sign. -/
  | closing (c : Char)
  /-- Before one of some signs. -/
  | before (signs : List Char)
  /-- At the end of the text. -/
  | finish
  /-- Behind two closing parentheses; some may have been opened. -/
  | calculation (opened : Nat)
  deriving Repr, DecidableEq

/-- How commands inside a word are read. -/
structure Nested where
  /-- Reads commands up to a closing parenthesis, and the parenthesis. -/
  commands : Parse Command
  /-- Reads the commands of a whole text. -/
  script : Parse Command

/-- Join neighbouring pieces of text. -/
def joinParts : List Part → List Part
  | .plain left :: rest =>
      match joinParts rest with
      | .plain right :: rest => .plain (left ++ right) :: rest
      | rest => .plain left :: rest
  | .literal left :: rest =>
      match joinParts rest with
      | .literal right :: rest => .literal (left ++ right) :: rest
      | rest => .literal left :: rest
  | part :: rest => part :: joinParts rest
  | [] => []

/-- The number that digits write. -/
def numberOfDigits (base : Nat) (digits : Octets) : Nat :=
  digits.foldl (fun number c =>
    let digit :=
      if c.isDigit then c.toNat - '0'.toNat
      else if c.isUpper then c.toNat - 'A'.toNat + 10
      else c.toNat - 'a'.toNat + 10
    number * base + digit) 0

/-- Whether a character is an octal digit. -/
def isOctalDigit (c : Char) : Bool :=
  '0' ≤ c && c ≤ '7'

/-- Whether a character is a hexadecimal digit. -/
def isHexDigit (c : Char) : Bool :=
  c.isDigit || ('a' ≤ c && c ≤ 'f') || ('A' ≤ c && c ≤ 'F')

/-- The octets of the UTF-8 form of a code point. -/
def codePointOctets (number : Nat) : Octets :=
  Octets.ofString (String.singleton (Char.ofNat number))

/-- Signs that stand for control characters behind a backslash. -/
def controlEscapes : List (Char × Char) := [
  ('a', '\x07'),
  ('b', '\x08'),
  ('f', '\x0c'),
  ('n', '\n'),
  ('r', '\r'),
  ('t', '\t'),
  ('v', '\x0b')
]

/-- The text that escapes between single quotes behind a dollar sign write. -/
def unescaped : (fuel : Nat) → Octets → Octets
  | 0, _ => []
  | _ + 1, [] => []
  | fuel + 1, '\\' :: c :: rest =>
      let digits (belongs : Char → Bool) (count : Nat) (text : Octets) : Octets :=
        (text.takeWhile belongs).take count
      let numbered (base : Nat) (found rest : Octets) : Octets :=
        Char.ofNat (numberOfDigits base found % 256) :: unescaped fuel (rest.drop found.length)
      match controlEscapes.lookup c with
      | some control => control :: unescaped fuel rest
      | none =>
          if c == 'e' || c == 'E' then
            '\x1b' :: unescaped fuel rest
          else if ['\\', '\'', '"', '?'].contains c then
            c :: unescaped fuel rest
          else if isOctalDigit c then
            numbered 8 (digits isOctalDigit 3 (c :: rest)) (c :: rest)
          else if c == 'x' && !(digits isHexDigit 2 rest).isEmpty then
            numbered 16 (digits isHexDigit 2 rest) rest
          else if (c == 'u' || c == 'U') && !(digits isHexDigit 4 rest).isEmpty then
            let found := digits isHexDigit (if c == 'u' then 4 else 8) rest
            codePointOctets (numberOfDigits 16 found) ++
              unescaped fuel (rest.drop found.length)
          else if c == 'c' then
            match rest with
            | d :: rest => Char.ofNat (d.toNat % 32) :: unescaped fuel rest
            | [] => ['\\', 'c']
          else
            '\\' :: c :: unescaped fuel rest
  | fuel + 1, c :: rest => c :: unescaped fuel rest

/-- The text in which a backquoted command was hidden. -/
def uncovered (doubled : Bool) : Octets → Octets
  | '\\' :: c :: rest =>
      if c == '\\' || c == '\x60' || c == '$' || (doubled && c == '"') then
        c :: uncovered doubled rest
      else
        '\\' :: c :: uncovered doubled rest
  | c :: rest => c :: uncovered doubled rest
  | [] => []

namespace Words

open Parse

/-- The next two characters. -/
def peekTwo : Parse (Option Char × Option Char) := do
  match (← get).nextChar? joinedLines with
  | none => return (none, none)
  | some (c, reader) => return (some c, (reader.nextChar? joinedLines).map Prod.fst)

/-- Read up to a single quote, which is read too. -/
def readSingleQuoted : Parse Octets := do
  let start := (← get).line
  let rec loop : Nat → Parse Octets
    | 0 => return []
    | fuel + 1 => do
        match ← takeRaw with
        | none =>
            if ← isBash then refuseAt start (.unclosed '\'') else refuse (.unclosed '\'')
        | some '\'' => return []
        | some c => return c :: (← loop fuel)
  loop (← bound)

/-- Read escaped text up to a single quote, which is read too. -/
def readEscaped : Parse Octets := do
  let start := (← get).line
  let rec loop : Nat → Parse Octets
    | 0 => return []
    | fuel + 1 => do
        match ← takeRaw with
        | none => refuseAt start (.unclosed '\'')
        | some '\'' => return []
        | some '\\' =>
            match ← takeRaw with
            | some c => return '\\' :: c :: (← loop fuel)
            | none => refuseAt start (.unclosed '\'')
        | some c => return c :: (← loop fuel)
  let text ← loop (← bound)
  return unescaped (text.length + 1) text

/-- Read the text of a backquoted command up to the closing sign. -/
def readBackquoted : Parse Octets := do
  let start := (← get).line
  let rec loop : Nat → Parse Octets
    | 0 => return []
    | fuel + 1 => do
        match ← takeChar with
        | none =>
            if ← isBash then refuseAt start (.unclosed '\x60') else refuse (.unclosed '\x60')
        | some '\x60' => return []
        | some '\\' =>
            match ← takeRaw with
            | some c => return '\\' :: c :: (← loop fuel)
            | none => return ['\\']
        | some c => return c :: (← loop fuel)
  loop (← bound)

/-- Read the script that a text is, on lines of its own. -/
def readScript (nested : Nested) (text : Octets) : Parse Command := do
  let outer ← get
  set { outer with
    rest := text
    expanding := []
    line := 1
    lineStart := text
    position := 0
    pushed := none
    awaited := [] }
  let command ← nested.script
  let inner ← get
  set { outer with texts := inner.texts, nextText := inner.nextText }
  return command

/-- What a dollar sign in front of a parenthesis, a brace or a name begins. -/
abbrev ReadParts := Quoting → Stop → Parse (List Part)

/-- Read what stands between double quotes. -/
def readQuoted (readParts : ReadParts) : Parse Part := do
  return .quoted (← readParts .doubled (.closing '"'))

/-- A parameter with what becomes of its value. -/
def parameter (name : Octets) (operation : Operation) : Part :=
  .parameter name .whole operation

/-- Read what stands behind the name of a parameter, up to the closing brace. -/
def readPlainOperation (readParts : ReadParts) (quoting : Quoting) : Parse Operation := do
  let word (quoting : Quoting) : Parse (List Part) := readParts quoting (.closing '}')
  let choose (ifEmpty : Bool) : Parse Operation := do
    match ← takeChar with
    | some '-' => return .default ifEmpty (← word quoting.inner)
    | some '=' => return .assign ifEmpty (← word quoting.inner)
    | some '?' => return .demand ifEmpty (← word quoting.inner)
    | some '+' => return .alternative ifEmpty (← word quoting.inner)
    | _ =>
        discard (word quoting.inner)
        return .bad []
  match ← peekChar with
  | some '}' =>
      discard takeChar
      return .value
  | some '#' =>
      discard takeChar
      return .dropStart (← takeIf '#') (← word .unquoted)
  | some '%' =>
      discard takeChar
      return .dropEnd (← takeIf '%') (← word .unquoted)
  | some ':' =>
      discard takeChar
      choose true
  | some c =>
      if ['-', '=', '?', '+'].contains c then
        choose false
      else
        discard (word quoting.inner)
        return .bad []
  | none =>
      discard (word quoting.inner)
      return .bad []

/-- Read the rest of a substitution that is not understood. -/
def readBad (readParts : ReadParts) (quoting : Quoting) : Parse Part := do
  discard (readParts quoting.inner (.closing '}'))
  return parameter [] (.bad [])

/-- Read the length of a parameter, behind the sign that asks for it. -/
def readLength (readParts : ReadParts) (quoting : Quoting) : Parse Part := do
  let finish (name : Octets) : Parse Part := do
    if ← takeIf '}' then
      return parameter name .length
    else
      readBad readParts quoting
  match ← peekTwo with
  | (some c, next) =>
      if startsName c then
        finish (← takeAll continuesName)
      else if c.isDigit then
        finish (← takeAll Char.isDigit)
      else if c != '}' && next == some '}' then
        if isSpecialParameter c then
          discard takeChar
          finish [c]
        else
          readBad readParts quoting
      else
        return parameter ['#'] (← readPlainOperation readParts quoting)
  | (none, _) => readBad readParts quoting

/-- Read a parameter behind an opening brace. -/
def readPlainBraces (readParts : ReadParts) (quoting : Quoting) : Parse Part := do
  match ← peekChar with
  | none => readBad readParts quoting
  | some c =>
      if startsName c then
        let name ← takeAll continuesName
        return parameter name (← readPlainOperation readParts quoting)
      else if c.isDigit then
        let name ← takeAll Char.isDigit
        return parameter name (← readPlainOperation readParts quoting)
      else if c == '#' then
        discard takeChar
        readLength readParts quoting
      else if isSpecialParameter c then
        discard takeChar
        return parameter [c] (← readPlainOperation readParts quoting)
      else
        readBad readParts quoting

/-- Read a subscript behind a name, if there is one. -/
def readSubscript (readParts : ReadParts) : Parse Subscript := do
  if ← takeIf '[' then
    match ← peekTwo with
    | (some '@', some ']') =>
        discard takeChar
        discard takeChar
        return .all
    | (some '*', some ']') =>
        discard takeChar
        discard takeChar
        return .joined
    | _ => return .element (← readParts .unquoted (.closing ']'))
  else
    return .whole

/-- Read how a pattern in a value is replaced. -/
def readReplacement (readParts : ReadParts) : Parse Operation := do
  let place ← do
    match ← peekChar with
    | some '/' =>
        discard takeChar
        pure ReplacePlace.everywhere
    | some '#' =>
        discard takeChar
        pure .atStart
    | some '%' =>
        discard takeChar
        pure .atEnd
    | _ => pure .first
  let pattern ← readParts .unquoted (.before ['/', '}'])
  if ← takeIf '/' then
    return .replace place pattern (← readParts .unquoted (.closing '}'))
  else
    discard (takeIf '}')
    return .replace place pattern []

/-- Read how the case of a value is changed. -/
def readCaseChange (readParts : ReadParts) (change : CaseChange) (sign : Char) :
    Parse Operation := do
  discard takeChar
  let every ← takeIf sign
  return .changeCase change every (← readParts .unquoted (.closing '}'))

/-- Read what becomes of a value, with all that only one dialect knows. -/
def readOperation (readParts : ReadParts) (quoting : Quoting) : Parse Operation := do
  match ← peekTwo with
  | (some ':', some c) =>
      if ['-', '=', '?', '+'].contains c then
        readPlainOperation readParts quoting
      else
        discard takeChar
        let start ← readParts .calculation (.before [':', '}'])
        if ← takeIf ':' then
          return .slice start (some (← readParts .calculation (.closing '}')))
        else if ← takeIf '}' then
          return .slice start none
        else
          refuse (.unclosed '}')
  | (some '/', _) =>
      discard takeChar
      readReplacement readParts
  | (some '^', _) => readCaseChange readParts .raised '^'
  | (some ',', _) => readCaseChange readParts .lowered ','
  | (some '~', _) => readCaseChange readParts .toggled '~'
  | (some '@', some form) =>
      discard takeChar
      discard takeChar
      if ← takeWhere form.isAlpha '}' then
        return .transform form
      else
        readPlainOperation readParts quoting
  | _ => readPlainOperation readParts quoting

/-- Read a parameter with a subscript behind an opening brace. -/
def readIndexed (readParts : ReadParts) (quoting : Quoting) (name : Octets) : Parse Part := do
  let subscript ← if isName name then readSubscript readParts else pure .whole
  return .parameter name subscript (← readOperation readParts quoting)

/-- Read the name of a parameter. -/
def readParameterName : Parse (Option Octets) := do
  match ← peekChar with
  | none => return none
  | some c =>
      if startsName c then
        return some (← takeAll continuesName)
      else if c.isDigit then
        return some (← takeAll Char.isDigit)
      else if isSpecialParameter c then
        discard takeChar
        return some [c]
      else
        return none

/-- Read a parameter that another one names. -/
def readIndirect (readParts : ReadParts) (quoting : Quoting) : Parse Part := do
  match ← readParameterName with
  | none => readBad readParts quoting
  | some name =>
      match ← peekTwo with
      | (some '@', some '}') =>
          discard takeChar
          discard takeChar
          return parameter name (.names false)
      | (some '*', some '}') =>
          discard takeChar
          discard takeChar
          return parameter name (.names true)
      | _ =>
          let subscript ← readSubscript readParts
          let operation ← readOperation readParts quoting
          match subscript, operation with
          | .all, .value => return parameter name (.keys false)
          | .joined, .value => return parameter name (.keys true)
          | subscript, operation =>
              return .parameter name subscript (.indirect operation)

/-- Read a parameter behind an opening brace, with all that only one dialect knows. -/
def readRichBraces (readParts : ReadParts) (quoting : Quoting) : Parse Part := do
  match ← peekTwo with
  | (none, _) => readBad readParts quoting
  | (some '#', some c) =>
      discard takeChar
      if startsName c then
        let name ← takeAll continuesName
        let subscript ← readSubscript readParts
        if ← takeIf '}' then
          return .parameter name subscript .length
        else
          readBad readParts quoting
      else
        readLength readParts quoting
  | (some '!', some c) =>
      discard takeChar
      if startsName c || c.isDigit || ['@', '*', '#', '?', '!'].contains c then
        readIndirect readParts quoting
      else
        readIndexed readParts quoting ['!']
  | _ =>
      match ← readParameterName with
      | some name => readIndexed readParts quoting name
      | none => readBad readParts quoting

/-- Put the written form into a substitution that is not understood. -/
def noteWritten (written : Octets) : Part → Part
  | .parameter name subscript (.bad _) => .parameter name subscript (.bad written)
  | part => part

/-- Read a parameter behind an opening brace. -/
def readBraces (readParts : ReadParts) (quoting : Quoting) : Parse Part := do
  let (part, written) ← withText do
    if ← isBash then
      readRichBraces readParts quoting
    else
      readPlainBraces readParts quoting
  return noteWritten ("$\x7b".toList ++ written) part

/-- Read what stands behind a dollar sign and an opening parenthesis. -/
def readParenthesis (nested : Nested) (readParts : ReadParts) : Parse Part := do
  if ← takeIf '(' then
    let start ← get
    let calculate : Parse Part := do
      return .arithmetic (← readParts .calculation (.calculation 0))
    if ← isBash then
      match calculate.run start with
      | .ok (part, reader) =>
          set reader
          return part
      | .error _ =>
          let body ← nested.commands
          discard (takeIf ')')
          return .output (.subshell body start.line)
    else
      calculate
  else
    return .output (← nested.commands)

/-- Read what a dollar sign begins. -/
def readDollar (nested : Nested) (readParts : ReadParts) (quoting : Quoting) : Parse Part := do
  let lonely : Parse Part := do
    return if quoting == .unquoted then .plain ['$'] else .literal ['$']
  match ← peekChar with
  | none => lonely
  | some '(' =>
      discard takeChar
      readParenthesis nested readParts
  | some '{' =>
      discard takeChar
      readBraces readParts quoting
  | some c =>
      if startsName c then
        return parameter (← takeAll continuesName) .value
      else if isSpecialParameter c then
        discard takeChar
        return parameter [c] .value
      else if ← isBash then
        if c == '\'' && quoting == .unquoted then
          discard takeChar
          return .quoted [.literal (← readEscaped)]
        else if c == '"' && quoting == .unquoted then
          discard takeChar
          readQuoted readParts
        else if c == '[' then
          discard takeChar
          return .arithmetic (← readParts .calculation (.closing ']'))
        else
          lonely
      else
        lonely

/-- Read what a backquote begins. -/
def readBackquote (nested : Nested) (quoting : Quoting) : Parse Part := do
  let text := uncovered (quoting != .unquoted) (← readBackquoted)
  if ← isBash then
    return .lateOutput text
  else
    return .output (← readScript nested text)

/-- Read what a backslash between quotes begins. -/
def readEscape (stop : Stop) (quoting : Quoting) : Parse Part := do
  match ← takeRaw with
  | none => return .literal ['\\']
  | some c =>
      let alone :=
        ['$', '\x60', '\\'].contains c ||
        (c == '"' && !(quoting == .text && stop == .finish)) ||
        (c == '}' && stop == .closing '}' && !(← isBash))
      return .literal (if alone then [c] else ['\\', c])

/-- Read choices of patterns up to a closing parenthesis. -/
def readChoices (readParts : ReadParts) : (fuel : Nat) → Parse (List (List Part))
  | 0 => return []
  | fuel + 1 => do
      let choice ← readParts .unquoted (.before ['|', ')'])
      if ← takeIf '|' then
        return choice :: (← readChoices readParts fuel)
      else if ← takeIf ')' then
        return [choice]
      else
        refuse (.unclosed ')')

/-- Read a part of a word that begins with a character that was read already. -/
def readPart (nested : Nested) (readParts : ReadParts) (quoting : Quoting) (stop : Stop)
    (c : Char) : Parse Part := do
  if c == '$' then
    readDollar nested readParts quoting
  else if c == '\x60' then
    readBackquote nested quoting
  else if quoting == .unquoted then
    match c with
    | '\\' =>
        match ← takeRaw with
        | some d => return .literal [d]
        | none => return .literal ['\\']
    | '\'' => return .quoted [.literal (← readSingleQuoted)]
    | '"' => readQuoted readParts
    | c =>
        if ← takeWhere ((← get).groups && ['?', '*', '+', '@', '!'].contains c) '(' then
          return .patterns c (← readChoices readParts (← bound))
        else
          return .plain [c]
  else if c == '\\' then
    readEscape stop quoting
  else if c == '"' && (stop == .closing '}' || (quoting == .calculation && (← isBash))) then
    readQuoted readParts
  else
    return .literal [c]

/-- Complain that a text ended too early. -/
def refuseEnd (start : Nat) : Stop → Parse Unit
  | .closing c => do
      if ← isBash then refuseAt start (.unclosed c) else refuse (.unclosed c)
  | .calculation _ => do
      if ← isBash then refuseAt start (.unclosed ')') else refuse .unclosedArithmetic
  | _ => return ()

/-- Read parts of a word. -/
def readParts (nested : Nested) : (fuel : Nat) → Quoting → Stop → Parse (List Part)
  | 0, _, _ => return []
  | fuel + 1, quoting, stop => do
      let start := (← get).line
      let rec loop : Nat → Stop → Parse (List Part)
        | 0, _ => return []
        | steps + 1, stop => do
            match ← peekChar with
            | none =>
                refuseEnd start stop
                return []
            | some c =>
                let goOn (stop : Stop) : Parse (List Part) := do
                  discard takeChar
                  let part ← readPart nested (readParts nested fuel) quoting stop c
                  return part :: (← loop steps stop)
                match stop with
                | .separator =>
                    if endsWord c then
                      let (_, next) ← peekTwo
                      if (c == '<' || c == '>') && next == some '(' && (← isBash) then
                        discard takeChar
                        discard takeChar
                        let part := Part.channel (c == '<') (← nested.commands)
                        return part :: (← loop steps stop)
                      else
                        return []
                    else
                      goOn stop
                | .closing d =>
                    if c == d then
                      discard takeChar
                      return []
                    else
                      goOn stop
                | .before signs => if signs.contains c then return [] else goOn stop
                | .finish => goOn stop
                | .calculation opened =>
                    if c == '(' then
                      goOn (.calculation (opened + 1))
                    else if c == ')' then
                      match opened with
                      | opened + 1 => goOn (.calculation opened)
                      | 0 =>
                          let (_, next) ← peekTwo
                          if next == some ')' then
                            discard takeChar
                            discard takeChar
                            return []
                          else if ← isBash then
                            refuse (.unclosed ')')
                          else
                            goOn stop
                    else
                      goOn stop
      return joinParts (← loop (← bound) stop)

/-- How deep substitutions may stand in each other. -/
def depthBound : Nat := 200

/-- Read parts of a word up to a stop. -/
def read (nested : Nested) : ReadParts :=
  readParts nested depthBound

/-- Skip blanks, line ends and comments between the elements of an array. -/
def skipGaps : (fuel : Nat) → Parse Unit
  | 0 => return ()
  | fuel + 1 => do
      match ← peekChar with
      | some c =>
          if c == ' ' || c == '\t' || c == '\n' then
            discard takeChar
            skipGaps fuel
          else if c == '#' then
            discard (takeAll (· != '\n'))
            skipGaps fuel
          else
            return ()
      | none => return ()

/-- Read a subscript with the sign of an assignment behind it. -/
def readTarget (nested : Nested) : Parse (Option (List Part × Bool)) :=
  attempt do
    if !(← takeIf '[') then
      return none
    else
      let start ← get
      match (read nested .unquoted (.closing ']')).run start with
      | .error _ => return none
      | .ok (index, reader) =>
          set reader
          let adds ← takeIf '+'
          if ← takeIf '=' then return some (index, adds) else return none

/-- Read elements of an array up to the closing parenthesis. -/
def readElements (nested : Nested) :
    (fuel : Nat) → Parse (List (Option (List Part) × Bool × List Part))
  | 0 => return []
  | fuel + 1 => do
      skipGaps (← bound)
      if ← takeIf ')' then
        return []
      else
        match ← peekChar with
        | none => refuse (.unclosed ')')
        | some _ =>
            let target ← readTarget nested
            let word ← read nested .unquoted .separator
            if word.isEmpty && target.isNone then
              match ← takeChar with
              | some c => refuse (.unexpected [c] none)
              | none => refuse (.unclosed ')')
            else
              let element :=
                match target with
                | some (index, adds) => (some index, adds, word)
                | none => (none, false, word)
              return element :: (← readElements nested fuel)

/-- Read the beginning of an assignment that is not an ordinary word. -/
def readAssignmentStart (nested : Nested) : Parse (Option (List Part)) :=
  attempt do
    let name ← takeAll continuesName
    if !isName name then
      return none
    else
      match ← readTarget nested with
      | some (index, adds) => return some [.element name index adds]
      | none =>
          let adds ← takeIf '+'
          if ← takeWhere (← takeIf '=') '(' then
            let sign := if adds then ['+', '='] else ['=']
            return some [.plain (name ++ sign), .elements (← readElements nested (← bound))]
          else
            return none

/-- Read a word; `assigns` tells whether it may be an assignment. -/
def readWord (nested : Nested) (assigns : Bool) : Parse WordToken := do
  let (word, written) ← withText do
    let start ← if assigns && (← isBash) then readAssignmentStart nested else pure none
    let rest ← read nested .unquoted .separator
    return joinParts (start.getD [] ++ rest)
  return ⟨word, written⟩

/-- Read the delimiter of a text, and whether it was quoted. -/
def readDelimiter : Parse (Octets × Bool) := do
  let rec loop : Nat → Parse (Octets × Bool)
    | 0 => return ([], false)
    | fuel + 1 => do
        match ← peekChar with
        | none => return ([], false)
        | some c =>
            if endsWord c then
              return ([], false)
            else
              discard takeChar
              match c with
              | '\'' =>
                  let text ← readSingleQuoted
                  let (rest, _) ← loop fuel
                  return (text ++ rest, true)
              | '"' =>
                  let text ← takeAll (· != '"')
                  discard takeChar
                  let (rest, _) ← loop fuel
                  return (text ++ rest, true)
              | '\\' =>
                  let d ← takeRaw
                  let (rest, _) ← loop fuel
                  return (d.toList ++ rest, true)
              | c =>
                  let (rest, quoted) ← loop fuel
                  return (c :: rest, quoted)
  loop (← bound)

/-- Read lines up to a delimiter; answers whether it was there. -/
def readLines (delimiter : Octets) (dropsTabs : Bool) : (fuel : Nat) → Parse (Octets × Bool)
  | 0 => return ([], true)
  | fuel + 1 => do
      let rest := (← get).ahead
      if rest.isEmpty then
        return ([], false)
      else
        let line := rest.takeWhile (· != '\n')
        let shown := if dropsTabs then line.dropWhile (· == '\t') else line
        for _ in List.range (line.length + 1) do
          discard takeRaw
        if shown == delimiter then
          return ([], true)
        else
          let ending := if line.length < rest.length then ['\n'] else []
          let (lines, ended) ← readLines delimiter dropsTabs fuel
          return (shown ++ ending ++ lines, ended)

/-- Read the texts that stand behind the current line. -/
def readAwaited (nested : Nested) : Parse Unit := do
  let awaited := (← get).awaited
  modify fun reader => { reader with awaited := [] }
  for text in awaited do
    let start ← get
    let (body, ended) ← readLines text.delimiter text.dropsTabs (← bound)
    unless ended do
      let line := (← get).line
      let line := if body.getLast? == some '\n' then line - 1 else line
      modify fun reader => { reader with
        unended := reader.unended ++ [⟨text.delimiter, text.line, line⟩] }
    let behind ← get
    let word : Word ←
      if text.expands then do
        set { behind with rest := body, expanding := [], line := start.line, lineStart := body }
        let parts ← read nested .text .finish
        let inner ← get
        set { behind with texts := inner.texts, nextText := inner.nextText }
        pure parts
      else
        pure [.literal body]
    modify fun reader => { reader with texts := (text.number, word) :: reader.texts }

/-- Note that a text is to come behind the current line. Answers its number. -/
def awaitText (delimiter : Octets) (expands dropsTabs : Bool) : Parse Nat := do
  let reader ← get
  let text : AwaitedText := ⟨reader.nextText, delimiter, expands, dropsTabs, reader.line⟩
  set { reader with awaited := reader.awaited ++ [text], nextText := reader.nextText + 1 }
  return reader.nextText

end Words

end Provision.Shell
