import Provision.Host.Shell.Tokens

namespace Provision.Shell

/-!
# Commands

Commands are read one line at a time, and a line as far as the command on it
goes. Which words are keywords depends on where they stand.
-/

/-- Builtins that no function may hide. -/
def specialBuiltins : List String :=
  [".", ":", "break", "continue", "eval", "exec", "exit", "export", "readonly", "return", "set",
    "shift", "times", "trap", "unset"]

/-- Builtins whose arguments may be assignments. -/
def declaringBuiltins : List String :=
  ["declare", "typeset", "local", "export", "readonly"]

/-- Split text in front of a sign. -/
def splitAtSign (sign : Char) (text : Octets) : Option (Octets × Octets) :=
  let front := text.takeWhile (· != sign)
  match text.drop front.length with
  | _ :: rest => some (front, rest)
  | [] => none

/-- A word without the empty text in front of it. -/
def dropEmpty : Word → Word
  | .plain [] :: rest => rest
  | word => word

/-- The assignment that a word is, if it is one. -/
def assignment? (dialect : Dialect) : Word → Option Assignment
  | .element name index adds :: value => some (.mk name (some index) adds value)
  | .plain text :: rest =>
      match splitAtSign '=' text with
      | none => none
      | some (front, behind) =>
          let value := dropEmpty (.plain behind :: rest)
          if isName front then
            some (.mk front none false value)
          else if dialect == .bash && front.getLast? == some '+' && isName front.dropLast then
            some (.mk front.dropLast none true value)
          else
            none
  | _ => none

namespace Grammar

open Parse Tokens

/-- The kinds of redirection with a target. -/
def redirectionKinds : List (String × RedirectionKind) := [
  ("<", .input),
  (">", .output),
  (">|", .clobber),
  (">>", .append),
  ("<>", .update),
  ("<&", .copyInput),
  (">&", .copyOutput),
  ("&>", .both),
  ("&>>", .appendBoth),
  ("<<<", .wordInput)
]

/-- Read what a redirection leads to. -/
def readTarget (nested : Nested) (descriptor : RedirectedDescriptor) (sign : Octets) :
    Parse Redirection := do
  if sign == "<<".toList || sign == "<<-".toList then
    skipBlanks
    match ← peekChar with
    | some c =>
        if endsWord c then
          refuseToken false (← read nested false) none
        else
          let (delimiter, quoted) ← Words.readDelimiter
          let dropsTabs := sign == "<<-".toList
          return .text descriptor (← Words.awaitText delimiter (!quoted) dropsTabs)
    | none => refuseToken false .finish none
  else
    match ← read nested false with
    | .word word =>
        let kind := (redirectionKinds.find? fun entry => entry.1.toList == sign).map Prod.snd
        let kind := kind.getD .input
        let sendsBoth := kind == .copyOutput && (descriptor matches .usual) && (← isBash) &&
          !(match word.word with
            | [.plain text] => text == ['-'] || text.all Char.isDigit || text.getLast? == some '-'
            | word => word.any fun part => part matches .parameter .. | .quoted _)
        return .file descriptor (if sendsBoth then .both else kind) word.word
    | token => refuseToken false token none

/-- Read redirections behind a command. -/
def readRedirections (nested : Nested) : (fuel : Nat) → Parse (List Redirection)
  | 0 => return []
  | fuel + 1 => do
      match ← readCommandStart nested false with
      | .redirection descriptor sign =>
          let redirection ← readTarget nested descriptor sign
          return redirection :: (← readRedirections nested fuel)
      | token =>
          putBack token
          return []

/-- What was read of a simple command. -/
structure SimpleDraft where
  assignments : List Assignment := []
  words : List WordToken := []
  redirections : List Redirection := []

/-- Whether the arguments of a draft may be assignments. -/
def SimpleDraft.declares (draft : SimpleDraft) : Bool :=
  match draft.words with
  | ⟨[.plain name], _⟩ :: _ => declaringBuiltins.any fun builtin => builtin.toList == name
  | _ => false

/-- The command that a draft describes. -/
def SimpleDraft.command (draft : SimpleDraft) (line : Nat) : Command :=
  .simple draft.assignments (draft.words.map WordToken.word) draft.redirections line

/-- Read the words of a simple command up to what ends it. -/
def readSimple (nested : Nested) : (fuel : Nat) → SimpleDraft → Parse SimpleDraft
  | 0, draft => return draft
  | fuel + 1, draft => do
      let dialect ← Parse.dialect
      let starts := draft.words.isEmpty
      let token ←
        if starts then
          readCommandStart nested false
        else
          read nested draft.declares
      match token with
      | .redirection descriptor sign =>
          let redirection ← readTarget nested descriptor sign
          readSimple nested fuel { draft with
            redirections := draft.redirections ++ [redirection] }
      | .word word =>
          match if starts then assignment? dialect word.word else none with
          | some assignment =>
              readSimple nested fuel { draft with
                assignments := draft.assignments ++ [assignment] }
          | none => readSimple nested fuel { draft with words := draft.words ++ [word] }
      | token =>
          putBack token
          return draft

/-- Read words up to what is not one. -/
def readWords (nested : Nested) : (fuel : Nat) → Parse (List Word)
  | 0 => return []
  | fuel + 1 => do
      match ← read nested false with
      | .word word => return word.word :: (← readWords nested fuel)
      | token =>
          putBack token
          return []

/-- Read a regular expression, which ends at a blank outside of parentheses. -/
def readExpression (nested : Nested) : (fuel : Nat) → Parse Word
  | 0 => return []
  | fuel + 1 => do
      let parts ← Words.read nested .unquoted (.before [' ', '\t', '\n'])
      let signs := parts.flatMap fun
        | .plain text => text
        | _ => []
      let opened := signs.count '('
      let closed := signs.count ')'
      if closed < opened then
        let blanks ← takeAll fun c => c == ' ' || c == '\t'
        if blanks.isEmpty then
          return parts
        else
          return joinParts (parts ++ .plain blanks :: (← readExpression nested fuel))
      else
        return parts

/-- Operators with one operand behind them. -/
def unaryOperators : List String :=
  ["-a", "-b", "-c", "-d", "-e", "-f", "-g", "-h", "-k", "-n", "-o", "-p", "-r", "-s", "-t", "-u",
    "-v", "-w", "-x", "-z", "-G", "-L", "-N", "-O", "-R", "-S"]

/-- Operators between two words of a condition. -/
def binaryOperators : List String :=
  ["=", "==", "!=", "=~", "-eq", "-ne", "-lt", "-le", "-gt", "-ge", "-nt", "-ot", "-ef"]

/-- The operator that a token writes between two words of a condition. -/
def binaryOperator? : Token → Option Octets
  | .redirection .usual sign =>
      if sign == ['<'] || sign == ['>'] then some sign else none
  | token =>
      token.plain?.bind fun text =>
        if binaryOperators.any fun operator => operator.toList == text then some text else none

/-- Read a pattern, in which groups count. -/
def readPattern (nested : Nested) : Parse Token := do
  let groups := (← get).groups
  modify fun reader => { reader with groups := true }
  let token ← read nested false
  modify fun reader => { reader with groups := groups }
  return token

/-- Read the word behind an operator of a condition. -/
def readRight (nested : Nested) (operator : Octets) : Parse Word := do
  if operator == "=~".toList then
    skipBlanks
    readExpression nested 100
  else
    match ← readPattern nested with
    | .word word => return word.word
    | token => refuseToken false token none

mutual

/-- Read a condition up to a sign that does not belong to it. -/
def readEither (nested : Nested) : (fuel : Nat) → Parse Condition
  | 0 => return .word []
  | fuel + 1 => do
      let left ← readBoth nested fuel
      match ← readBehindLines nested false (← bound) with
      | .operator ['|', '|'] => return .either left (← readEither nested fuel)
      | token =>
          putBack token
          return left

/-- Read conditions that all must hold. -/
def readBoth (nested : Nested) : (fuel : Nat) → Parse Condition
  | 0 => return .word []
  | fuel + 1 => do
      let left ← readTerm nested fuel
      match ← readBehindLines nested false (← bound) with
      | .operator ['&', '&'] => return .both left (← readBoth nested fuel)
      | token =>
          putBack token
          return left

/-- Read a single condition. -/
def readTerm (nested : Nested) : (fuel : Nat) → Parse Condition
  | 0 => return .word []
  | fuel + 1 => do
      match ← readBehindLines nested false (← bound) with
      | .operator ['('] =>
          let condition ← readEither nested fuel
          match ← readBehindLines nested false (← bound) with
          | .operator [')'] => return condition
          | token => refuseToken false token none
      | .word word =>
          let token := Token.word word
          if token.isPlain "!" then
            return .negation (← readTerm nested fuel)
          else if token.isPlain "]]" then
            refuseToken false token none
          else
            let isUnary := unaryOperators.any token.isPlain
            let next ← read nested false
            match binaryOperator? next, next with
            | some operator, _ =>
                return .binary word.word operator (← readRight nested operator)
            | none, .word operand =>
                if isUnary && !next.isPlain "]]" then
                  return .unary word.written operand.word
                else
                  putBack next
                  return .word word.word
            | none, next =>
                putBack next
                return .word word.word
      | token => refuseToken false token none

end

/-- Read a condition up to the closing brackets. -/
def readCondition (nested : Nested) : Parse Condition := do
  let condition ← readEither nested (← bound)
  let token ← readBehindLines nested false (← bound)
  if token.isPlain "]]" then
    return condition
  else
    refuseToken false token none

/-- Read what stands between the double parentheses of a counted loop. -/
def readCounter (nested : Nested) : Parse (Word × Word × Word) := do
  let part : Parse Word := do
    let word ← Words.read nested .calculation (.before [';'])
    if ← takeIf ';' then return word else refuse (.unclosed ')')
  let start ← part
  let condition ← part
  let step ← Words.read nested .calculation (.calculation 0)
  return (start, condition, step)

/-- A command with redirections, if there are any. -/
def withRedirections (command : Command) (line : Nat) : List Redirection → Command
  | [] => command
  | redirections => .redirected command redirections line

/-- Commands one after the other. -/
def sequenceOf : List Command → Command
  | [command] => command
  | commands => .sequence commands

/-- A command whose errors go the way of its output. -/
def withErrors (command : Command) (line : Nat) : Command :=
  .redirected command [.file (.number 2) .copyOutput [.plain ['1']]] line

/-- How a list of commands is read. -/
inductive ListKind where
  /-- The rest of a line. -/
  | line
  /-- Commands inside another command, at least one. -/
  | some
  /-- Commands inside another command, perhaps none. -/
  | any
  deriving Repr, DecidableEq

/-- Require a keyword or a sign. -/
def require (nested : Nested) (keyword : String) : Parse Unit := do
  let token ← read nested false
  if !(token.isPlain keyword || token.isOperator keyword) then
    refuseToken true token (Option.some ("\"" ++ keyword ++ "\""))

/-- Signs that end a branch of a choice. -/
def caseEnd? : Token → Option CaseEnd
  | .operator [';', ';'] => some .leaves
  | .operator [';', '&'] => some .fallsThrough
  | .operator [';', ';', '&'] => some .searchesOn
  | _ => none

/-- Whether a word may be the name of a function. -/
def isFunctionName (dialect : Dialect) (word : WordToken) : Bool :=
  match dialect, word.word with
  | .dash, [.plain text] =>
      isName text && !(specialBuiltins.any fun builtin => builtin.toList == text)
  | .dash, _ => false
  | .bash, [.plain _] => true
  | .bash, _ => false

mutual

/-- Read a list of commands. Answers whether the script ended in front of it. -/
def readList : (fuel : Nat) → ListKind → (commands : List Command) → Parse (Bool × Command)
  | 0, _, commands => return (false, sequenceOf commands.reverse)
  | fuel + 1, kind, commands => do
      let nested := nestedIn fuel
      let finished : Command := sequenceOf commands.reverse
      let token ← readCommandStart nested (kind != .line)
      match token with
      | .newline => return (false, finished)
      | .finish =>
          putBack .finish
          return (kind == .line && commands.isEmpty, finished)
      | token =>
          putBack token
          let mayEnd := kind == .any || (kind == .some && !commands.isEmpty)
          if mayEnd && endsList token then
            return (false, finished)
          else
            let command ← readAndOr fuel
            let next ← read nested false
            let commands :=
              (if next.isOperator "&" then Command.background command else command) :: commands
            match next with
            | .finish =>
                putBack .finish
                return (false, sequenceOf commands.reverse)
            | .newline =>
                if kind == .line then
                  return (false, sequenceOf commands.reverse)
                else
                  readList fuel kind commands
            | next =>
                if next.isOperator "&" || next.isOperator ";" then
                  let kind := if kind == .any then .some else kind
                  readList fuel kind commands
                else if kind == .line then
                  refuseToken true next none
                else
                  putBack next
                  return (false, sequenceOf commands.reverse)

/-- Read commands in parentheses, which stay open where the script ends too early. -/
def endingUnclosed (step : Parse α) : Parse α := fun reader =>
  match step.run reader with
  | .error error =>
      if error.problem == .unexpectedEnd then
        .error { error with problem := .unclosed ')' }
      else
        .error error
  | .ok found => .ok found

/-- How commands inside words are read. -/
def nestedIn : (fuel : Nat) → Nested
  | 0 => ⟨return .nothing, return .nothing⟩
  | fuel + 1 => {
      commands := do
        let outer ← get
        set { outer with pushed := none, awaited := [] }
        let (_, command) ← endingUnclosed (readList fuel .any [])
        match ← read (nestedIn fuel) false with
        | .operator [')'] =>
            modify fun reader => { reader with pushed := none, awaited := outer.awaited }
            return command
        | .finish =>
            if ← isBash then
              refuseAt (lastLine (← get)) (.unclosed ')')
            else
              refuseToken true .finish (some "\")\"")
        | token => refuseToken true token (some "\")\"")
      script := do
        let (_, command) ← readList fuel .any []
        return command }

/-- Read pipelines each of which depends on the one before it. -/
def readAndOr : (fuel : Nat) → Parse Command
  | 0 => return .nothing
  | fuel + 1 => do
      let left ← readPipeline fuel false
      readAndOrRest fuel left

/-- Read pipelines that depend on what was read already. -/
def readAndOrRest : (fuel : Nat) → Command → Parse Command
  | 0, left => return left
  | fuel + 1, left => do
      let token ← read (nestedIn fuel) false
      if token.isOperator "&&" then
        let right ← readPipeline fuel true
        readAndOrRest fuel (.andThen left right)
      else if token.isOperator "||" then
        let right ← readPipeline fuel true
        readAndOrRest fuel (.orElse left right)
      else
        putBack token
        return left

/-- Read a pipeline; it may stand behind line ends. -/
def readPipeline : (fuel : Nat) → (behindLines : Bool) → Parse Command
  | 0, _ => return .nothing
  | fuel + 1, behindLines => do
      let nested := nestedIn fuel
      let token ← readCommandStart nested behindLines
      let bash ← isBash
      if token.isPlain "!" then
        if bash then
          let next ← readCommandStart nested false
          putBack next
          if (next matches .newline | .finish) || next.isOperator ";" then
            return .negation .nothing
          else
            return .negation (← readPipeline fuel false)
        else
          let line := (← get).line
          let first ← readCommand fuel false
          return .negation (← readPipelineRest fuel [first] line)
      else if bash && token.isPlain "time" then
        let next ← readCommandStart nested false
        if next.isPlain "-p" then
          return .timed (← readPipeline fuel false)
        else
          putBack next
          if (next matches .newline | .finish) || next.isOperator ";" then
            return .timed .nothing
          else
            return .timed (← readPipeline fuel false)
      else
        putBack token
        let line := (← get).line
        let first ← readCommand fuel false
        readPipelineRest fuel [first] line

/-- Read the commands of a pipeline behind those that were read already. -/
def readPipelineRest : (fuel : Nat) → List Command → (line : Nat) → Parse Command
  | 0, commands, _ => return .pipeline commands.reverse
  | fuel + 1, commands, line => do
      let token ← read (nestedIn fuel) false
      if token.isOperator "|" then
        let command ← readCommand fuel true
        readPipelineRest fuel (command :: commands) line
      else if token.isOperator "|&" then
        let commands :=
          match commands with
          | last :: others => withErrors last line :: others
          | [] => []
        let command ← readCommand fuel true
        readPipelineRest fuel (command :: commands) line
      else
        putBack token
        match commands with
        | [command] => return command
        | commands => return .pipeline commands.reverse

/-- Read the branches of a conditional behind its first keyword. -/
def readBranches : (fuel : Nat) → Parse Command
  | 0 => return .nothing
  | fuel + 1 => do
      let nested := nestedIn fuel
      let (_, condition) ← readList fuel .some []
      require nested "then"
      let (_, body) ← readList fuel .some []
      let token ← read nested false
      if token.isPlain "elif" then
        return .conditional condition body (some (← readBranches fuel))
      else if token.isPlain "else" then
        let (_, otherwise) ← readList fuel .some []
        return .conditional condition body (some otherwise)
      else
        putBack token
        return .conditional condition body none

/-- Read the branches of a choice up to the closing keyword. -/
def readCases : (fuel : Nat) → Parse (List (List Word × Command × CaseEnd))
  | 0 => return []
  | fuel + 1 => do
      let nested := nestedIn fuel
      let token ← readBehindLines nested false (← bound)
      if token.isPlain "esac" then
        return []
      else
        let first ← if token.isOperator "(" then read nested false else pure token
        let patterns ← readCasePatterns fuel first
        let (_, body) ← readList fuel .any []
        let token ← readBehindLines nested false (← bound)
        if token.isPlain "esac" then
          return [(patterns, body, .leaves)]
        else
          match caseEnd? token with
          | some ending => return (patterns, body, ending) :: (← readCases fuel)
          | none => refuseToken true token (some "\";;\"")

/-- Read the patterns of a branch up to the closing parenthesis. -/
def readCasePatterns : (fuel : Nat) → Token → Parse (List Word)
  | 0, _ => return []
  | fuel + 1, token => do
      let nested := nestedIn fuel
      let pattern : Word ←
        match token with
        | .word word => pure word.word
        | token => if ← isBash then refuseToken false token none else pure []
      let next ← read nested false
      if next.isOperator "|" then
        return pattern :: (← readCasePatterns fuel (← read nested false))
      else if next.isOperator ")" then
        return [pattern]
      else
        refuseToken false next (some "\")\"")

/-- Read the body of a loop. -/
def readBody : (fuel : Nat) → Parse Command
  | 0 => return .nothing
  | fuel + 1 => do
      let nested := nestedIn fuel
      let token ← readBehindLines nested false (← bound)
      if token.isPlain "do" then
        let (_, body) ← readList fuel .some []
        require nested "done"
        return body
      else if token.isPlain "\x7b" && (← isBash) then
        let (_, body) ← readList fuel .some []
        require nested "\x7d"
        return body
      else
        refuseToken true token (some "\"do\"")

/-- Read a loop over words behind its keyword; `selects` tells of which kind it is. -/
def readLoop : (fuel : Nat) → (selects : Bool) → (line : Nat) → Parse Command
  | 0, _, _ => return .nothing
  | fuel + 1, selects, line => do
      let nested := nestedIn fuel
      let bash ← isBash
      match ← read nested false with
      | .operator ['('] =>
          if ← takeWhere (bash && !selects) '(' then
            let (start, condition, step) ← readCounter nested
            let token ← read nested false
            unless token.isOperator ";" do
              putBack token
            return .counted start condition step (← readBody fuel) line
          else
            refuseToken false (.operator ['(']) none
      | .word word =>
          let name := word.written
          let isGood :=
            match word.word with
            | [.plain text] => isName text
            | _ => false
          if !isGood && !bash then
            refuse (.badLoopVariable name)
          else
            let token ← readBehindLines nested false (← bound)
            let words : Option (List Word) ←
              if token.isPlain "in" then do
                let words ← readWords nested (← bound)
                let ending ← read nested false
                if (ending matches .newline) || ending.isOperator ";" then
                  pure (some words)
                else
                  refuseToken false ending none
              else do
                unless token.isOperator ";" do
                  putBack token
                pure none
            let body ← readBody fuel
            if selects then
              return .selection name words body line
            else
              return .loop name words body line
      | token =>
          if bash then refuseToken false token none else refuse (.badLoopVariable [])

/-- Read a choice behind its keyword. -/
def readChoice : (fuel : Nat) → (line : Nat) → Parse Command
  | 0, _ => return .nothing
  | fuel + 1, line => do
      let nested := nestedIn fuel
      match ← read nested false with
      | .word subject =>
          let token ← readBehindLines nested false (← bound)
          if token.isPlain "in" then
            return .choice subject.word (← readCases fuel) line
          else
            refuseToken true token (some "\"in\"")
      | token => refuseToken false token (some "word")

/-- Read the body of a function behind its name. -/
def readDefinition : (fuel : Nat) → (name : Octets) → Parse Command
  | 0, _ => return .nothing
  | fuel + 1, name => do
      let nested := nestedIn fuel
      let line := (← get).line
      let token ← readCommandStart nested true
      putBack token
      let isCompound :=
        ["(", "\x7b", "if", "while", "until", "for", "case", "select", "[["].any fun sign =>
          token.isOperator sign || token.isPlain sign
      if (← isBash) && !isCompound then
        refuseToken false token none
      else
        return .definition name (← readCommand fuel false) line

/-- Read a command; it may stand behind line ends. -/
def readCommand : (fuel : Nat) → (behindLines : Bool) → Parse Command
  | 0, _ => return .nothing
  | fuel + 1, behindLines => do
      let nested := nestedIn fuel
      let token ← readCommandStart nested behindLines
      let line := (← get).line
      let bash ← isBash
      let behind (command : Command) : Parse Command := do
        let redirections ← readRedirections nested (← bound)
        let last := (← get).tokenLine.1
        return withRedirections command (if bash then last else line) redirections
      let inner (keyword : String) : Parse Command := do
        let (_, body) ← readList fuel .some []
        require nested keyword
        return body
      if token.isPlain "if" then
        let command ← readBranches fuel
        require nested "fi"
        behind command
      else if token.isPlain "while" || token.isPlain "until" then
        let (_, condition) ← readList fuel .some []
        require nested "do"
        let body ← inner "done"
        behind (.repetition (token.isPlain "while") condition body)
      else if token.isPlain "for" then
        behind (← readLoop fuel false line)
      else if token.isPlain "case" then
        behind (← readChoice fuel line)
      else if token.isPlain "\x7b" then
        behind (.group (← inner "\x7d"))
      else if token.isOperator "(" then
        let start ← get
        let calculation? : Option (Command × Reader) ←
          if ← takeWhere bash '(' then do
            let here ← get
            set start
            match (Words.read nested .calculation (.calculation 0)).run here with
            | .ok (expression, reader) => pure (some (.calculation expression line, reader))
            | .error _ => pure none
          else
            pure none
        match calculation? with
        | some (command, reader) =>
            set reader
            behind command
        | none => behind (.subshell (← inner ")") line)
      else if bash && token.isPlain "select" then
        behind (← readLoop fuel true line)
      else if bash && token.isPlain "[[" then
        behind (.condition (← readCondition nested) line)
      else if bash && token.isPlain "function" then
        match ← read nested false with
        | .word name =>
            let next ← read nested false
            if next.isOperator "(" then
              require nested ")"
            else
              putBack next
            readDefinition fuel name.written
        | token => refuseToken false token none
      else if isKeyword (← dialect) token then
        refuseToken true token none
      else
        match token with
        | .redirection .. =>
            putBack token
            return (← readSimple nested (← bound) {}).command line
        | .word word =>
            match assignment? (← dialect) word.word with
            | some _ =>
                putBack token
                return (← readSimple nested (← bound) {}).command line
            | none =>
                let next ← read nested (SimpleDraft.declares { words := [word] })
                let reader ← get
                let line :=
                  if !bash then line
                  else if next matches .newline then reader.tokenLine.1
                  else reader.line
                if next.isOperator "(" then
                  let closing ← read nested false
                  if !closing.isOperator ")" then
                    refuseToken false closing (some "\")\"")
                  else if isFunctionName (← dialect) word then
                    readDefinition fuel word.written
                  else
                    refuse (.badFunctionName word.written)
                else
                  putBack next
                  return (← readSimple nested (← bound) { words := [word] }).command line
        | token => refuseToken true token none

end

/-- A bound on the steps that read a script. -/
def fuelFor (reader : Reader) : Nat :=
  8 * reader.ahead.length + 1000

/-- Read the next line of commands; answers nothing at the end of the script. -/
def nextCommand : Parse (Option Command) := do
  let (ended, command) ← readList (fuelFor (← get)) .line []
  return if ended then none else some command

end Grammar

end Provision.Shell
