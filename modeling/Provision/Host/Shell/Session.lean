import Provision.Host.Shell.Redirect

namespace Provision.Shell

open Programs

/-!
# Running texts

A text is read one line of commands at a time, and each line is run before the
next one is read. A text may be a script, an argument, or what a trap says.
-/

/-- How commands are run, and programs started. -/
structure Engine where
  /-- Runs a command; `exits` tells that the shell ends with it. -/
  run : (exits : Bool) → Command → Sh Unit
  launcher : Launcher

/-- Where a text comes from. -/
inductive TextKind where
  | script
  /-- The standard input. -/
  | input
  | argument
  | evaluated
  | substituted
  | trap (event : String)
  deriving Repr, DecidableEq

/-- What a text is called in complaints. -/
def TextKind.label? : TextKind → Option String
  | script | input => none
  | argument => some "-c"
  | evaluated => some "eval"
  | substituted => some "command substitution"
  | trap event => some (event ++ " trap")

/-- The words for a problem, without what shows the line. -/
def problemWords (dialect : Dialect) (problem : SyntaxProblem) : Octets :=
  match dialect, problem with
  | .dash, .unexpected found none => found ++ " unexpected".toList
  | .dash, .unexpected found (some expected) =>
      found ++ " unexpected (expecting ".toList ++ expected ++ [')']
  | .dash, .unexpectedEnd => "end of file unexpected".toList
  | .dash, .unclosed c =>
      if c == '}' then "Missing '\x7d'".toList
      else if c == '\x60' then "EOF in backquote substitution".toList
      else "Unterminated quoted string".toList
  | .dash, .unclosedArithmetic => "Missing '))'".toList
  | .dash, .badLoopVariable _ => "Bad for loop variable".toList
  | .dash, .badFunctionName _ => "Bad function name".toList
  | .dash, .badDescriptor => "Bad fd number".toList
  | .dash, .badCondition _ => "Bad condition".toList
  | .bash, .unexpected found _ =>
      "syntax error near unexpected token \x60".toList ++ found ++ ['\'']
  | .bash, .unexpectedEnd => "syntax error: unexpected end of file".toList
  | .bash, .unclosed c =>
      "unexpected EOF while looking for matching \x60".toList ++ [c, '\'']
  | .bash, .unclosedArithmetic => "unexpected EOF while looking for matching \x60)'".toList
  | .bash, .badLoopVariable name =>
      '\x60' :: name ++ "': not a valid identifier".toList
  | .bash, .badFunctionName name =>
      '\x60' :: name ++ "': not a valid identifier".toList
  | .bash, .badDescriptor => "bad file descriptor".toList
  | .bash, .badCondition _ => "syntax error in conditional expression".toList

/-- Whether a problem shows the line on which it was found. -/
def SyntaxProblem.showsLine : SyntaxProblem → Bool
  | .unexpected .. => true
  | _ => false

namespace Sh

/-- What stands in front of a complaint about the text of a script. -/
def textComplaintStart (kind : TextKind) (line : Nat) : Sh Octets := do
  let state ← get
  let name := state.source.getD state.name
  let place := "line ".toList ++ decimal line ++ ": ".toList
  let isPlain := name == "bash".toList && (kind == .input || kind == .evaluated)
  match kind.label? with
  | _ =>
      if isPlain then
        return name ++ ": ".toList
      else
        match kind.label? with
        | some label => return name ++ ": ".toList ++ label.toList ++ ": ".toList ++ place
        | none => return name ++ ": ".toList ++ place

/-- Complain about a text that cannot be read. -/
def complainSyntax (kind : TextKind) (error : SyntaxError) : Sh Unit := do
  let dialect ← dialect
  let words := problemWords dialect error.problem
  match dialect with
  | .dash =>
      modify fun state => { state with line := error.line }
      complain ("Syntax error: ".toList ++ words)
  | .bash =>
      let start ← textComplaintStart kind error.line
      discard (writeTo 2 (start ++ words ++ ['\n']))
      if error.problem.showsLine then
        discard (writeTo 2 (start ++ '\x60' :: error.lineText ++ "'\n".toList))

/-- Warn about texts that ended with the script. -/
def warnUnended (reader : Reader) : Sh Unit := do
  if ← isBash then
    for text in reader.unended do
      let state ← get
      let name := state.source.getD state.name
      let message := name ++ ": line ".toList ++ decimal text.line ++
        ": warning: here-document at line ".toList ++ decimal text.start ++
        " delimited by end-of-file (wanted \x60".toList ++ text.delimiter ++ "')\n".toList
      discard (writeTo 2 message)

/-- Read the next line of commands. -/
def readNext (kind : TextKind) (reader : Reader) : Sh (Option Command × Reader) := do
  let state ← get
  let expands := state.dialect == .dash || state.features.contains "expand_aliases"
  let start := { reader with
    aliases := if expands then state.aliases else []
    groups := state.features.contains "extglob"
    texts := []
    unended := []
    nextText := state.nextText }
  match Grammar.nextCommand.run start with
  | .ok (command?, reader) =>
      modify fun state => { state with
        texts := reader.texts ++ state.texts
        nextText := reader.nextText
        readLine := reader.tokenLine.1 }
      if state.flags.contains 'v' then
        let read := start.ahead.take (reader.position - start.position)
        discard (writeTo 2 read)
      warnUnended reader
      return (command?, reader)
  | .error error =>
      complainSyntax kind error
      match state.dialect with
      | .dash => jump (.error 2)
      | .bash =>
          setStatus 2
          return (none, { start with rest := [], expanding := [] })

/-- Whether nothing is left to be read. -/
def isFinished (reader : Reader) : Bool :=
  match reader.pushed with
  | some .finish => true
  | _ => false

/-- Run lines of commands. -/
def runLines (engine : Engine) (exits : Bool) (kind : TextKind) :
    (fuel : Nat) → Reader → Sh Unit
  | 0, _ => return ()
  | fuel + 1, reader => do
      match ← readNext kind reader with
      | (none, _) => return ()
      | (some command, reader) =>
          let leaves := exits && isFinished reader
          if ← hasFlag 'n' then
            runLines engine exits kind fuel reader
          else
            match ← catching (engine.run leaves command) with
            | .ok () => pure ()
            | .error (.discard status) =>
                if (← isBash) && (← get).level == 0 then
                  setStatus status
                else
                  jump (.discard status)
            | .error leap => jump leap
            runLines engine exits kind fuel reader

/-- Run a text, whose first line has a number. -/
def runText (engine : Engine) (exits : Bool) (kind : TextKind) (firstLine : Nat)
    (text : Octets) : Sh Unit := do
  let reader := { Reader.ofText (← dialect) text with line := firstLine }
  runLines engine exits kind (text.length + 2) reader

/-- The command of a trap, if there is one. -/
def trap? (event : TrapEvent) : Sh (Option Octets) := do
  return (← get).traps.lookup event

/-- Run the command of a trap; the status is the same afterwards. -/
def runTrap (engine : Engine) (event : TrapEvent) (name : String) (text : Octets) :
    Sh Unit := do
  let before ← get
  let line := if before.dialect == .dash || event == .exit then 1 else before.line
  modify fun state => { state with builtin := none, depth := state.depth + 1 }
  withoutBuiltin (runText engine false (.trap name) line text)
  modify fun state => { state with
    status := before.status
    builtin := before.builtin
    depth := before.depth }

/-- Run the traps of signals that came. -/
def runPending (engine : Engine) : (fuel : Nat) → Sh Unit
  | 0 => return ()
  | fuel + 1 => do
      match (← get).pending with
      | [] => return ()
      | signal :: rest =>
          modify fun state => { state with pending := rest }
          match ← trap? (.signal signal) with
          | some text =>
              runTrap engine (.signal signal) "trap" text
              runPending engine fuel
          | none => runPending engine fuel

/-- Take a signal. -/
def receive (signal : Signal) : Sh Unit := do
  let state ← get
  let isHarmless := Signal.harmless.contains signal || signal == 0
  match state.traps.lookup (.signal signal) with
  | some text =>
      if signal == Signal.kill then
        jump (.killed signal)
      else if !text.isEmpty then
        modify fun state => { state with pending := state.pending ++ [signal] }
  | none =>
      if isHarmless || (state.process.ignored.contains signal && signal != Signal.kill) then
        return ()
      else
        jump (.killed signal)

/-- Take the signals that were sent to the process of the shell. -/
def receiveSent : Sh Unit := do
  let state ← get
  let mine := state.system.sent.filter fun entry => entry.1 == state.process.number
  let others := state.system.sent.filter fun entry => entry.1 != state.process.number
  unless mine.isEmpty do
    modify fun state => { state with system := { state.system with sent := others } }
    for entry in mine do
      receive entry.2

/-- How a shell ends after what it did; the trap for the end is run. -/
def ending (engine : Engine) (answer : Except Jump Unit) : Sh Ending := do
  let killed? : Option Signal :=
    match answer with
    | .error (.killed signal) => some signal
    | _ => none
  match killed? with
  | some signal => return .killed signal
  | none =>
      match answer with
      | .error (.exit status) | .error (.return status) => setStatus status
      | .error (.error status) | .error (.discard status) => setStatus status
      | _ => pure ()
      match ← trap? .exit with
      | none => return .exited (← status)
      | some text =>
          let status ← status
          modify fun state => { state with
            traps := eraseEntry .exit state.traps
            builtin := none
            loops := 0 }
          match ← catching (runTrap engine .exit "exit" text) with
          | .ok () => return .exited status
          | .error (.killed signal) => return .killed signal
          | .error (.exit status) => return .exited status
          | .error (.error status) => return .exited status
          | .error _ => return .exited status

end Sh

end Provision.Shell
