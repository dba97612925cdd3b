import Provision.Host.Shell.Launch
import Provision.Host.Shell.Builtins.Table

namespace Provision.Shell

open Programs

/-!
# Calling functions, builtins and programs

The first word of a command tells what is called. A builtin may hand the call
on to the words behind it. Assignments in front of a command hold while it runs.
-/

/-!
## Traces

A shell that traces its commands shows each of them, as it is after all words
are expanded, on the standard error output. The text in front of the commands is
a parameter of the shell.
-/

/-- Characters for which a word is shown in quotes. -/
def quotingSigns : List Char :=
  [' ', '\t', '\n', '\'', '"', '\\', '|', '&', ';', '(', ')', '<', '>', '!', '\x7b', '\x7d', '*',
    '[', '?', ']', '^', '$', '\x60']

/-- Whether a word would be read in another way without quotes. -/
def needsQuotes (word : Octets) : Bool :=
  word.any quotingSigns.contains || word.head? == some '#' || word.head? == some '~' ||
    Text.hasInfix word "=~".toList || Text.hasInfix word ":~".toList

/-- A word as the large shell shows it in a trace. -/
def tracedWord (word : Octets) : Octets :=
  if word.isEmpty then ['\'', '\'']
  else if needsQuotes word then shellQuoted word
  else word

/-- The word that a text is when its substitutions are done. -/
def wordOfText (dialect : Dialect) (text : Octets) : Word :=
  if text.any fun c => c == '$' || c == '\x60' then
    match (Words.read (Grammar.nestedIn 200) .text .finish).run (Reader.ofText dialect text) with
    | .ok (word, _) => word
    | .error _ => [.literal text]
  else
    [.literal text]

namespace Sh

/-- What stands in front of traced commands. -/
def traceStart (engine : Engine) : Sh Octets := do
  let text := (← setting? "PS4").getD []
  let flags := (← get).flags
  modify fun state => { state with flags := flags.filter (· != 'x') }
  let start ← wordText (substitution engine) (wordOfText (← dialect) text)
  modify fun state => { state with flags := flags }
  match ← dialect, start with
  | .bash, c :: _ => return List.replicate (← get).depth c ++ start
  | _, start => return start

/-- The open file to which traces go. -/
def tracePlace : Sh (Option Nat) := do
  return (← get).process.descriptor? 2

/-- Show a line of a trace, if commands are traced. -/
def trace (engine : Engine) (place : Option Nat) (line : Sh Octets) : Sh Unit := do
  if ← hasFlag 'x' then
    match place with
    | none => return ()
    | some place =>
        let text := (← traceStart engine) ++ (← line) ++ ['\n']
        let state ← get
        match state.system.write place (Octets.toBytes text) with
        | .ok system => set { state with system := system }
        | .error _ => return ()

/-- Show words of a trace. -/
def traceWords (engine : Engine) (place : Option Nat) (words : List Octets) : Sh Unit :=
  trace engine place do
    let quote := if ← isBash then tracedWord else id
    return joinedWith [' '] (words.map quote)

end Sh

/-! ## What a command calls -/

/-- What a command calls. -/
inductive Callee where
  | function (function : Function)
  | builtin (entry : Builtin.Entry)
  | program

/-- A call, with everything found out about it. -/
structure Call where
  callee : Callee
  /-- The name that is called, and the arguments. -/
  words : List Builtin.Declared
  /-- Whether an error ends the script, in the small shell. -/
  special : Bool := false
  /-- Whether programs are searched for in the usual directories. -/
  usualPath : Bool := false

/-- What the options of a command that runs commands ask for. -/
inductive CommandRequest where
  | run (usualPath : Bool) (words : List Builtin.Declared)
  | tell (briefly : Bool) (words : List Builtin.Declared)
  | nothing
  | unknown (letter : Char)

/-- Read the options of a command that runs commands. -/
def commandRequest (usualPath : Bool) : List Builtin.Declared → CommandRequest
  | [] => .nothing
  | word :: rest =>
      match word.text with
      | ['-', '-'] => if rest.isEmpty then .nothing else .run usualPath rest
      | '-' :: letter :: letters =>
          let letters := letter :: letters
          match letters.find? fun c => !(['p', 'v', 'V'].contains c) with
          | some unknown => .unknown unknown
          | none =>
              let names := if (rest.head?.map (·.text)) == some ['-', '-'] then rest.tail else rest
              if letters.contains 'V' then .tell false names
              else if letters.contains 'v' then .tell true names
              else commandRequest true rest
      | _ => .run usualPath (word :: rest)

namespace Sh

/-- The function that a name calls, where special builtins may come first. -/
def function? (state : State) (name : Octets) : Option Function :=
  if state.dialect == .dash && Builtin.isSpecial .dash name then
    none
  else
    state.functions.lookup name

/-- Find out what words call; `direct` tells that functions are not looked for. -/
def resolveCall (state : State) (direct usualPath : Bool) (special? : Option Bool) :
    (fuel : Nat) → List Builtin.Declared → Call
  | 0, words => { callee := .program, words := words }
  | fuel + 1, words =>
      let name := ((words.head?).map (·.text)).getD []
      let program : Call := { callee := .program, words := words, usualPath := usualPath }
      match if direct then none else function? state name with
      | some function => { callee := .function function, words := words }
      | none =>
          match Builtin.entry? state.dialect name with
          | none => program
          | some entry =>
              let special := special?.getD (Builtin.isSpecial state.dialect name)
              let here : Call :=
                { callee := .builtin entry, words := words, special := special }
              match entry with
              | .command =>
                  match commandRequest false words.tail with
                  | .run usualPath rest => resolveCall state true usualPath (some false) fuel rest
                  | _ => here
              | .builtin =>
                  let rest := words.tail
                  match rest.head? with
                  | some next =>
                      if (Builtin.entry? state.dialect next.text).isSome then
                        resolveCall state true false (some false) fuel rest
                      else
                        here
                  | none => here
              | _ => here

/-- Whether the words of a command so far ask for arguments that may be assignments. -/
def declares (dialect : Dialect) (words : List Builtin.Declared) : Bool :=
  let behind := words.dropWhile fun word =>
    word.text == "command".toList || word.text == "builtin".toList
  match behind with
  | [] => false
  | word :: _ =>
      match Builtin.entry? dialect word.text with
      | some (.declaring _) => true
      | _ => false

/-- Expand the words of a command behind those that were expanded already. -/
def expandWords (substitution : Substitution) :
    (found : List Builtin.Declared) → List Word → Sh (List Builtin.Declared)
  | found, [] => return found
  | found, word :: rest => do
      let dialect ← dialect
      let fields : Sh (List Builtin.Declared) := do
        return (← wordFields substitution word).map .word
      let next ←
        match if declares dialect found then assignment? dialect word else none with
        | some assignment => do pure [.assigned (← prepare substitution assignment)]
        | none => fields
      expandWords substitution (found ++ next) rest

/-- Run a step whose failure is expected. -/
def testing (step : Sh α) : Sh α := do
  let before := (← get).tested
  modify fun state => { state with tested := true }
  ensuring step (modify fun state => { state with tested := before })

/-- Carry out assignments, and show them where each is shown by itself. -/
def assignAll (engine : Engine) (place : Option Nat) (exported : Bool) :
    List Assignment → Sh (List Assigned)
  | [] => return []
  | assignment :: rest => do
      let found ← prepare (substitution engine) assignment
      if ← isBash then
        trace engine place (return found.shown tracedWord)
      carryOut found
      if exported then
        markExported found.name
      return found :: (← assignAll engine place exported rest)

/-- The names that assignments are about. -/
def assignedNames (assignments : List Assignment) : List Octets :=
  assignments.map fun
    | .mk name .. => name

/-- Bring variables back to what they were. -/
def restoreVariables (before : List (Octets × Option Variable)) : Sh Unit := do
  for (name, held?) in before do
    match held? with
    | some held => putVariable name held
    | none => eraseVariable name

/-- Run a step while assignments hold; `keeps` tells that they hold afterwards as well. -/
def withAssignments (engine : Engine) (place : Option Nat) (keeps exported : Bool)
    (assignments : List Assignment) (step : List Assigned → Sh Unit) : Sh Unit := do
  if assignments.isEmpty then
    step []
  else if keeps then
    step (← assignAll engine place exported assignments)
  else
    let bindings := (← get).bindings
    let before := (assignedNames assignments).map fun name => (name, bindings.lookup name)
    let run : Sh Unit := do step (← assignAll engine place true assignments)
    ensuring run (restoreVariables before)

/-- Run a step with redirections, which are taken back afterwards unless they are kept. -/
def withRedirections (engine : Engine) (keeps special : Bool) (redirections : List Redirection)
    (step : Sh Unit) : Sh Unit := do
  if redirections.isEmpty then
    step
  else
    let before := (← get).process.descriptors
    let run : Sh Unit := do
      if ← redirectAll (substitution engine) redirections then
        step
      else if special && !(← isBash) then
        jump (.error 2)
    if keeps then
      run
    else
      ensuring run (changeProcess fun process => { process with descriptors := before })

/-- Where complaints in a function say that it stands. -/
def functionSource : Sh (Option Octets) := do
  let state ← get
  if state.dialect == .dash then return none
  else if state.source.isSome then return state.source
  else if state.features.contains "fromArgument" then return some "environment".toList
  else if state.features.contains "fromInput" then return some "main".toList
  else return none

/-- Run a function with arguments. -/
def callFunction (engine : Engine) (function : Function) (words : List Octets) : Sh Unit := do
  let before ← get
  modify fun state => { state with
    arguments := words.drop 1
    loops := 0
    callers := words.head?.getD [] :: state.callers
    source := function.source.or state.source }
  openScope
  let answer ← catching (engine.run false function.body)
  if (← isBash) then
    match ← trap? .return with
    | some text =>
        if before.flags.contains 'T' then
          runTrap engine .return "return" text
    | none => pure ()
  closeScope
  modify fun state => { state with
    arguments := before.arguments
    loops := before.loops
    callers := before.callers
    source := before.source }
  match answer with
  | .ok () => return ()
  | .error (.return status) => setStatus status
  | .error leap => jump leap

/-- Answer what a command that runs commands was asked. -/
def answerCommand (arguments : List Builtin.Declared) : Sh Nat := do
  let dialect ← dialect
  match commandRequest false arguments with
  | .tell briefly names =>
      Builtin.tellCommand (Builtin.isBuiltin dialect) briefly (names.map (·.text))
  | .unknown letter => do
      discard (Builtin.options "" [['-', letter]])
      return 2
  | _ => return 0

/-- Carry out a builtin. Answers the status. -/
def carryOutBuiltin (engine : Engine) (entry : Builtin.Entry)
    (arguments : List Builtin.Declared) : Sh Nat :=
  match entry with
  | .ordinary builtin => builtin engine (arguments.map (·.text))
  | .declaring builtin => builtin arguments
  | .command => answerCommand arguments
  | .builtin =>
      match arguments with
      | [] => return 0
      | first :: _ => Builtin.complaint (first.text ++ ": not a shell builtin".toList) 1

/-- Builtins that run commands or steer them, so that what ends a line is not held up there. -/
def passesOn (name : Octets) : Bool :=
  ["eval", ".", "source", "command", "builtin", "break", "continue", "exit", "return",
    "shift"].any fun other => other.toList == name

/-- Run a builtin; an error in it ends the script or not. -/
def runBuiltin (engine : Engine) (special : Bool) (entry : Builtin.Entry)
    (words : List Builtin.Declared) : Sh Unit := do
  let before := (← get).builtin
  let name := ((words.head?).map (·.text)).getD []
  modify fun state => { state with builtin := some name }
  let answer ← catching (carryOutBuiltin engine entry words.tail)
  modify fun state => { state with builtin := before }
  match answer, ← dialect with
  | .ok status, _ => setStatus status
  | .error (.error status), .dash => if special then jump (.error status) else setStatus status
  | .error (.error status), .bash => setStatus status
  | .error (.discard status), .bash =>
      if passesOn name then jump (.discard status) else setStatus status
  | .error leap, _ => jump leap

/-- Run a call. -/
def invoke (engine : Engine) (exits : Bool) (call : Call) : Sh Unit := do
  match call.callee with
  | .function function => callFunction engine function (call.words.map (·.text))
  | .builtin entry => runBuiltin engine call.special entry call.words
  | .program =>
      let words := call.words.map (·.text)
      if call.usualPath then
        let before := (← get).bindings.lookup "PATH".toList
        let usual : Variable := { value := .text Programs.defaultPath, exported := true }
        let path := "PATH".toList
        putVariable path usual
        ensuring (runProgram engine exits words) (restoreVariables [(path, before)])
      else
        runProgram engine exits words

end Sh

end Provision.Shell
