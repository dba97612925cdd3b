import Provision.Host.Matching.RegexSyntax
import Provision.Host.Shell.Call

namespace Provision.Shell

open Programs

/-!
# Running commands

Each kind of command is run in its own way, with the help of an engine that runs
the commands inside it. A command that fails where nobody tests it may end the
shell, and traps of signals that came are run behind every command.
-/

namespace Sh

/-- Run the trap of an event, which does not happen again while it runs. -/
def runEvent (engine : Engine) (event : TrapEvent) (name : String) : Sh Unit := do
  match ← trap? event with
  | none => return ()
  | some text =>
      modify fun state => { state with traps := eraseEntry event state.traps }
      runTrap engine event name text
      modify fun state => { state with traps := setEntry event text state.traps }

/-- Leave the shell if a command failed that must not fail. -/
def checkFailure (engine : Engine) : Sh Unit := do
  let state ← get
  if state.status != 0 && !state.tested then
    if state.dialect == .bash && (state.callers.isEmpty || state.flags.contains 'E') then
      runEvent engine .error "ERR"
    if state.flags.contains 'e' then
      jump (.exit state.status)

/-- Run assignments that stand alone. -/
def runAssignments (engine : Engine) (place : Option Nat) (assignments : List Assignment)
    (redirections : List Redirection) : Sh Unit := do
  let finish : Sh Unit := do setStatus ((← get).substituted.getD 0)
  match ← dialect with
  | .dash =>
      withRedirections engine false false redirections do
        let found ← assignAll engine place false assignments
        unless found.isEmpty do
          traceWords engine place (found.map (Assigned.shown id))
        finish
  | .bash =>
      discard (assignAll engine place false assignments)
      withRedirections engine false false redirections finish

/-- Whether a call makes the shell become a program, or keeps its redirections. -/
def isExec (call : Call) : Bool :=
  match call.callee with
  | .builtin _ => (call.words.head?.map (·.text)) == some "exec".toList
  | _ => false

/-- The words of a call as a trace shows them; elements of arrays are shown before. -/
def tracedCall (words : List Builtin.Declared) : List Octets × List Assigned :=
  let lists := words.filterMap fun
    | .assigned (.elements name adds entries) => some (.elements name adds entries)
    | _ => none
  let shown := words.map fun
    | .assigned (.elements name ..) => name
    | word => word.text
  (shown, lists)

/-- Run a simple command. -/
def runSimple (engine : Engine) (exits : Bool) (assignments : List Assignment)
    (words : List Word) (redirections : List Redirection) (line : Nat) : Sh Unit := do
  modify fun state => { state with line := line, substituted := none }
  let bash ← isBash
  if bash then
    runEvent engine .debug "DEBUG"
  let place ← tracePlace
  let words ← expandWords (substitution engine) [] words
  if words.isEmpty then
    runAssignments engine place assignments redirections
  else
    let call := resolveCall (← get) false false none (words.length + 1) words
    let isExec := isExec call
    let exits := exits && (!bash || redirections.isEmpty)
    let quote := if bash then tracedWord else id
    let show_ (found : List Assigned) : Sh Unit := do
      let (shown, lists) := tracedCall words
      for list in lists do
        trace engine place (return list.shown shellQuoted)
      let front := if bash then [] else found.map (Assigned.shown id)
      trace engine place (return joinedWith [' '] (front ++ shown.map quote))
    match bash with
    | false =>
        withRedirections engine isExec call.special redirections do
          let keeps := call.special
          withAssignments engine place keeps isExec assignments fun found => do
            show_ found
            invoke engine exits call
    | true =>
        withAssignments engine place false true assignments fun found => do
          show_ found
          withRedirections engine isExec false redirections (invoke engine exits call)
        let last := (words.getLast?.map (·.text)).getD []
        modify fun state => { state with lastWord := last }

/-- Run the commands of a pipeline, each on what the one before it writes. -/
def runStages (engine : Engine) : (input : Option Nat) → List Command → Sh (List Ending)
  | _, [] => return []
  | input, command :: rest => do
      let receive : Sh Unit :=
        match input with
        | some place => setDescriptor 0 (some place)
        | none => return ()
      match rest with
      | [] => return [← inSubshell engine do receive; engine.run true command]
      | rest =>
          let state ← get
          let (reading, writing, system) := state.system.openPipe []
          set { state with system := system }
          let ending ← inSubshell engine do
            receive
            setDescriptor 1 (some writing)
            engine.run true command
          return ending :: (← runStages engine (some reading) rest)

/-- Run a pipeline. -/
def runPipeline (engine : Engine) (commands : List Command) : Sh Unit := do
  let endings ← runStages engine none commands
  let statuses := endings.map Ending.status
  noteEnding (endings.getLast?.getD (.exited 0))
  modify fun state => { state with statuses := statuses }
  if ← hasFeature "pipefail" then
    setStatus ((statuses.reverse.find? (· != 0)).getD 0)

/-- Run a round of a loop. Answers whether the loop goes on. -/
def round (step : Sh Unit) : Sh Bool := do
  match ← catching step with
  | .ok () => return true
  | .error (.break levels) => if levels ≤ 1 then return false else jump (.break (levels - 1))
  | .error (.continue levels) =>
      if levels ≤ 1 then return true else jump (.continue (levels - 1))
  | .error leap => jump leap

/-- Run a loop. -/
def looping (step : Sh Unit) : Sh Unit := do
  modify fun state => { state with loops := state.loops + 1 }
  ensuring step (modify fun state => { state with loops := state.loops - 1 })

/-- How many rounds a loop has at most. -/
def roundLimit : Nat := 100000000

/-- Repeat a body as long as a condition comes out as it should; `status` is that of the body. -/
def repeatWhile (engine : Engine) (holds : Bool) (condition body : Command) :
    (fuel : Nat) → (status : Nat) → Sh Unit
  | 0, status => setStatus status
  | fuel + 1, status => do
      if !(← round (testing (engine.run false condition))) then
        setStatus status
      else if ((← get).status == 0) == holds then
        let goesOn ← round (engine.run false body)
        let status := (← get).status
        if goesOn then
          repeatWhile engine holds condition body fuel status
        else
          setStatus status
      else
        setStatus status

/-- Run a body for each word. -/
def runForEach (engine : Engine) (place : Option Nat) (name : Octets) (all : List Octets)
    (body : Command) : List Octets → Sh Unit
  | [] => return ()
  | word :: rest => do
      if ← isBash then
        trace engine place do
          let words := if all.isEmpty then [] else ' ' :: joinedWith [' '] (all.map tracedWord)
          return "for ".toList ++ name ++ " in".toList ++ words
      assign name word
      if ← round (engine.run false body) then
        runForEach engine place name all body rest

/-- The words of a loop; without any it goes over the arguments. -/
def loopWords (engine : Engine) (words : Option (List Word)) : Sh (List Octets) := do
  match words with
  | some words => wordsFields (substitution engine) words
  | none => return (← get).arguments

/-- Run a loop over words. -/
def runLoop (engine : Engine) (name : Octets) (words : Option (List Word)) (body : Command)
    (line : Nat) : Sh Unit := do
  modify fun state => { state with line := line }
  let bash ← isBash
  if bash && !isName name then
    complain ('\x60' :: name ++ "': not a valid identifier".toList)
    setStatus 1
  else
    let place ← tracePlace
    let words ← loopWords engine words
    setStatus 0
    looping (runForEach engine place name words body words)

/-- Calculate an expression between double parentheses. -/
def runCalculation (engine : Engine) (expression : Word) : Sh Int := do
  let place ← tracePlace
  let text ← quotedText (substitution engine) expression
  trace engine place (return "(( ".toList ++ text ++ " ))".toList)
  modify fun state => { state with builtin := some "((".toList }
  let answer ← catching (evaluate (if text.isEmpty then ['0'] else text))
  modify fun state => { state with builtin := none }
  match answer with
  | .ok number => return number
  | .error leap => jump leap

/-- Repeat a body as long as an expression is not zero. -/
def repeatCounted (engine : Engine) (condition step : Word) (body : Command) :
    (fuel : Nat) → Sh Unit
  | 0 => return ()
  | fuel + 1 => do
      let holds ←
        if condition.isEmpty then pure true
        else do pure ((← runCalculation engine condition) != 0)
      if holds then
        if ← round (engine.run false body) then
          unless step.isEmpty do
            discard (runCalculation engine step)
          repeatCounted engine condition step body fuel

/-- Run a loop that counts. -/
def runCounted (engine : Engine) (start condition step : Word) (body : Command) (line : Nat) :
    Sh Unit := do
  modify fun state => { state with line := line }
  let blank (word : Word) : Bool :=
    word.all fun
      | .plain text => text.all fun c => c == ' '
      | _ => false
  let part (word : Word) : Word := if blank word then [] else word
  unless blank start do
    discard (runCalculation engine start)
  setStatus 0
  looping (repeatCounted engine (part condition) (part step) body roundLimit)

/-- Whether one of some patterns matches a subject. -/
def matchesAny (engine : Engine) (subject : Octets) : List Word → Sh Bool
  | [] => return false
  | pattern :: rest => do
      let items ← wordPattern (substitution engine) pattern
      let style := { (← patternStyle) with folds := ← hasFeature "nocasematch" }
      if Pattern.«matches» style items subject then
        return true
      else
        matchesAny engine subject rest

/-- Run the first branch that matches a subject, and those it goes on with. -/
def runBranches (engine : Engine) (exits : Bool) (subject : Octets) :
    (entered : Bool) → List (List Word × Command × CaseEnd) → Sh Unit
  | _, [] => return ()
  | entered, (patterns, body, ending) :: rest => do
      let enters ← if entered then pure true else matchesAny engine subject patterns
      if enters then
        match body with
        | .sequence [] => setStatus 0
        | body => engine.run (exits && ending == .leaves) body
        match ending with
        | .leaves => return ()
        | .fallsThrough => runBranches engine exits subject true rest
        | .searchesOn => runBranches engine exits subject false rest
      else
        runBranches engine exits subject false rest

/-- Whether one of the branches of a choice matches. -/
def anyMatches (engine : Engine) (subject : Octets) :
    List (List Word × Command × CaseEnd) → Sh Bool
  | [] => return false
  | (patterns, _, _) :: rest => do
      if ← matchesAny engine subject patterns then
        return true
      else
        anyMatches engine subject rest

/-- Run a choice. -/
def runChoice (engine : Engine) (exits : Bool) (subject : Word)
    (branches : List (List Word × Command × CaseEnd)) (line : Nat) : Sh Unit := do
  modify fun state => { state with line := line }
  let place ← tracePlace
  let text ← wordText (substitution engine) subject
  if ← isBash then
    trace engine place (return "case ".toList ++ text ++ " in".toList)
  if ← anyMatches engine text branches then
    runBranches engine exits text false branches
  else
    setStatus 0

/-- The expression that a word writes, in which quoted characters stand for themselves. -/
def regexOf (engine : Engine) (word : Word) : Sh Octets := do
  let found ← pieces (substitution engine) (← expandLeadingTilde word)
  return found.flatMap fun
    | .char c origin =>
        if origin == .quoted && "\\[]()\x7b\x7d.*+?^$|".toList.contains c then ['\\', c] else [c]
    | .nothing => []
    | .cut joint => joint

/-- Find an expression in a text, and remember what its groups have matched. -/
def findRegex (text pattern : Octets) : Sh Nat := do
  match Matching.Regex.ofText .extended pattern with
  | .error _ => return 2
  | .ok regex =>
      let style : Matching.Regex.Style := { folds := ← hasFeature "nocasematch" }
      match Matching.Regex.search? style regex text 0 with
      | none => return 1
      | some found =>
          let groups := (List.range (regex.groups + 1)).map fun (number : Nat) =>
            (number, (found.group? text number).getD [])
          putVariable "BASH_REMATCH".toList { value := .list groups }
          return 0

/-- Tell the answer to a question as a status. -/
def truth (holds : Bool) : Nat :=
  if holds then 0 else 1

/-- Compare numbers that are written as expressions. -/
def compareNumbers (operator left right : Octets) : Sh Nat := do
  let left ← evaluate left
  let right ← evaluate right
  match String.ofList operator with
  | "-eq" => return truth (left == right)
  | "-ne" => return truth (left != right)
  | "-lt" => return truth (left < right)
  | "-le" => return truth (left ≤ right)
  | "-gt" => return truth (right < left)
  | _ => return truth (right ≤ left)

/-- Test a condition between two words. -/
def testBinary (engine : Engine) (place : Option Nat) (start : Octets) (left : Word)
    (operator : Octets) (right : Word) : Sh Nat := do
  let substitution := substitution engine
  let text ← wordText substitution left
  let shows (right : Octets) : Sh Unit :=
    trace engine place do
      return start ++ text ++ ' ' :: operator ++ ' ' :: right ++ " ]]".toList
  match String.ofList operator with
  | "=" | "==" | "!=" =>
      shows (← wordText substitution right)
      let items ← wordPattern substitution right
      let style := { (← patternStyle) with groups := true, folds := ← hasFeature "nocasematch" }
      let found := Pattern.«matches» style items text
      return truth (found == (operator != "!=".toList))
  | "=~" =>
      let pattern ← regexOf engine right
      shows pattern
      findRegex text pattern
  | sign =>
      let other ← wordText substitution right
      shows other
      if sign == "<" then
        return truth (Octets.isBefore text other)
      else if sign == ">" then
        return truth (Octets.isBefore other text)
      else if ["-nt", "-ot", "-ef"].contains sign then
        match (← Builtin.testSetting).binary text operator other with
        | .ok holds => return truth holds
        | .error _ => return 2
      else
        compareNumbers operator text other

/-- Test a condition between double brackets. Answers the status. -/
def testCondition (engine : Engine) (place : Option Nat) :
    (fuel : Nat) → (start : Octets) → Condition → Sh Nat
  | 0, _, _ => return 2
  | fuel + 1, start, condition => do
      let substitution := substitution engine
      match condition with
      | .word word =>
          let text ← wordText substitution word
          trace engine place (return start ++ "-n ".toList ++ tracedWord text ++ " ]]".toList)
          return truth (!text.isEmpty)
      | .unary operator word =>
          let text ← wordText substitution word
          trace engine place do
            return start ++ operator ++ ' ' :: (if text.isEmpty then "''".toList else text) ++
              " ]]".toList
          match (← Builtin.testSetting).unary operator text with
          | .ok holds => return truth holds
          | .error _ => return 2
      | .binary left operator right => testBinary engine place start left operator right
      | .negation condition =>
          match ← testCondition engine place fuel (start ++ "! ".toList) condition with
          | 0 => return 1
          | 1 => return 0
          | status => return status
      | .both left right =>
          match ← testCondition engine place fuel start left with
          | 0 => testCondition engine place fuel start right
          | status => return status
      | .either left right =>
          match ← testCondition engine place fuel start left with
          | 0 => return 0
          | _ => testCondition engine place fuel start right

/-- How deep conditions may stand in each other. -/
def conditionDepth : Nat := 1000

/-- Run a condition between double brackets. -/
def runCondition (engine : Engine) (condition : Condition) (line : Nat) : Sh Unit := do
  modify fun state => { state with line := line }
  let place ← tracePlace
  setStatus (← testCondition engine place conditionDepth "[[ ".toList condition)

/-- Run a calculation that is a command. -/
def runCalculating (engine : Engine) (expression : Word) (line : Nat) : Sh Unit := do
  modify fun state => { state with line := line }
  match ← catching (runCalculation engine expression) with
  | .ok number => setStatus (if number == 0 then 1 else 0)
  | .error (.discard status) => setStatus status
  | .error leap => jump leap

/-- Let the user choose among words, as long as there is input. -/
def repeatSelection (engine : Engine) (name : Octets) (words : List Octets) (body : Command) :
    (fuel : Nat) → Sh Unit
  | 0 => return ()
  | fuel + 1 => do
      let entries := (List.range words.length).zip words
      let menu := entries.flatMap fun (index, word) =>
        decimal ((index + 1 : Nat)) ++ ") ".toList ++ word ++ ['\n']
      let prompt := (← setting? "PS3").getD "#? ".toList
      discard (writeTo 2 (menu ++ prompt))
      let status ← Builtin.read engine []
      if status != 0 then
        discard (writeTo 1 ['\n'])
        setStatus 1
      else
        let reply := (← setting? "REPLY").getD []
        let chosen :=
          match number? reply with
          | some (index + 1) => (words[index]?).getD []
          | _ => []
        assign name chosen
        if ← round (engine.run false body) then
          repeatSelection engine name words body fuel

/-- Run a command in a subshell; a shell that ends with it needs no new process. -/
def runInSubshell (engine : Engine) (exits : Bool) (body : Command) : Sh Unit := do
  let state ← get
  let stays := exits && state.dialect == .dash && state.jobs.isEmpty &&
    state.traps.all fun entry => entry.2.isEmpty
  if stays then
    modify fun state => { state with level := state.level + 1 }
    engine.run true body
    jump (.exit (← status))
  else
    runSubshell engine (engine.run true body)

/-- Report how long a command took. -/
def reportTime : Sh Unit := do
  let line (name : String) : String := name ++ "\t0m0.000s\n"
  discard (writeTo 2 ("\n" ++ line "real" ++ line "user" ++ line "sys").toList)

/-- Whether a command is one whose failure may end the shell. -/
def isChecked : Command → Bool
  | .simple .. | .pipeline _ | .subshell .. | .calculation .. | .condition .. => true
  | _ => false

/-- Run a command by its kind. -/
def runKind (engine : Engine) (exits : Bool) : Command → Sh Unit
  | .simple assignments words redirections line =>
      runSimple engine exits assignments words redirections line
  | .sequence commands => runSequence commands
  | .andThen left right => do
      testing (engine.run false left)
      if (← status) == 0 then
        engine.run exits right
  | .orElse left right => do
      testing (engine.run false left)
      if (← status) != 0 then
        engine.run exits right
  | .negation command => do
      testing (engine.run false command)
      setStatus (if (← status) == 0 then 1 else 0)
  | .pipeline commands => runPipeline engine commands
  | .background command => startJob command
  | .subshell body line => do
      modify fun state => { state with line := line }
      runInSubshell engine exits body
  | .group body => engine.run exits body
  | .redirected command redirections line => do
      modify fun state => { state with line := line }
      withRedirections engine false false redirections (engine.run false command)
  | .conditional condition body otherwise => do
      testing (engine.run false condition)
      if (← status) == 0 then
        engine.run exits body
      else
        match otherwise with
        | some command => engine.run exits command
        | none => setStatus 0
  | .repetition holds condition body =>
      looping (repeatWhile engine holds condition body roundLimit 0)
  | .loop name words body line => runLoop engine name words body line
  | .counted start condition step body line => runCounted engine start condition step body line
  | .choice subject branches line => runChoice engine exits subject branches line
  | .selection name words body line => do
      modify fun state => { state with line := line }
      let words ← loopWords engine words
      looping (repeatSelection engine name words body roundLimit)
  | .definition name body line => do
      let function : Function := { body := body, line := line, source := ← functionSource }
      modify fun state => { state with functions := setEntry name function state.functions }
      setStatus 0
  | .calculation expression line => runCalculating engine expression line
  | .condition condition line => runCondition engine condition line
  | .timed command => do
      engine.run false command
      reportTime
where
  /-- Run commands one after the other. -/
  runSequence : List Command → Sh Unit
    | [] => return ()
    | [last] => engine.run exits last
    | first :: rest => do
        engine.run false first
        runSequence rest

/-- How many signals may come while one is dealt with. -/
def pendingLimit : Nat := 1000

/-- Run a command, and what has to be done behind it. -/
def runCommand (engine : Engine) (exits : Bool) (command : Command) : Sh Unit := do
  if ← hasFlag 'n' then
    return ()
  else
    runKind engine exits command
    runPending engine pendingLimit
    if isChecked command then
      if (← isBash) && (command matches .simple ..) then
        modify fun state => { state with statuses := [state.status] }
      checkFailure engine

/-- An engine that runs commands inside each other up to a depth. -/
def engineOf (launcher : Launcher) : (depth : Nat) → Engine
  | 0 => { run := fun _ _ => jump (.killed 11), launcher := launcher }
  | depth + 1 =>
      { run := fun exits command => runCommand (engineOf launcher depth) exits command
        launcher := launcher }

end Sh

end Provision.Shell
