import Provision.Host.Shell.Builtins.Basic

namespace Provision.Shell.Builtin

open Programs Utilities

/-!
# Builtins about signals and processes

They say what happens when a signal comes, send signals, and wait for commands
in the background.
-/

/-- The number that digits write, if it is the number of a signal. -/
def signalOfDigits? (text : Octets) : Option Signal :=
  (count? text).filter (· < 65)

/-- The event that a word names for the small shell. -/
def plainEvent? (text : Octets) : Option TrapEvent :=
  let upper := text.map Char.toUpper
  match signalOfDigits? text with
  | some 0 => some .exit
  | some number => some (.signal number)
  | none =>
      if upper == "EXIT".toList then some .exit
      else (Signal.ofName? upper).map .signal

/-- The event that a word names for the large shell. -/
def richEvent? (text : Octets) : Option TrapEvent :=
  let upper := text.map Char.toUpper
  match String.ofList upper with
  | "EXIT" | "SIGEXIT" => some .exit
  | "ERR" => some .error
  | "DEBUG" => some .debug
  | "RETURN" => some .return
  | _ =>
      let name := if "SIG".toList.isPrefixOf upper then upper.drop 3 else upper
      match signalOfDigits? text with
      | some 0 => some .exit
      | some number => some (.signal number)
      | none => (Signal.ofName? name).map .signal

/-- The place of an event in the list of traps. -/
def eventPlace : TrapEvent → Nat
  | .exit => 0
  | .signal number => number
  | .debug => 65
  | .error => 66
  | .return => 67

/-- The name of an event. -/
def eventName (dialect : Dialect) : TrapEvent → Octets
  | .exit => "EXIT".toList
  | .error => "ERR".toList
  | .debug => "DEBUG".toList
  | .return => "RETURN".toList
  | .signal number =>
      let name := (Signal.name? number).getD (decimal number)
      match dialect with
      | .dash => name
      | .bash => "SIG".toList ++ name

/-- The traps as they are shown. -/
def shownTraps : Sh (List (TrapEvent × Octets)) := do
  let state ← get
  let others := state.outerTraps.filter fun entry =>
    !(state.traps.any fun other => other.1 == entry.1) && entry.1 != .exit
  let traps := state.traps ++ others
  return traps.mergeSort fun left right => eventPlace left.1 ≤ eventPlace right.1

/-- Show traps. -/
def showTraps (isShown : TrapEvent → Bool) : Sh Nat := do
  let dialect ← Sh.dialect
  let traps ← shownTraps
  let quote := if dialect == .dash then plainQuoted else shellQuoted
  let line (entry : TrapEvent × Octets) : Octets :=
    "trap -- ".toList ++ quote entry.2 ++ ' ' :: eventName dialect entry.1 ++ ['\n']
  print ((traps.filter fun entry => isShown entry.1).flatMap line)

/-- Set the trap of an event, or take it away. -/
def setTrap (event : TrapEvent) (action : Option Octets) : Sh Unit := do
  let bash ← Sh.isBash
  modify fun state => { state with
    traps :=
      match action with
      | some text => setEntry event text state.traps
      | none => eraseEntry event state.traps
    outerTraps := if bash then eraseEntry event state.outerTraps else [] }

/-- Set the traps of several events. -/
def setTraps (action : Option Octets) (words : List Octets) : Sh Nat := do
  let dialect ← Sh.dialect
  let mut status := 0
  for word in words do
    let event? :=
      match dialect with
      | .dash => plainEvent? word
      | .bash => richEvent? word
    match event?, dialect with
    | some event, _ => if status == 0 || dialect == .bash then setTrap event action
    | none, .dash =>
        if status == 0 then
          printError ("trap: ".toList ++ word ++ ": bad trap\n".toList)
        status := 1
    | none, .bash =>
        Sh.complain (word ++ ": invalid signal specification".toList)
        status := 1
  return status

/-- The signals in a table of several columns. -/
def signalTable : Octets :=
  let entry (signal : Signal) : Octets :=
    let digits := decimal (signal : Nat)
    let name := (Signal.name? signal).getD []
    let ending := if signal % 5 == 0 then ['\n'] else ['\t']
    List.replicate (2 - digits.length) ' ' ++ digits ++ ") SIG".toList ++ name ++ ending
  ((List.range 31).flatMap fun index => entry (index + 1)) ++ ['\n']

/-- Say what happens when signals come or the script ends. -/
def trap : Builtin := fun _ arguments => do
  let bash ← Sh.isBash
  let call ← options (if bash then "lp" else "") arguments
  if call.has 'l' then
    print signalTable
  else
    match call.operands with
    | [] => showTraps fun _ => true
    | first :: rest =>
        if call.has 'p' then
          let events := (first :: rest).filterMap richEvent?
          showTraps events.contains
        else
          let isEvent := if bash then richEvent? first else plainEvent? first
          let isNumber := first.all Char.isDigit && isEvent.isSome && !first.isEmpty
          if isNumber then
            setTraps none (first :: rest)
          else if rest.isEmpty then
            if bash && (isEvent.isNone || first == ['-']) then
              printUsage
              return 2
            else
              setTraps none [first]
          else
            setTraps (if first == ['-'] then none else some first) rest

/-- The signal that a word names. -/
def signalOf? (dialect : Dialect) (word : Octets) : Option Signal :=
  let event? :=
    match dialect with
    | .dash => plainEvent? word
    | .bash => richEvent? word
  match event? with
  | some (.signal number) => some number
  | some .exit => if word == ['0'] || dialect == .bash then some 0 else none
  | _ => none

/-- Whether a process with a number is running. -/
def isRunning (number : Nat) : Sh Bool := do
  let state ← get
  return number == state.process.number || number == state.process.parent ||
    number == state.shellNumber || number == 1 || number == 0 ||
    state.jobs.any fun job => job.number == number && job.waiting.isSome

/-- Send a signal to a process. Answers whether there is such a process. -/
def send (signal : Signal) (number : Nat) : Sh Bool := do
  let state ← get
  if !(← isRunning number) then
    return false
  else
    if signal != 0 then
      match state.jobs.find? fun job => job.number == number with
      | some job =>
          if !Signal.harmless.contains signal then
            let ended := { job with waiting := none, ending := .killed signal }
            let jobs := state.jobs.map fun other =>
              if other.number == number then ended else other
            set { state with jobs := jobs }
      | none =>
          if number == state.process.number || number == 0 then
            Sh.receive signal
          else
            let sent := state.system.sent ++ [(number, signal)]
            set { state with system := { state.system with sent := sent } }
    return true

/-- The job that a word counts. -/
def jobOf? (word : Octets) : Sh (Option Job) := do
  let jobs := (← get).jobs.filter fun job => !job.hidden
  match word with
  | '%' :: digits =>
      match count? digits with
      | some (index + 1) => return jobs[index]?
      | _ =>
          if digits.isEmpty || digits == ['%'] || digits == ['+'] then
            return jobs.getLast?
          else
            return none
  | _ => return none

/-- Complain about a job that is not there. -/
def complainJob (word : Octets) : Sh Nat := do
  match ← Sh.dialect with
  | .dash => Sh.fail ("No such job: ".toList ++ word)
  | .bash => complaint (word ++ ": no such job".toList) 1

/-- Complain about the way in which a signal was to be sent. -/
def complainKill : Sh Nat := do
  match ← Sh.dialect with
  | .dash =>
      Sh.fail ("Usage: kill [-s sigspec | -signum | -sigspec] [pid | job]... or\n" ++
        "kill -l [exitstatus]").toList
  | .bash =>
      printUsage
      return 2

/-- Send a signal to the processes that words tell. -/
def sendAll (signal : Signal) (words : List Octets) : Sh Nat := do
  let bash ← Sh.isBash
  let mut status := 0
  for word in words do
    if word.head? == some '%' then
      match ← jobOf? word with
      | some job => discard (send signal job.number)
      | none => status := ← complainJob word
    else
      match (if bash then wholeNumber? word else (count? word).map fun number => (number : Int)),
          word with
      | some number, _ =>
          let found ← if number < 0 then pure false else send signal number.toNat
          if !found then
            status := 1
            if bash then
              Sh.complain ('(' :: decimal number ++ ") - No such process".toList)
            else
              Sh.complain "No such process\n".toList
      | none, '-' :: digits =>
          if !bash && (count? digits).isSome then
            status := 1
            Sh.complain "No such process\n".toList
          else
            status := ← (if bash then
              complaint (word ++ ": arguments must be process or job IDs".toList) 1
            else failNumber digits)
      | none, _ =>
          status := ← (if bash then
            complaint (word ++ ": arguments must be process or job IDs".toList) 1
          else failNumber word)
  return status

/-- Tell the names of signals. -/
def tellSignals (words : List Octets) : Sh Nat := do
  let bash ← Sh.isBash
  match words, bash with
  | [], true => print signalTable
  | [], false =>
      let names := (List.range 31).map fun index => (Signal.name? (index + 1)).getD []
      let others := (List.range 33).map fun index => decimal ((index + 32 : Nat))
      print ((['0'] :: names ++ others).flatMap fun name => name ++ ['\n'])
  | word :: _, false =>
      let number ← plainNumber word
      let signal := if 128 < number then number - 128 else number
      match Signal.name? signal with
      | some name => printLine name
      | none => Sh.fail ("invalid signal number or exit status: ".toList ++ word)
  | words, true =>
      let mut status := 0
      for word in words do
        match count? word with
        | some number =>
            let signal := if 128 < number then number - 128 else number
            match if signal == 0 then some "EXIT".toList else Signal.name? signal with
            | some name => discard (printLine name)
            | none => status := ← complaint (word ++ ": invalid signal specification".toList) 1
        | none =>
            match signalOf? .bash word with
            | some signal => discard (printLine (decimal (signal : Nat)))
            | none => status := ← complaint (word ++ ": invalid signal specification".toList) 1
      return status

/-- Send a signal by the word that names it. -/
def sendNamed (name : Octets) (words : List Octets) : Sh Nat := do
  let dialect ← Sh.dialect
  match signalOf? dialect name, dialect with
  | some signal, _ => if words.isEmpty then complainKill else sendAll signal words
  | none, .dash => Sh.fail ("invalid signal number or name: ".toList ++ name)
  | none, .bash => complaint (name ++ ": invalid signal specification".toList) 1

/-- Send signals, or tell their names. -/
def kill : Builtin := fun _ arguments => do
  let dialect ← Sh.dialect
  let behindDashes (words : List Octets) : List Octets :=
    if words.head? == some ['-', '-'] then words.drop 1 else words
  match arguments with
  | [] => complainKill
  | ['-', '-'] :: rest =>
      if rest.isEmpty then complainKill else sendAll Signal.terminate rest
  | ('-' :: letters) :: rest =>
      match signalOf? dialect letters with
      | some signal =>
          let words := behindDashes rest
          if words.isEmpty then complainKill else sendAll signal words
      | none =>
          if letters == ['l'] || (letters == ['L'] && dialect == .bash) then
            tellSignals rest
          else if letters == ['s'] || (letters == ['n'] && dialect == .bash) then
            match rest with
            | name :: rest => sendNamed name (behindDashes rest)
            | [] =>
                if dialect == .bash then
                  complaint ('-' :: letters ++ ": option requires an argument".toList) 1
                else
                  Sh.fail "No arg for -s option".toList
          else if letters.head? == some 's' && dialect == .dash then
            sendNamed (letters.drop 1) rest
          else if dialect == .dash then
            let unknown := (letters.find? fun c => c != 'l').getD '-'
            Sh.fail ("Illegal option -".toList ++ [unknown])
          else
            complaint (letters ++ ": invalid signal specification".toList) 1
  | words => sendAll Signal.terminate words

/-- Forget a job whose end was told. -/
def reportJob (job : Job) : Sh Nat := do
  match ← Sh.dialect with
  | .dash => Sh.reportEnding job.ending
  | .bash => pure ()
  return job.ending.status

/-- Wait for commands in the background. -/
def wait : Builtin := fun engine arguments => do
  let bash ← Sh.isBash
  let call ← options (if bash then "fnp:" else "") arguments
  Sh.finishJobs engine
  match call.operands with
  | [] =>
      if call.has 'n' then
        match (← get).jobs.getLast? with
        | some job => return job.ending.status
        | none => return 127
      else
        return 0
  | words =>
      let mut status := 0
      for word in words do
        if word.head? == some '%' then
          match ← jobOf? word with
          | some job => status := ← reportJob job
          | none =>
              discard (complainJob word)
              status := 127
        else
          match count? word with
          | none =>
              if bash then
                Sh.complain ('\x60' :: word ++ "': not a pid or valid job spec".toList)
                status := 1
              else
                failNumber word
          | some number =>
              match (← get).jobs.find? fun job => job.number == number with
              | some job => status := ← reportJob job
              | none =>
                  status := 127
                  if bash then
                    Sh.complain ("pid ".toList ++ word ++ " is not a child of this shell".toList)
      return status

/-- Tell which commands run in the background. -/
def jobs : Builtin := fun _ arguments => do
  let call ← options (if ← Sh.isBash then "lnprsx" else "lp") arguments
  let mut status := 0
  for word in call.operands do
    match ← jobOf? word with
    | some _ => pure ()
    | none => status := ← complainJob word
  return status

/-- Bring a command out of the background, which no script can. -/
def resume : Builtin := fun _ arguments => do
  match arguments, ← Sh.dialect with
  | [], .dash => Sh.fail "No current job".toList
  | word :: _, .dash => Sh.fail ("No such job: ".toList ++ word)
  | _, .bash => complaint "no job control".toList 1

/-- Give a command in the background up. -/
def disown : Builtin := fun _ arguments => do
  let jobs := (← get).jobs.filter fun job => !job.hidden
  if jobs.isEmpty then
    complaint ((arguments.head?.getD "current".toList) ++ ": no such job".toList) 1
  else
    return 0

end Provision.Shell.Builtin
