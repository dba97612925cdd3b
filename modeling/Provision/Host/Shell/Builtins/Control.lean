import Provision.Host.Shell.Builtins.Basic

namespace Provision.Shell.Builtin

open Programs Utilities

/-!
# Builtins that steer a script

They leave loops, functions and shells, and run texts and programs in place of
the script.
-/

/-- Do nothing, with a status. -/
def answering (status : Nat) : Builtin := fun _ _ =>
  return status

/-- Refuse arguments behind the first one; the line of commands ends with that. -/
def refuseMore (arguments : List Octets) : Sh Unit := do
  if arguments.length > 1 then
    Sh.complain "too many arguments".toList
    Sh.jump (.discard 1)

/-- The number of loops that a builtin is about. -/
def loopCount (arguments : List Octets) : Sh (Option Nat) := do
  match arguments, ← Sh.dialect with
  | [], _ => return some 1
  | text :: _, .dash =>
      match ← plainNumber text with
      | 0 => failNumber text
      | number => return some number
  | text :: _, .bash =>
      match wholeNumber? text with
      | none =>
          Sh.complain (text ++ ": numeric argument required".toList)
          Sh.jump (.exit 128)
      | some number =>
          refuseMore arguments
          if number < 1 then
            Sh.complain (text ++ ": loop count out of range".toList)
            return none
          else
            return some number.toNat

/-- Leave loops, or go on with their next round. -/
def leaveLoops (leap : Nat → Jump) (name : String) : Builtin := fun _ arguments => do
  let loops := (← get).loops
  if loops == 0 then
    if ← Sh.isBash then
      Sh.complain "only meaningful in a \x60for', \x60while', or \x60until' loop".toList
    else
      discard (loopCount arguments)
    return 0
  else
    match ← loopCount arguments with
    | some count =>
        Sh.setStatus 0
        Sh.jump (leap (min count loops))
    | none =>
        Sh.setStatus 1
        Sh.jump (if name == "break" then .break loops else leap loops)

/-- The status that an argument gives. -/
def statusOf (arguments : List Octets) : Sh Nat := do
  match arguments, ← Sh.dialect with
  | [], _ => Sh.status
  | text :: _, .dash => plainNumber text
  | text :: _, .bash =>
      match wholeNumber? text with
      | some number =>
          refuseMore arguments
          return (number % 256).toNat
      | none =>
          Sh.complain (text ++ ": numeric argument required".toList)
          return 2

/-- Leave a function or a file. -/
def leaveFunction : Builtin := fun _ arguments => do
  let state ← get
  let status ← statusOf arguments
  if state.dialect == .bash && state.callers.isEmpty && state.sources == 0 then
    complaint "can only \x60return' from a function or sourced script".toList 2
  else
    Sh.jump (.return status)

/-- End the shell. -/
def leaveShell : Builtin := fun _ arguments => do
  Sh.jump (.exit ((← statusOf arguments) % 256))

/-- Drop arguments of the script. -/
def shift : Builtin := fun _ arguments => do
  let state ← get
  let drop (count : Nat) : Sh Nat := do
    if state.arguments.length < count then
      if state.dialect == .dash then
        Sh.fail "can't shift that many".toList
      else
        return 1
    else
      modify fun state => { state with arguments := state.arguments.drop count }
      return 0
  match arguments, state.dialect with
  | [], _ => drop 1
  | text :: _, .dash => drop (← plainNumber text)
  | text :: _, .bash =>
      match wholeNumber? text with
      | some number =>
          refuseMore arguments
          if number < 0 then
            complaint (text ++ ": shift count out of range".toList) 1
          else
            drop number.toNat
      | none =>
          Sh.complain (text ++ ": numeric argument required".toList)
          return 1

/-- Texts with blanks between them. -/
def spaced (texts : List Octets) : Octets :=
  joinedWith [' '] texts

/-- Run the text that arguments write. -/
def eval : Builtin := fun engine arguments => do
  let arguments := if arguments.head? == some "--".toList then arguments.tail else arguments
  let text := spaced arguments
  Sh.setStatus 0
  let run (line : Nat) : Sh Unit := Sh.runText engine false .evaluated line text
  match ← Sh.dialect with
  | .dash => run 1
  | .bash =>
      let deepen (change : Nat → Nat) : Sh Unit :=
        modify fun state => { state with depth := change state.depth }
      deepen (· + 1)
      let line := max 1 (← get).readLine
      Sh.ensuring (Sh.withoutBuiltin (run line)) (deepen (· - 1))
  Sh.status

/-- The file that a name without a separator means when it is to be read. -/
def sourcePath (name : Octets) : Sh (Option Octets) := do
  if isPathName name then
    return some name
  else
    let state ← get
    let isFile (path : Octets) : Bool :=
      state.system.disk.isFile state.process.directory (pathOf path)
    match (← Sh.candidates name).find? isFile with
    | some path => return some path
    | none => return if state.dialect == .bash && isFile name then some name else none

/-- Run the commands of a file. -/
def source : Builtin := fun engine arguments => do
  let bash ← Sh.isBash
  let arguments := if arguments.head? == some "--".toList then arguments.tail else arguments
  match arguments with
  | [] =>
      if bash then
        Sh.complain "filename argument required".toList
        printUsage
        return 2
      else
        return 0
  | name :: others =>
      let missing (words : Octets) : Sh Nat := do
        if bash then
          Sh.withoutBuiltin (complaint (name ++ ": ".toList ++ words) 1)
        else if isPathName name then
          Sh.fail ("cannot open ".toList ++ name ++ ": ".toList ++ words)
        else
          Sh.fail (name ++ ": not found".toList)
      match ← sourcePath name with
      | none => missing "No such file or directory".toList
      | some path =>
          match ← Sh.act (Act.readFile path) with
          | .ok (.ok text) =>
              let before ← get
              modify fun state => { state with
                sources := state.sources + 1
                loops := if bash then state.loops else 0
                source := if bash then some path else state.source
                builtin := if bash then none else some path
                depth := state.depth + 1
                arguments := if bash && !others.isEmpty then others else state.arguments
                status := 0 }
              let answer ← Sh.catching (Sh.runText engine false .script 1 text)
              modify fun state => { state with
                sources := before.sources
                loops := before.loops
                source := before.source
                builtin := before.builtin
                depth := before.depth
                arguments :=
                  if bash && !others.isEmpty then before.arguments else state.arguments }
              match answer with
              | .ok () => Sh.status
              | .error (.return status) => return status
              | .error leap => Sh.jump leap
          | .ok (.error reason) =>
              missing (refusalWords (if bash then .bash else .dash) false reason)
          | .error _ => return 1

/-- Become a program. -/
def exec : Builtin := fun engine arguments => do
  let bash ← Sh.isBash
  let call ← if bash then options "cla:" arguments else pure ⟨[], arguments⟩
  match call.operands with
  | [] => return 0
  | name :: rest =>
      let state ← get
      let process ← Sh.childProcess true name
      let process :=
        if call.has 'c' then { process with environment := [] } else process
      let shown := (call.value? 'a').getD name
      let shown := if call.has 'l' then '-' :: shown else shown
      Sh.finishJobs engine
      match ← Sh.startFirst engine process (shown :: rest) .notFound (← Sh.candidates name) with
      | .ok (.exited code) =>
          modify fun state => { state with traps := eraseEntry .exit state.traps }
          Sh.jump (.exit code)
      | .ok (.killed signal) => Sh.jump (.killed signal)
      | .error (path, reason) =>
          let missing := reason == .notFound || reason == .notADirectory
          let isFile := state.system.disk.isFile state.process.directory (pathOf path)
          let status := if missing then 127 else 126
          if bash then
            if isFile && missing then
              Sh.withoutBuiltin do
                Sh.complain (path ++ ": cannot execute: required file not found".toList)
            else if isFile then
              Sh.withoutBuiltin (Sh.complain (path ++ ": ".toList ++ reason.words.toList))
              Sh.complain (path ++ ": cannot execute: ".toList ++ reason.words.toList)
            else if isPathName name &&
                state.system.disk.isDirectory state.process.directory (pathOf name) then
              Sh.withoutBuiltin (Sh.complain (name ++ ": Is a directory".toList))
              Sh.complain (name ++ ": cannot execute: Is a directory".toList)
            else if isPathName name then
              Sh.withoutBuiltin (Sh.complain (name ++ ": ".toList ++ reason.words.toList))
            else
              Sh.complain (name ++ ": not found".toList)
          else
            let words := if missing then "not found".toList else reason.words.toList
            Sh.complain (name ++ ": ".toList ++ words)
          Sh.jump (.exit status)

/-- Calculate expressions. -/
def calculate : Builtin := fun _ arguments => do
  if arguments.isEmpty then
    complaint "expression expected".toList 1
  else
    let answer ← Sh.catching (arguments.mapM Sh.evaluate)
    match answer with
    | .ok numbers => return if numbers.getLast? == some 0 then 1 else 0
    | .error (.discard _) => return 1
    | .error leap => Sh.jump leap

/-- Tell how long the shell has run. -/
def times : Builtin := fun _ _ => do
  let line :=
    match ← Sh.dialect with
    | .dash => "0m0.000000s 0m0.000000s\n"
    | .bash => "0m0.000s 0m0.000s\n"
  print (line ++ line).toList

/-- Tell a limit of the system. -/
def limit : Builtin := fun _ arguments => do
  match arguments with
  | [] => printLine "unlimited".toList
  | [['-', 'n']] => printLine "1048576".toList
  | [_] => printLine "unlimited".toList
  | _ => return 0

end Provision.Shell.Builtin
