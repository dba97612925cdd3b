import Provision.Host.Programs.Act
import Provision.Host.Shell.Grammar

namespace Provision.Shell

open Programs

/-!
# The state of a shell

A shell knows variables, functions and options, and it has a process of its own.
A subshell starts from the same state; what it changes is lost when it ends,
apart from what all processes share.
-/

/-- What a variable holds. -/
inductive Value where
  | unset
  | text (text : Octets)
  /-- Elements with their subscripts, in ascending order. -/
  | list (elements : List (Nat × Octets))
  /-- Elements with their keys. -/
  | table (elements : List (Octets × Octets))
  deriving Repr, DecidableEq

/-- A variable of a shell. -/
structure Variable where
  value : Value := .unset
  exported : Bool := false
  readOnly : Bool := false
  /-- Values are calculated. -/
  integer : Bool := false
  /-- How the case of letters in values is changed. -/
  letters : Option CaseChange := none
  /-- Whether the value names the variable that is meant. -/
  refers : Bool := false
  deriving Repr, DecidableEq

/-- When a trap is run. -/
inductive TrapEvent where
  | exit
  | signal (signal : Signal)
  | error
  | debug
  | return
  deriving Repr, DecidableEq

/-- A function of a script. -/
structure Function where
  body : Command
  line : Nat
  /-- The file that defines it, if it is not the script itself. -/
  source : Option Octets := none

/-- A program that a shell has found already. -/
structure Remembered where
  path : Octets
  /-- How often it was run since. -/
  uses : Nat := 0
  deriving Repr, DecidableEq

/-- What a subshell takes over. -/
structure Situation where
  dialect : Dialect
  process : Process
  /-- The name of the script. -/
  name : Octets
  /-- The file that is read instead of the script. -/
  source : Option Octets := none
  arguments : List Octets := []
  bindings : List (Octets × Variable) := []
  functions : List (Octets × Function) := []
  aliases : List (Octets × Octets) := []
  /-- Programs that were searched for already, by their names. -/
  known : List (Octets × Remembered) := []
  /-- The latest number of a sequence without visible order. -/
  seed : Nat := 1
  /-- The options that are set, by their letters. -/
  flags : List Char := []
  /-- The options that are set and have no letters. -/
  features : List String := []
  status : Nat := 0
  /-- The status of the latest substituted command. -/
  substituted : Option Nat := none
  /-- The statuses of the commands of the latest pipeline. -/
  statuses : List Nat := []
  /-- The number of the latest background process. -/
  background : Option Nat := none
  /-- The number of the process that the script runs in. -/
  shellNumber : Nat
  line : Nat := 0
  /-- The builtin that is running. -/
  builtin : Option Octets := none
  traps : List (TrapEvent × Octets) := []
  /-- The traps of the shell around a subshell, which are only shown. -/
  outerTraps : List (TrapEvent × Octets) := []
  /-- The variables that running functions hide, with what they were. -/
  scopes : List (List (Octets × Option Variable)) := []
  /-- The functions that are running, the latest first. -/
  callers : List Octets := []
  /-- How many loops the command stands in. -/
  loops : Nat := 0
  /-- How many files are being read by commands. -/
  sources : Nat := 0
  /-- Whether a failure is expected. -/
  tested : Bool := false
  /-- How many subshells this one is in. -/
  level : Nat := 0
  /-- Texts of the script, by their numbers. -/
  texts : List (Nat × Word) := []
  nextText : Nat := 0
  /-- Where the next option letter stands in an argument. -/
  optionOffset : Nat := 0
  /-- The path of the working directory, as it was reached. -/
  here : Octets := []
  /-- Directories to come back to. -/
  directories : List Octets := []
  /-- The last word of the latest command. -/
  lastWord : Octets := []
  /-- How many texts are being run inside each other. -/
  depth : Nat := 0
  /-- The line on which the reading of the script has stopped. -/
  readLine : Nat := 0

/-- A command that runs beside the script. -/
structure Job where
  number : Nat
  /-- What is still to be run, and in which situation. -/
  waiting : Option (Situation × Command)
  ending : Ending := .exited 0
  /-- Whether a command in front of it waits for it, so that nobody else is told of it. -/
  hidden : Bool := false

/-- The state of a shell. -/
structure State extends Situation where
  system : System
  jobs : List Job := []
  /-- Signals whose traps are still to be run. -/
  pending : List Signal := []

/-- What leaves commands before their end. -/
inductive Jump where
  | exit (status : Nat)
  | killed (signal : Signal)
  | return (status : Nat)
  /-- Leaves a number of loops. -/
  | break (levels : Nat)
  /-- Goes on with the next round of a loop. -/
  | continue (levels : Nat)
  /-- An error that ends the script, or the special builtin in which it arises. -/
  | error (status : Nat)
  /-- An error that ends the line. -/
  | discard (status : Nat)
  deriving Repr, DecidableEq

/-- What a shell does. -/
abbrev Sh := ExceptT Jump (StateM State)

namespace Sh

/-- Leave the command. -/
def jump (jump : Jump) : Sh α :=
  throw jump

/-- The dialect of the shell. -/
def dialect : Sh Dialect := do
  return (← get).dialect

/-- Whether the shell is the one with more features. -/
def isBash : Sh Bool := do
  return (← get).dialect == .bash

/-- The status of the latest command. -/
def status : Sh Nat := do
  return (← get).status

/-- Set the status of the latest command. -/
def setStatus (status : Nat) : Sh Unit :=
  modify fun state => { state with status := status }

/-- Whether an option is set. -/
def hasFlag (flag : Char) : Sh Bool := do
  return (← get).flags.contains flag

/-- Whether an option without a letter is set. -/
def hasFeature (feature : String) : Sh Bool := do
  return (← get).features.contains feature

/-- Run a part of a program in the process of the shell. -/
def act (act : Act α) : Sh (Except Ending α) := do
  let state ← get
  let (answer, system) := ((act.run state.process).run).run state.system
  set { state with system := system }
  return answer

/-- Write through a descriptor. -/
def writeTo (descriptor : Nat) (text : Octets) : Sh (Except SystemError Unit) := do
  match ← act (Act.writeTo descriptor text) with
  | .ok answer => return answer
  | .error _ => return .ok ()

/-- What stands in front of a complaint. -/
def complaintStart : Sh Octets := do
  let state ← get
  let builtin :=
    match state.builtin with
    | some name => name ++ ": ".toList
    | none => []
  match state.dialect with
  | .dash =>
      return state.name ++ ": ".toList ++ (toString state.line).toList ++ ": ".toList ++ builtin
  | .bash =>
      let source := state.source.getD state.name
      let place :=
        if source == "bash".toList then [] else ": line ".toList ++ (toString state.line).toList
      return source ++ place ++ ": ".toList ++ builtin

/-- Complain on the standard error output. -/
def complain (message : Octets) : Sh Unit := do
  discard (writeTo 2 ((← complaintStart) ++ message ++ ['\n']))

/-- Complain, and leave what the dialect leaves for such an error. -/
def fail (message : Octets) : Sh α := do
  complain message
  match ← dialect with
  | .dash => jump (.error 2)
  | .bash => jump (.discard 1)

/-- Run a step without telling a builtin in complaints. -/
def withoutBuiltin (step : Sh α) : Sh α := do
  let builtin := (← get).builtin
  modify fun state => { state with builtin := none }
  let answer ← step
  modify fun state => { state with builtin := builtin }
  return answer

/-- Catch what leaves a step. -/
def catching (step : Sh α) : Sh (Except Jump α) := do
  let (answer, state) := (step.run).run (← get)
  set state
  return answer

/-- Run a step, and afterwards another one, however the first one ends. -/
def ensuring (step : Sh α) (after : Sh Unit) : Sh α := do
  let answer ← catching step
  after
  match answer with
  | .ok value => return value
  | .error leap => jump leap

end Sh

end Provision.Shell
