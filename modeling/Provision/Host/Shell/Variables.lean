import Provision.Host.Shell.State

namespace Provision.Shell

open Programs

/-!
# Variables and parameters

A name stands for a variable, which may be hidden while a function runs. Some
names are computed when they are asked for.
-/

/-- Change the case of letters. -/
def CaseChange.apply (change : CaseChange) (c : Char) : Char :=
  match change with
  | .raised => c.toUpper
  | .lowered => c.toLower
  | .toggled => if c.isUpper then c.toLower else c.toUpper

/-- The text of a number. -/
def decimal (number : Int) : Octets :=
  (toString number).toList

/-- Put an element into its place. -/
def insertElement (index : Nat) (text : Octets) : List (Nat × Octets) → List (Nat × Octets)
  | [] => [(index, text)]
  | (other, value) :: rest =>
      if other < index then (other, value) :: insertElement index text rest
      else if other == index then (index, text) :: rest
      else (index, text) :: (other, value) :: rest

/-- Set the value of a key. -/
def setEntry [BEq α] (key : α) (value : β) : List (α × β) → List (α × β)
  | [] => [(key, value)]
  | (other, old) :: rest =>
      if other == key then (key, value) :: rest else (other, old) :: setEntry key value rest

/-- Forget a key. -/
def eraseEntry [BEq α] (key : α) (entries : List (α × β)) : List (α × β) :=
  entries.filter fun entry => !(entry.1 == key)

/-- A number that is computed from the characters of a key, in the large shell. -/
def keyNumber (key : Octets) : Nat :=
  key.foldl (fun hash c => ((hash * 16777619) % Nat.pow 2 32) ^^^ c.toNat) 2166136261

/-- The place of a key in a table, which hides the order of assignments. -/
def tablePlace (key : Octets) : Nat :=
  keyNumber key % 1024

/-- A number that is computed from the characters of a name, in the small shell. -/
def nameNumber (name : Octets) : Nat :=
  name.foldl (fun sum c => sum + c.toNat) ((name.head?.map Char.toNat).getD 0 * 16)

/-- The place of a variable in the environment that the small shell hands on. -/
def environmentBucket (name : Octets) : Nat :=
  nameNumber name % 39

/-- The place of a program among those that a shell has found. -/
def programPlace (dialect : Dialect) (name : Octets) : Nat :=
  match dialect with
  | .dash => nameNumber name % 31
  | .bash => keyNumber name % 256

namespace Value

/-- The value that stands for the whole variable. -/
def text? : Value → Option Octets
  | .unset => none
  | .text content => some content
  | .list elements => elements.lookup 0
  | .table elements => elements.lookup ['0']

/-- All elements. -/
def elements : Value → List Octets
  | .unset => []
  | .text content => [content]
  | .list elements => elements.map Prod.snd
  | .table elements => elements.map Prod.snd

/-- All subscripts. -/
def keys : Value → List Octets
  | .unset => []
  | .text _ => [['0']]
  | .list elements => elements.map fun entry => decimal entry.1
  | .table elements => elements.map Prod.fst

/-- The elements with their numbers. -/
def numbered : Value → List (Nat × Octets)
  | .unset => []
  | .text content => [(0, content)]
  | .list elements => elements
  | .table _ => []

end Value

namespace Sh

/-- The variable that a name stands for, references not followed. -/
def variableNamed? (name : Octets) : Sh (Option Variable) := do
  return (← get).bindings.lookup name

/-- The name that a reference means in the end. -/
def target (name : Octets) : (fuel : Nat) → Sh Octets
  | 0 => return name
  | fuel + 1 => do
      match ← variableNamed? name with
      | some held =>
          match held.refers, held.value with
          | true, .text other => target other fuel
          | _, _ => return name
      | none => return name

/-- How many references are followed. -/
def referenceLimit : Nat := 8

/-- Put a variable in the place of the one with its name. -/
def putVariable (name : Octets) (held : Variable) : Sh Unit :=
  modify fun state => { state with bindings := setEntry name held state.bindings }

/-- Change a variable, which is created if it does not exist. -/
def changeVariable (name : Octets) (change : Variable → Variable) : Sh Unit := do
  let held := ((← get).bindings.lookup name).getD {}
  putVariable name (change held)

/-- Forget a variable. -/
def eraseVariable (name : Octets) : Sh Unit :=
  modify fun state => { state with bindings := eraseEntry name state.bindings }

/-- The number behind another in a sequence without visible order. -/
def seedAfter (seed : Nat) : Nat :=
  let seed := if seed == 0 then 123459876 else seed
  let next : Int := 16807 * (seed % 127773 : Nat) - 2836 * (seed / 127773 : Nat)
  (if next < 0 then next + 2147483647 else next).toNat

/-- Draw a number without visible order. -/
def drawNumber : Sh Nat := do
  let seed := seedAfter (← get).seed
  modify fun state => { state with seed := seed }
  return ((seed / 65536) ^^^ (seed % 65536)) % 32768

/-- Variables that are computed when they are asked for. -/
def computed? (name : Octets) : Sh (Option Octets) := do
  let state ← get
  if state.dialect == .dash then
    return none
  else
    match String.ofList name with
    | "LINENO" => return some (decimal state.line)
    | "BASHPID" => return some (decimal state.process.number)
    | "BASH_SUBSHELL" => return some (decimal state.level)
    | "SECONDS" => return some ['0']
    | "RANDOM" => return some (decimal (← drawNumber : Nat))
    | "FUNCNAME" => return state.callers.head?
    | "PIPESTATUS" => return (state.statuses.head?).map fun status => decimal status
    | "_" => return some state.lastWord
    | _ => return none

/-- The value of a variable with a text. -/
def value? (name : Octets) : Sh (Option Octets) := do
  match ← computed? name with
  | some value => return some value
  | none =>
      let name ← target name referenceLimit
      return ((← get).bindings.lookup name).bind fun held => held.value.text?

/-- The value of a variable of the shell's own. -/
def setting? (name : String) : Sh (Option Octets) :=
  value? name.toList

/-- The number that a variable holds, if its value is one. -/
def number? (text : Octets) : Option Nat :=
  if !text.isEmpty && text.all Char.isDigit then some (numberOfDigits 10 text) else none

/-- Letters of the options that are set. -/
def flagLetters : Sh Octets := do
  let state ← get
  let order :=
    match state.dialect with
    | .dash => "pubaCEVvxsnmiIfe".toList
    | .bash => "abefhkmnptuvxBCEHPTsci".toList
  let set := order.filter state.flags.contains
  return set

/-- The value of a parameter whose name is a sign or a number. -/
def special? (name : Octets) : Sh (Option Octets) := do
  let state ← get
  match name with
  | ['#'] => return some (decimal state.arguments.length)
  | ['?'] => return some (decimal state.status)
  | ['$'] => return some (decimal state.shellNumber)
  | ['!'] => return state.background.map fun number => decimal number
  | ['-'] => return some (← flagLetters)
  | ['0'] => return some state.name
  | digits =>
      match number? digits with
      | some 0 => return some state.name
      | some (number + 1) => return state.arguments[number]?
      | none => return none

/-- Refuse to change a variable that may not be changed. -/
def refuseReadOnly (name : Octets) : Sh Unit := do
  if (((← get).bindings.lookup name).map Variable.readOnly).getD false then
    match ← dialect with
    | .dash => fail (name ++ ": is read only".toList)
    | .bash => withoutBuiltin (fail (name ++ ": readonly variable".toList))

/-- Forget what was derived from a variable that changes. -/
def noteAssignment (name : Octets) : Sh Unit := do
  if name == "OPTIND".toList then
    modify fun state => { state with optionOffset := 0 }
  else if name == "PATH".toList then
    modify fun state => { state with known := [] }

/-- Begin a sequence of numbers anew, where its variable is assigned. -/
def noteSeed (name text : Octets) : Sh Unit := do
  if name == "RANDOM".toList then
    let seed := ((number? text).getD 0) % Nat.pow 2 32
    modify fun state => { state with seed := seed }

/-- Give a variable a text. -/
def assign (name text : Octets) : Sh Unit := do
  let name ← target name referenceLimit
  refuseReadOnly name
  noteAssignment name
  noteSeed name text
  let all ← hasFlag 'a'
  changeVariable name fun held =>
    let text :=
      match held.letters with
      | some change => text.map change.apply
      | none => text
    let value :=
      match held.value with
      | .list elements => .list (insertElement 0 text elements)
      | .table elements => .table (setEntry ['0'] text elements)
      | _ => .text text
    { held with value := value, exported := held.exported || all }

/-- Give a variable of the shell's own a text. -/
def assignSetting (name : String) (text : Octets) : Sh Unit :=
  assign name.toList text

/-- Keep what a variable is, to bring it back when the function ends. -/
def hide (name : Octets) : Sh Unit := do
  let state ← get
  match state.scopes with
  | [] => return ()
  | scope :: others =>
      unless scope.any fun entry => entry.1 == name do
        let scope := (name, state.bindings.lookup name) :: scope
        set { state with scopes := scope :: others }

/-- Begin to hide variables. -/
def openScope : Sh Unit :=
  modify fun state => { state with scopes := [] :: state.scopes }

/-- Bring back what was hidden. -/
def closeScope : Sh Unit := do
  let state ← get
  match state.scopes with
  | [] => return ()
  | scope :: others =>
      let bindings := scope.foldl (fun bindings (name, old) =>
        match old with
        | some held => setEntry name held bindings
        | none => eraseEntry name bindings) state.bindings
      set { state with bindings := bindings, scopes := others }

/-- Make a variable one of those that programs see. -/
def markExported (name : Octets) : Sh Unit :=
  changeVariable name fun held => { held with exported := true }

/-- The exported variables in the order in which they are handed on. -/
def environment : Sh (List (Octets × Octets)) := do
  let state ← get
  let entries := state.bindings.filterMap fun (name, held) =>
    match held.exported, held.value.text? with
    | true, some text => some (name, text)
    | _, _ => none
  match state.dialect with
  | .dash => return entries.mergeSort fun left right =>
      environmentBucket left.1 ≤ environmentBucket right.1
  | .bash => return entries.mergeSort fun left right =>
      tablePlace left.1 ≤ tablePlace right.1

/-- Characters that separate the fields of a value. -/
def separators : Sh Octets := do
  return (← value? "IFS".toList).getD " \t\n".toList

/-- The text that joins arguments. -/
def joint : Sh Octets := do
  return (← separators).take 1

end Sh

end Provision.Shell
