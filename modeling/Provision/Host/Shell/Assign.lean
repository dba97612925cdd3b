import Provision.Host.Shell.Fields

namespace Provision.Shell

/-!
# Assignments

An assignment gives a variable a text, or an array its elements. Its value is
expanded first; then the variable is changed in the way its attributes ask.
-/

/-- An assignment whose value is expanded. -/
inductive Assigned where
  | text (name : Octets) (adds : Bool) (value : Octets)
  | element (name index : Octets) (adds : Bool) (value : Octets)
  | elements (name : Octets) (adds : Bool) (entries : List (Option Octets × Bool × Octets))
  deriving Repr, DecidableEq

namespace Assigned

/-- The name of the variable. -/
def name : Assigned → Octets
  | text name .. | element name .. | elements name .. => name

/-- Put an entry into a table. -/
def putEntry (key value : Octets) : List (Octets × Octets) → List (Octets × Octets)
  | [] => [(key, value)]
  | (other, old) :: rest =>
      if other == key then (key, value) :: rest
      else if tablePlace other < tablePlace key then (other, old) :: putEntry key value rest
      else if rest.any fun entry => entry.1 == key then (other, old) :: putEntry key value rest
      else (key, value) :: (other, old) :: rest

/-- How an assignment is shown when commands are traced. -/
def shown (quote : Octets → Octets) : Assigned → Octets
  | text name adds value =>
      name ++ (if adds then "+=".toList else ['=']) ++ quote value
  | element name index adds value =>
      name ++ '[' :: index ++ (if adds then "]+=".toList else "]=".toList) ++ quote value
  | elements name adds entries =>
      let entry (found : Option Octets × Bool × Octets) : Octets :=
        match found with
        | (some index, adds, value) =>
            '[' :: index ++ (if adds then "]+=".toList else "]=".toList) ++ quote value
        | (none, _, value) => quote value
      let sign := if adds then "+=(".toList else "=(".toList
      name ++ sign ++ joinedWith [' '] (entries.map entry) ++ [')']

end Assigned

namespace Sh

/-- Expand the value of an assignment. -/
def prepare (substitution : Substitution) : Assignment → Sh Assigned
  | .mk name none adds [.elements elements] => do
      let entries ← elements.mapM fun (index, adds, word) => do
        match index with
        | some index =>
            let index ← quotedText substitution index
            let value ← valueText substitution word
            return [(some index, adds, value)]
        | none => do
            let fields ← wordFields substitution word
            return fields.map fun field => (none, false, field)
      return .elements name adds entries.flatten
  | .mk name (some index) adds value => do
      let index ← quotedText substitution index
      return .element name index adds (← valueText substitution value)
  | .mk name none adds value => do
      return .text name adds (← valueText substitution value)

/-- The value that a text becomes in a variable, behind what it may hold already. -/
def attributed (held : Variable) (before : Option Octets) (text : Octets) : Sh Octets := do
  if held.integer then
    let number ← evaluate text
    let start ←
      match before with
      | some before => evaluate before
      | none => pure 0
    return decimal (start + number)
  else
    let whole := before.getD [] ++ text
    match held.letters with
    | some change => return whole.map change.apply
    | none => return whole

/-- Give an element of an array a text, by its key or by its number. -/
def putElement (name index : Octets) (adds : Bool) (text : Octets) : Sh Unit := do
  let name ← target name referenceLimit
  let held := ((← get).bindings.lookup name).getD {}
  match held.value with
  | .table entries =>
      let before := if adds then some ((entries.lookup index).getD []) else none
      let text ← attributed held before text
      refuseReadOnly name
      changeVariable name fun held =>
        { held with value := .table (Assigned.putEntry index text entries) }
  | value =>
      match ← elementIndex name (← evaluate index) with
      | none => fail (name ++ '[' :: index ++ "]: bad array subscript".toList)
      | some number =>
          let before := if adds then some ((value.numbered.lookup number).getD []) else none
          let text ← attributed held before text
          assignElement name number text

/-- Give an array elements, each behind the one before it unless it tells its own place. -/
def putElements (name : Octets) :
    (next : Nat) → List (Option Octets × Bool × Octets) → Sh Unit
  | _, [] => return ()
  | next, (none, _, text) :: rest => do
      putElement name (decimal next) false text
      putElements name (next + 1) rest
  | next, (some index, adds, text) :: rest => do
      putElement name index adds text
      if ← isTable name then
        putElements name next rest
      else
        let number ← evaluate index
        putElements name (((← elementIndex name number).getD next) + 1) rest

/-- Carry out an assignment. -/
def carryOut : Assigned → Sh Unit
  | .text name adds value => do
      let name ← target name referenceLimit
      let held := ((← get).bindings.lookup name).getD {}
      if held.integer || adds then
        let before := if adds then held.value.text? else none
        let text ← attributed { held with letters := none } before value
        assign name text
      else
        assign name value
  | .element name index adds value => putElement name index adds value
  | .elements name adds entries => do
      let name ← target name referenceLimit
      refuseReadOnly name
      let held := ((← get).bindings.lookup name).getD {}
      let start : Value :=
        match adds, held.value with
        | true, value@(.list _) | true, value@(.table _) => value
        | true, value => .list value.numbered
        | false, .table _ => .table []
        | false, _ => .list []
      putVariable name { held with value := start }
      let next := (start.numbered.getLast?.map fun entry => entry.1 + 1).getD 0
      putElements name next entries

end Sh

end Provision.Shell
