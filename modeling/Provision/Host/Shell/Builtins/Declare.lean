import Provision.Host.Shell.Assign
import Provision.Host.Shell.Builtins.Basic

namespace Provision.Shell.Builtin

open Programs Utilities

/-!
# Builtins that declare variables

They give variables attributes, and values along with them. Their arguments may
be assignments, whose values are no fields.
-/

/-- An argument of a builtin that declares variables. -/
inductive Declared where
  | word (text : Octets)
  | assigned (assigned : Assigned)
  deriving Repr, DecidableEq

namespace Declared

/-- The argument as a text, unless it gives an array elements. -/
def text : Declared → Octets
  | word text => text
  | assigned found => found.shown id

/-- The name of the variable, and the assignment, if there is one. -/
def parts : Declared → Octets × Option Assigned
  | assigned found => (found.name, some found)
  | word text =>
      match splitAtSign '=' text with
      | none => (text, none)
      | some (front, value) =>
          if front.getLast? == some '+' then
            (front.dropLast, some (.text front.dropLast true value))
          else
            (front, some (.text front false value))

end Declared

/-- What a builtin does with arguments that may be assignments. -/
abbrev DeclaringBuiltin := List Declared → Sh Nat

/-- The letters of the attributes of a variable, as it is declared. -/
def declaredLetters (held : Variable) : Octets :=
  let kind : Octets :=
    match held.value with
    | .list _ => ['a']
    | .table _ => ['A']
    | _ => []
  let letter (has : Bool) (c : Char) : Octets := if has then [c] else []
  let letters := kind ++ letter held.integer 'i' ++ letter held.refers 'n' ++
    letter held.readOnly 'r' ++ letter held.exported 'x' ++
    (match held.letters with
      | some .lowered => ['l']
      | some .raised => ['u']
      | some .toggled => ['c']
      | none => [])
  if letters.isEmpty then ['-'] else letters

/-- The value of a variable, as it is declared. -/
def declaredValue : Value → Octets
  | .unset => []
  | .text text => '=' :: doubleQuoted text
  | .list [] => []
  | .table [] => []
  | .list elements =>
      let shown := elements.map fun (index, text) =>
        '[' :: decimal index ++ "]=".toList ++ doubleQuoted text
      "=(".toList ++ joinedWith [' '] shown ++ [')']
  | .table elements =>
      let shown := elements.flatMap fun (key, text) =>
        '[' :: key ++ "]=".toList ++ doubleQuoted text ++ [' ']
      "=(".toList ++ shown ++ [')']

/-- The command that declares a variable as it is. -/
def declaration (name : Octets) (held : Variable) : Octets :=
  "declare -".toList ++ declaredLetters held ++ ' ' :: name ++ declaredValue held.value

/-- Show the variables that have some attribute. -/
def showVariables (command : String) (isShown : Variable → Bool) : Sh Nat := do
  let state ← get
  let entries := state.bindings.filter fun entry => isShown entry.2
  let entries := entries.mergeSort fun left right => !Octets.isBefore right.1 left.1
  let line (entry : Octets × Variable) : Octets :=
    match state.dialect with
    | .dash =>
        let value :=
          match entry.2.value with
          | .text text => '=' :: plainQuoted text
          | _ => []
        command.toList ++ ' ' :: entry.1 ++ value ++ ['\n']
    | .bash => declaration entry.1 entry.2 ++ ['\n']
  print (entries.flatMap line)

/-- Carry out an assignment for a builtin. Answers the status. -/
def assignDeclared (found : Assigned) : Sh Nat := do
  match ← Sh.catching (Sh.carryOut found) with
  | .ok () => return 0
  | .error (.discard _) => return 1
  | .error leap => Sh.jump leap

/-- Whether a variable is there and may not be changed. -/
def isReadOnly (name : Octets) : Sh Bool := do
  return (((← get).bindings.lookup name).map Variable.readOnly).getD false

/-- Options in front of arguments that may be assignments. -/
def declaredCall (known : String) (arguments : List Declared) :
    Sh (List (Char × Octets) × List Declared) := do
  let isOption (argument : Declared) : Bool :=
    match argument with
    | .word ('-' :: _ :: _) => true
    | _ => false
  let front := arguments.takeWhile isOption
  let call ← options known (front.map Declared.text)
  let count := front.length - call.operands.length
  return (call.options, arguments.drop count)

/-- Complain about a name that an assignment gives to no variable. -/
def complainDeclared (argument : Declared) (name : Octets) : Sh Nat := do
  match ← Sh.dialect with
  | .dash => complainName name
  | .bash => complainName argument.text

/-- Mark variables, and give them values. -/
def mark (command : String) (isMarked : Variable → Bool) (change : Variable → Variable)
    (unmark : Variable → Variable) : DeclaringBuiltin := fun arguments => do
  let bash ← Sh.isBash
  let (options, operands) ←
    declaredCall (if !bash then "p" else if command == "export" then "fnp" else "aAfp") arguments
  let has (letter : Char) : Bool := options.any fun option => option.1 == letter
  let shows := operands.isEmpty || (!bash && has 'p')
  if shows then
    if has 'f' then return 0 else showVariables command isMarked
  else if has 'f' then
    let mut status := 0
    for operand in operands do
      if !((← get).functions.any fun entry => entry.1 == operand.text) then
        Sh.complain (operand.text ++ ": not a function".toList)
        status := 1
    return status
  else
    let mut status := 0
    for operand in operands do
      let (name, assignment?) := operand.parts
      if !isName name then
        status := ← complainDeclared operand name
      else
        let answer ←
          match assignment? with
          | some found => assignDeclared found
          | none => pure 0
        if answer == 0 then
          let name ← Sh.target name Sh.referenceLimit
          Sh.changeVariable name (if has 'n' then unmark else change)
        else
          status := answer
    return status

/-- Let programs see variables. -/
def exports : DeclaringBuiltin :=
  mark "export" Variable.exported (fun held => { held with exported := true })
    (fun held => { held with exported := false })

/-- Let nobody change variables. -/
def protects : DeclaringBuiltin :=
  mark "readonly" Variable.readOnly (fun held => { held with readOnly := true })
    (fun held => { held with readOnly := true })

/-- Hide variables while a function runs, for the small shell. -/
def hides : DeclaringBuiltin := fun arguments => do
  if (← get).scopes.isEmpty then
    Sh.fail "not in a function".toList
  for argument in arguments do
    let (name, assignment?) := argument.parts
    if name != ['-'] then
      if !isName name then
        discard (complainName name)
      Sh.hide name
      match assignment? with
      | some found => Sh.carryOut found
      | none => pure ()
  return 0

/-- Options of builtins that declare variables. -/
def declaringOptions : Octets := "aAfFgiIlnrtuxp".toList

/-- Read the options of a declaration, which switch attributes on or off. -/
def readAttributes : List Declared → List (Bool × Char) →
    Except Octets (List (Bool × Char) × List Declared)
  | .word ['-', '-'] :: rest, found => .ok (found, rest)
  | .word (sign :: letter :: letters) :: rest, found =>
      if sign == '-' || sign == '+' then
        match (letter :: letters).find? fun letter => !declaringOptions.contains letter with
        | some unknown => .error [sign, unknown]
        | none =>
            readAttributes rest (found ++ (letter :: letters).map fun letter => (sign == '-', letter))
      else
        .ok (found, .word (sign :: letter :: letters) :: rest)
  | rest, found => .ok (found, rest)

/-- Give a variable an attribute, or take it. -/
def changeAttribute (held : Variable) (change : Bool × Char) : Variable :=
  match change with
  | (on, 'i') => { held with integer := on }
  | (on, 'x') => { held with exported := on }
  | (true, 'r') => { held with readOnly := true }
  | (on, 'l') => { held with letters := if on then some .lowered else none }
  | (on, 'u') => { held with letters := if on then some .raised else none }
  | (on, 'n') => { held with refers := on }
  | (true, 'a') =>
      match held.value with
      | .unset => { held with value := .list [] }
      | .text text => { held with value := .list [(0, text)] }
      | _ => held
  | (true, 'A') =>
      match held.value with
      | .unset => { held with value := .table [] }
      | _ => held
  | _ => held

/-- The variable that an argument declares, with its assignment; an index makes it an array. -/
def declaredParts (argument : Declared) : Octets × Bool × Option Assigned :=
  let (name, assignment?) := argument.parts
  match assignment?, splitAtSign '[' name with
  | none, some (front, _) => (front, true, none)
  | found, _ => (name, false, found)

/-- Declare a variable. -/
def declareOne (isLocal : Bool) (attributes : List (Bool × Char)) (argument : Declared) :
    Sh Nat := do
  let (name, indexed, assignment?) := declaredParts argument
  let has (letter : Char) : Bool := attributes.any fun entry => entry == (true, letter)
  if !isName name then
    complainName argument.text
  else
    let readOnly ← isReadOnly name
    let changes := isLocal || assignment?.isSome || attributes.any fun entry => entry.2 == 'i'
    if readOnly && changes then
      complaint (name ++ ": readonly variable".toList) 1
    else
      if isLocal then
        let scope := (← get).scopes.head?.getD []
        if !(scope.any fun entry => entry.1 == name) then
          Sh.hide name
          Sh.putVariable name {}
      let held := ((← get).bindings.lookup name).getD {}
      let held := if has 'n' then { held with refers := false } else held
      match held.value, has 'A' with
      | .list _, true =>
          complaint (name ++ ": cannot convert indexed to associative array".toList) 1
      | _, _ =>
          let early := attributes.filter fun entry => entry.2 != 'r' && entry.2 != 'n'
          let early := if indexed then early ++ [(true, 'a')] else early
          Sh.putVariable name (early.foldl changeAttribute held)
          let status ←
            match assignment? with
            | some found => assignDeclared found
            | none => pure 0
          let late := attributes.filter fun entry => entry.2 == 'r' || entry.2 == 'n'
          Sh.changeVariable name fun held => late.foldl changeAttribute held
          return status

/-- Show the declarations of variables by name. -/
def showDeclared (operands : List Declared) : Sh Nat := do
  let mut status := 0
  for operand in operands do
    let name := operand.text
    match (← get).bindings.lookup name with
    | some held => discard (printLine (declaration name held))
    | none =>
        Sh.complain (name ++ ": not found".toList)
        status := 1
  return status

/-- Show the names of functions, or find out whether they are there. -/
def showFunctions (operands : List Declared) (namesOnly : Bool) : Sh Nat := do
  let names := (← get).functions.map Prod.fst
  if operands.isEmpty then
    print ((Octets.sort names).flatMap fun name => "declare -f ".toList ++ name ++ ['\n'])
  else
    let mut status := 0
    for operand in operands do
      if names.contains operand.text then
        if namesOnly then
          discard (printLine operand.text)
      else
        status := 1
    return status

/-- Declare variables, for the large shell; `forFunction` tells whether they must be local. -/
def declare (forFunction : Bool) : DeclaringBuiltin := fun arguments => do
  let inFunction := !(← get).scopes.isEmpty
  match readAttributes arguments [] with
  | .error option =>
      Sh.complain (option ++ ": invalid option".toList)
      printUsage
      return 2
  | .ok (attributes, operands) =>
      let has (letter : Char) : Bool := attributes.any fun entry => entry == (true, letter)
      if forFunction && !inFunction then
        complaint "can only be used in a function".toList 1
      else if has 'f' || has 'F' then
        showFunctions operands (has 'F')
      else if operands.isEmpty then
        if forFunction then
          let scope := (← get).scopes.head?.getD []
          for name in Octets.sort (scope.map Prod.fst) do
            discard (showDeclared [.word name])
          return 0
        else
          showVariables "declare" fun held =>
            (!has 'x' || held.exported) && (!has 'r' || held.readOnly) &&
              (!has 'i' || held.integer) && (!has 'a' || (held.value matches .list _)) &&
              (!has 'A' || (held.value matches .table _))
      else if has 'p' then
        showDeclared operands
      else
        let isLocal := inFunction && (forFunction || !has 'g')
        let mut status := 0
        for operand in operands do
          let answer ← declareOne isLocal attributes operand
          if answer != 0 then
            status := answer
        return status

/-- Forget an element of an array. -/
def forgetElement (name index : Octets) : Sh Unit := do
  let target ← Sh.target name Sh.referenceLimit
  match ((← get).bindings.lookup target).map Variable.value with
  | some (.table entries) =>
      Sh.changeVariable target fun held =>
        { held with value := .table (eraseEntry index entries) }
  | some (.list elements) =>
      if index == ['@'] || index == ['*'] then
        Sh.eraseVariable target
      else
        match ← Sh.elementIndex target (← Sh.evaluate index) with
        | some number =>
            Sh.changeVariable target fun held =>
              { held with value := .list (eraseEntry number elements) }
        | none => Sh.complain ('[' :: index ++ "]: bad array subscript".toList)
  | _ => return ()

/-- Forget a variable by its name. Answers whether it was there. -/
def forgetVariable (name : Octets) : Sh Bool := do
  let target ← Sh.target name Sh.referenceLimit
  Sh.noteAssignment target
  let there := ((← get).bindings.lookup target).isSome
  let isHidden := ((← get).scopes.head?.getD []).any fun entry => entry.1 == target
  if isHidden then
    Sh.putVariable target {}
  else
    Sh.eraseVariable target
  return there

/-- Forget variables and functions. -/
def unset : Builtin := fun _ arguments => do
  let bash ← Sh.isBash
  let call ← options (if bash then "fvn" else "vf") arguments
  let mut status := 0
  for name in call.operands do
    if call.has 'f' then
      modify fun state => { state with functions := eraseEntry name state.functions }
    else
      let (front, index?) :=
        match splitAtSign '[' name with
        | some (front, index) => if bash then (front, some index.dropLast) else (name, none)
        | none => (name, none)
      if ← isReadOnly front then
        if bash then
          status := ← complaint (front ++ ": cannot unset: readonly variable".toList) 1
        else
          Sh.fail (name ++ ": is read only".toList)
      else
        match index? with
        | some index => forgetElement front index
        | none =>
            if !bash && !isName name then
              discard (complainName name)
            if call.has 'n' then
              Sh.eraseVariable name
            else
              let there ← forgetVariable name
              if bash && !there && !call.has 'v' then
                modify fun state => { state with functions := eraseEntry name state.functions }
  return status

end Provision.Shell.Builtin
