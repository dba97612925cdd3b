import Provision.Host.Shell.Builtins.Basic
import Provision.Host.Shell.Options

namespace Provision.Shell.Builtin

open Programs Utilities

/-!
# Builtins that switch options

One of them also sets the arguments of the script; another one reads options
out of the arguments.
-/

/-- Switch options by letters; an option that takes a name takes it from the arguments. -/
def switchLetters (on : Bool) : Octets → List Octets → Sh (List Octets)
  | [], rest => return rest
  | 'o' :: letters, rest => do
      match rest with
      | [] =>
          let situation := (← get).toSituation
          discard (print (← Sh.optionList (!on) (isOptionSet situation)))
          switchLetters on letters []
      | name :: rest =>
          unless ← Sh.setNamedOption name on do
            match ← Sh.dialect with
            | .dash => Sh.fail ("Illegal option -o ".toList ++ name)
            | .bash =>
                Sh.complain (name ++ ": invalid option name".toList)
                Sh.jump (.error 2)
          switchLetters on letters rest
  | letter :: letters, rest => do
      let dialect ← Sh.dialect
      if Sh.isFlag dialect letter then
        Sh.setFlag letter on
        switchLetters on letters rest
      else
        match dialect with
        | .dash => Sh.fail ("Illegal option -".toList ++ [letter])
        | .bash =>
            let sign := if on then '-' else '+'
            Sh.complain (sign :: letter :: ": invalid option".toList)
            printUsage
            Sh.jump (.error 2)

/-- Switch the options in front of arguments. Answers the arguments, if they are to be set. -/
def switchOptions : (fuel : Nat) → List Octets → Sh (Option (List Octets))
  | 0, _ => return none
  | fuel + 1, words => do
      match words with
      | [] => return none
      | ['-'] :: rest =>
          Sh.setFlag 'x' false
          Sh.setFlag 'v' false
          return if rest.isEmpty then none else some rest
      | ['-', '-'] :: rest => return some rest
      | ['+'] :: rest =>
          if ← Sh.isBash then
            return some rest
          else
            switchOptions fuel rest
      | ('-' :: letters) :: rest => switchOptions fuel (← switchLetters true letters rest)
      | ('+' :: letters) :: rest => switchOptions fuel (← switchLetters false letters rest)
      | words => return some words

/-- Whether letters of options are all known to the large shell. -/
def areFlags (letters : Octets) : Bool :=
  letters.all fun letter => letter == 'o' || Sh.isFlag .bash letter

/-- The options in front of arguments that the large shell does not know. -/
def unknownOption? : List Octets → Option Octets
  | [] => none
  | word :: rest =>
      match word with
      | '-' :: letter :: letters =>
          if letter == '-' && letters.isEmpty then none
          else if areFlags (letter :: letters) then unknownOption? rest
          else ((letter :: letters).find? fun letter => !areFlags [letter]).map fun c => ['-', c]
      | '+' :: letter :: letters =>
          if areFlags (letter :: letters) then unknownOption? rest
          else ((letter :: letters).find? fun letter => !areFlags [letter]).map fun c => ['+', c]
      | _ => none

/-- The lines that show all variables. -/
def shownVariables : Sh Octets := do
  let state ← get
  let entries := state.bindings.mergeSort fun left right => !Octets.isBefore right.1 left.1
  let lines := entries.filterMap fun (name, held) =>
    match held.value, state.dialect with
    | .unset, _ => none
    | .text text, .dash => some (name ++ '=' :: plainQuoted text ++ ['\n'])
    | .text text, .bash => some (name ++ '=' :: shownValue text ++ ['\n'])
    | .list elements, _ =>
        let shown := elements.map fun (index, text) =>
          '[' :: decimal index ++ "]=".toList ++ doubleQuoted text
        some (name ++ "=(".toList ++ joinedWith [' '] shown ++ ")\n".toList)
    | .table elements, _ =>
        let shown := elements.flatMap fun (key, text) =>
          '[' :: key ++ "]=".toList ++ doubleQuoted text ++ [' ']
        some (name ++ "=(".toList ++ shown ++ ")\n".toList)
  return lines.flatten

/-- Switch options and set the arguments of the script, or show all variables. -/
def configure : Builtin := fun _ arguments => do
  if arguments.isEmpty then
    print (← shownVariables)
  else
    match ← Sh.dialect, unknownOption? arguments with
    | .bash, some option =>
        Sh.complain (option ++ ": invalid option".toList)
        printUsage
        Sh.jump (.error 2)
    | _, _ =>
        match ← switchOptions (arguments.length + 1) arguments with
        | some arguments => modify fun state => { state with arguments := arguments }
        | none => pure ()
        return 0

/-- Switch features, or show them. -/
def shopt : Builtin := fun _ arguments => do
  let call ← options "pqsuo" arguments
  let state ← get
  let known := if call.has 'o' then (optionNames .bash).map Prod.fst else featureNames
  let isOn (name : String) : Bool :=
    (optionNames .bash).any (fun option =>
      call.has 'o' && option.1 == name && isOptionSet state.toSituation option) ||
        (!call.has 'o' && state.features.contains name)
  let line (name : String) : Octets :=
    if call.has 'p' then
      (if isOn name then "shopt -s " else "shopt -u ").toList ++ name.toList ++ ['\n']
    else
      padName 15 name ++ '\t' :: (if isOn name then "on\n" else "off\n").toList
  let switches := call.has 's' || call.has 'u'
  if call.operands.isEmpty then
    let shown := known.filter fun name => !switches || isOn name == call.has 's'
    if call.has 'q' then return 0 else print (shown.flatMap line)
  else
    let mut status := 0
    for name in call.operands do
      match known.find? fun feature => feature.toList == name with
      | none =>
          status := 1
          Sh.complain (name ++ ": invalid shell option name".toList)
      | some feature =>
          if switches then
            if call.has 'o' then
              discard (Sh.setNamedOption name (call.has 's'))
            else
              Sh.setFeature feature (call.has 's')
          else
            unless call.has 'q' do
              discard (print (line feature))
            if !isOn feature then
              status := 1
    return status

/-- Set the variable that tells where the next option is looked for. -/
def setOptionPlace (index offset : Nat) : Sh Unit := do
  Sh.assignSetting "OPTIND" (decimal index)
  modify fun state => { state with optionOffset := offset }

/-- The place where the next option is looked for. -/
def optionIndex : Sh Nat := do
  return max 1 (((← Sh.setting? "OPTIND").bind count?).getD 1)

/-- Whether an option is known, and whether it takes a value. -/
def optionArity? (known : Octets) (letter : Char) : Option Bool :=
  if letter == ':' then
    none
  else
    match known.dropWhile (· != letter) with
    | _ :: ':' :: _ => some true
    | _ :: _ => some false
    | [] => none

/-- Forget the value of an option. -/
def forgetOptionValue : Sh Unit :=
  Sh.eraseVariable "OPTARG".toList

/-- Report an option that is wrong, to the user or to the script. -/
def reportOption (silent : Bool) (letter sign : Char) (complaint : Octets) : Sh Char := do
  if silent then
    Sh.assignSetting "OPTARG" [letter]
    return sign
  else
    printError complaint
    forgetOptionValue
    return '?'

/-- What is found at the place of the next option. -/
inductive NextOption where
  | ended (index : Nat)
  /-- A letter, what follows it in its argument, and the number of that argument. -/
  | letter (letter : Char) (rest : Octets) (index : Nat)

/-- Look for the next option in arguments. -/
def nextOption (arguments : List Octets) (index offset : Nat) : NextOption :=
  let current := (arguments[index - 1]?).getD []
  match if offset == 0 then [] else current.drop offset with
  | letter :: rest => .letter letter rest index
  | [] =>
      let index := if offset == 0 then index else index + 1
      match arguments[index - 1]? with
      | some ['-', '-'] => .ended (index + 1)
      | some ('-' :: letter :: rest) => .letter letter rest index
      | _ => .ended index

/-- Read the next option of the script. -/
def getopts : Builtin := fun _ arguments => do
  let state ← get
  let bash := state.dialect == .bash
  match arguments with
  | known :: name :: given =>
      let words := if given.isEmpty then state.arguments else given
      let index ← optionIndex
      let index := if index ≤ words.length + 1 then index else 1
      let silent := known.head? == some ':'
      let known := if silent then known.drop 1 else known
      -- The small shell counts an argument as soon as its first letter is read.
      let current := if bash || state.optionOffset == 0 then index else index - 1
      let put (sign : Char) (index offset : Nat) : Sh Nat := do
        setOptionPlace index offset
        Sh.assign name [sign]
        return 0
      match nextOption words current state.optionOffset with
      | .ended index =>
          if bash then
            forgetOptionValue
          discard (put '?' index 0)
          return 1
      | .letter letter rest index =>
          let offset := ((words[index - 1]?).getD []).length - rest.length
          let behind := if rest.isEmpty then index + 1 else index
          let shown := if bash then behind else index + 1
          let offset := if bash && rest.isEmpty then 0 else offset
          let start := state.name ++ ": ".toList
          match optionArity? known letter with
          | none =>
              let complaint :=
                if bash then start ++ "illegal option -- ".toList ++ [letter, '\n']
                else "Illegal option -".toList ++ [letter, '\n']
              put (← reportOption silent letter '?' complaint) shown offset
          | some false =>
              if bash then
                forgetOptionValue
              else
                Sh.assignSetting "OPTARG" []
              put letter shown offset
          | some true =>
              if !rest.isEmpty then
                Sh.assignSetting "OPTARG" rest
                put letter (index + 1) 0
              else
                match words[index]? with
                | some value =>
                    Sh.assignSetting "OPTARG" value
                    put letter (index + 2) 0
                | none =>
                    let complaint :=
                      if bash then
                        start ++ "option requires an argument -- ".toList ++ [letter, '\n']
                      else
                        "No arg for -".toList ++ letter :: " option\n".toList
                    put (← reportOption silent letter ':' complaint) (index + 1) 0
  | _ =>
      if bash then
        printError "getopts: usage: getopts optstring name [arg ...]\n".toList
        return 2
      else
        Sh.fail "Usage: getopts optstring var [arg]".toList

end Provision.Shell.Builtin
