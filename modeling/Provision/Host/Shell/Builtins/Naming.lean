import Provision.Host.Shell.Builtins.Basic

namespace Provision.Shell.Builtin

open Programs Utilities

/-!
# Builtins about names

They tell what a name calls, and give names to texts that replace them.
-/

/-- Show the text that a name stands for. -/
def shownAlias (name text : Octets) : Sh Octets := do
  match ← Sh.dialect with
  | .dash => return name ++ '=' :: plainQuoted text
  | .bash => return "alias ".toList ++ name ++ '=' :: shellQuoted text

/-- Give names to texts, or show them. -/
def nameTexts : Builtin := fun _ arguments => do
  let arguments := arguments.filter (· != "-p".toList)
  if arguments.isEmpty then
    let aliases := (← get).aliases
    let names := Octets.sort (aliases.map Prod.fst)
    for name in names do
      discard (printLine (← shownAlias name ((aliases.lookup name).getD [])))
    return 0
  else
    let mut status := 0
    for argument in arguments do
      match splitAtSign '=' argument with
      | some (name, text) =>
          modify fun state => { state with aliases := setEntry name text state.aliases }
      | none =>
          match (← get).aliases.lookup argument with
          | some text => discard (printLine (← shownAlias argument text))
          | none =>
              status := 1
              match ← Sh.dialect with
              | .dash => printError ("alias: ".toList ++ argument ++ " not found\n".toList)
              | .bash => Sh.complain (argument ++ ": not found".toList)
    return status

/-- Forget names for texts. -/
def unalias : Builtin := fun _ arguments => do
  let call ← options "a" arguments
  if call.has 'a' then
    modify fun state => { state with aliases := [] }
    return 0
  else if call.operands.isEmpty && (← Sh.isBash) then
    printUsage
    return 2
  else
    let mut status := 0
    for name in call.operands do
      if (← get).aliases.any fun entry => entry.1 == name then
        modify fun state => { state with aliases := eraseEntry name state.aliases }
      else
        status := 1
        match ← Sh.dialect with
        | .dash => printError ("unalias: ".toList ++ name ++ " not found\n".toList)
        | .bash => Sh.complain (name ++ ": not found".toList)
    return status

/-- What a name calls. -/
inductive Called where
  | keyword
  | shorthand (text : Octets)
  | function
  | builtin (special : Bool)
  | program (path : Octets) (known : Bool)
  | nothing

/-- Find out what a name calls; `isBuiltin` tells whether it is one and special. -/
def called (isBuiltin : Octets → Option Bool) (name : Octets) : Sh Called := do
  let state ← get
  if (keywords state.dialect).any (fun keyword => keyword.toList == name) then
    return .keyword
  else
    let usesAliases := state.dialect == .dash || state.features.contains "expand_aliases"
    match if usesAliases then state.aliases.lookup name else none with
    | some text => return .shorthand text
    | none =>
        if state.functions.any fun entry => entry.1 == name then
          return .function
        else
          match isBuiltin name with
          | some special => return .builtin special
          | none =>
              let here := state.process.directory
              if isPathName name && state.dialect == .dash then
                let there := (state.system.disk.locate .followed here (pathOf name)).toOption
                let exists_ := there.any fun location => (state.system.disk.node? location).isSome
                return if exists_ then .program name false else .nothing
              else
                match ← Sh.programPath? name with
                | some path =>
                    if state.dialect == .dash then
                      Sh.remember name path 0
                    return .program path (state.known.lookup name).isSome
                | none => return .nothing

/-- Tell briefly what a name calls. -/
def tellBriefly (name : Octets) (found : Called) : Sh Nat := do
  match found with
  | .shorthand text =>
      match ← Sh.dialect with
      | .dash => printLine ("alias ".toList ++ name ++ '=' :: plainQuoted text)
      | .bash => printLine ("alias ".toList ++ name ++ '=' :: shellQuoted text)
  | .program path _ => printLine path
  | .nothing => return if ← Sh.isBash then 1 else 127
  | _ => printLine name

/-- Tell in words what a name calls. -/
def tell (name : Octets) (found : Called) : Sh Nat := do
  let bash ← Sh.isBash
  let say (words : String) : Sh Nat := printLine (name ++ words.toList)
  match found with
  | .keyword => say " is a shell keyword"
  | .shorthand text =>
      if bash then
        printLine (name ++ " is aliased to \x60".toList ++ text ++ ['\''])
      else
        printLine (name ++ " is an alias for ".toList ++ text)
  | .function => say (if bash then " is a function" else " is a shell function")
  | .builtin special =>
      say (if special && !bash then " is a special shell builtin" else " is a shell builtin")
  | .program path known =>
      if known then
        if bash then
          printLine (name ++ " is hashed (".toList ++ path ++ [')'])
        else
          printLine (name ++ " is a tracked alias for ".toList ++ path)
      else
        printLine (name ++ " is ".toList ++ path)
  | .nothing =>
      if bash then
        complaint (name ++ ": not found".toList) 1
      else
        discard (printLine (name ++ ": not found".toList))
        return 127

/-- The kind of what a name calls, in one word. -/
def kindWord : Called → Option String
  | .keyword => some "keyword"
  | .shorthand _ => some "alias"
  | .function => some "function"
  | .builtin _ => some "builtin"
  | .program .. => some "file"
  | .nothing => none

/-- Tell what names call. -/
def type (isBuiltin : Octets → Option Bool) : Builtin := fun _ arguments => do
  let call ← if ← Sh.isBash then options "afptP" arguments else pure ⟨[], arguments⟩
  let mut status := 0
  for name in call.operands do
    let found ← called isBuiltin name
    let answer ←
      if call.has 't' then
        match kindWord found with
        | some word => printLine word.toList
        | none => pure 1
      else if call.has 'p' || call.has 'P' then
        match found with
        | .program path _ => printLine path
        | .nothing => pure 1
        | _ => pure 0
      else
        tell name found
    if answer != 0 then
      status := answer
  return status

/-- Tell what a name calls, as the options of a command ask. -/
def tellCommand (isBuiltin : Octets → Option Bool) (briefly : Bool) (names : List Octets) :
    Sh Nat := do
  let names := if ← Sh.isBash then names else names.take 1
  let mut status := 0
  for name in names do
    let found ← called isBuiltin name
    let answer ← if briefly then tellBriefly name found else tell name found
    if answer != 0 then
      status := answer
  return status

/-- Show the programs that were found already. -/
def showKnown : Sh Nat := do
  let state ← get
  let place (entry : Octets × Remembered) : Nat := programPlace state.dialect entry.1
  let entries :=
    match state.dialect with
    | .dash => state.known
    | .bash => state.known.reverse
  let entries := entries.mergeSort fun left right => place left ≤ place right
  match state.dialect with
  | .dash =>
      for entry in entries do
        discard (printLine entry.2.path)
      return 0
  | .bash =>
      if entries.isEmpty then
        printLine "hash: hash table empty".toList
      else
        discard (printLine "hits\tcommand".toList)
        for entry in entries do
          let uses := decimal entry.2.uses
          let blanks := List.replicate (4 - uses.length) ' '
          discard (printLine (blanks ++ uses ++ '\t' :: entry.2.path))
        return 0

/-- Look for programs, or forget where they are. -/
def hash : Builtin := fun _ arguments => do
  let call ← options "rvlp:dt" arguments
  if call.has 'r' then
    modify fun state => { state with known := [] }
    return 0
  else if call.operands.isEmpty then
    showKnown
  else
    let mut status := 0
    for name in call.operands do
      modify fun state => { state with known := eraseEntry name state.known }
      match ← Sh.programPath? name with
      | some path => Sh.remember name path 0
      | none =>
          status := 1
          Sh.complain (name ++ ": not found".toList)
    return status

end Provision.Shell.Builtin
