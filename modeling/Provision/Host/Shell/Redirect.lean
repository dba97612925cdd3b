import Provision.Host.Shell.Fields

namespace Provision.Shell

open Programs

/-!
# Redirections

A redirection changes which open file a descriptor stands for. Redirections are
carried out in turn, so a later one sees what an earlier one did; the first one
that is refused ends them.
-/

/-- How a word was written, as far as complaints show it. -/
def writtenWord (word : Word) : Octets :=
  word.flatMap fun
    | .plain text => text
    | .literal text => text
    | .parameter name .whole .value => '$' :: name
    | .parameter name .. => "$\x7b".toList ++ name ++ ['}']
    | _ => []

/-- The words of a refusal to open a file. -/
def refusalWords (dialect : Dialect) (creates : Bool) (reason : SystemError) : Octets :=
  match dialect, reason with
  | .dash, .notFound | .dash, .notADirectory =>
      if creates then "Directory nonexistent".toList else "No such file".toList
  | _, reason => reason.words.toList

/-- The kind of opening that a redirection asks for. -/
def RedirectionKind.opening : RedirectionKind → Opening
  | .input => .reading
  | .output | .clobber | .both => .writing
  | .append | .appendBoth => .adding
  | .update => .updating
  | .copyInput | .copyOutput | .wordInput => .reading

/-- The descriptor that a kind of redirection changes if none is named. -/
def RedirectionKind.descriptor : RedirectionKind → Nat
  | .input | .update | .copyInput | .wordInput => 0
  | _ => 1

namespace Sh

/-- Change the process of the shell. -/
def changeProcess (change : Process → Process) : Sh Unit :=
  modify fun state => { state with process := change state.process }

/-- Let a descriptor stand for an open file, or for none. -/
def setDescriptor (number : Nat) (place : Option Nat) : Sh Unit :=
  changeProcess fun process => process.setDescriptor number place

/-- The first descriptor that scripts get when they ask for a new one. -/
def firstFreeDescriptor : Nat := 10

/-- The descriptor that a redirection changes. -/
def descriptorFor (usual : Nat) : RedirectedDescriptor → Sh Nat
  | .usual => return usual
  | .number number => return number
  | .variable name => do
      let used := (← get).process.descriptors.map Prod.fst
      let free := (List.range (used.length + 1)).map fun (index : Nat) =>
        firstFreeDescriptor + index
      let number := (free.find? fun number => !used.contains number).getD firstFreeDescriptor
      assign name (decimal number)
      return number

/-- Refuse a redirection, with the words of the refusal. -/
abbrev Refusal := Except Octets Unit

/-- Open a file for a redirection. -/
def openFor (kind : RedirectionKind) (path : Octets) : Sh (Except Octets Nat) := do
  let state ← get
  let dialect := state.dialect
  let creates := kind != .input && kind != .update
  let refused (words : Octets) : Octets :=
    match dialect with
    | .dash =>
        (if kind == .input then "cannot open ".toList else "cannot create ".toList) ++
          path ++ ": ".toList ++ words
    | .bash => path ++ ": ".toList ++ words
  let protects :=
    kind == .output && state.flags.contains 'C' &&
      state.system.disk.isFile state.process.directory (pathOf path)
  if protects then
    match dialect with
    | .dash => return .error (refused "File exists".toList)
    | .bash => return .error (path ++ ": cannot overwrite existing file".toList)
  else
    match state.process.openFile state.system path kind.opening with
    | .ok (place, system) =>
        set { state with system := system }
        return .ok place
    | .error reason =>
        let creates := creates || (kind == .update && dialect == .dash)
        return .error (refused (refusalWords dialect creates reason))

/-- Give a descriptor a text to read. -/
def offerText (descriptor : Nat) (text : Octets) : Sh Unit := do
  let state ← get
  let (reading, _, system) := state.system.openPipe (Octets.toBytes text)
  set { state with system := system }
  setDescriptor descriptor (some reading)

/-- Let a descriptor stand for what another one stands for. -/
def copyDescriptor (descriptor : Nat) (source : Octets) : Sh Refusal := do
  let bash ← isBash
  let moves := bash && source.length > 1 && source.getLast? == some '-'
  let digits := if moves then source.dropLast else source
  if digits == ['-'] then
    setDescriptor descriptor none
    return .ok ()
  else
    match number? digits with
    | none =>
        if bash then
          return .error (source ++ ": ambiguous redirect".toList)
        else
          fail "Syntax error: Bad fd number".toList
    | some number =>
        if !bash && digits.length > 1 then
          fail "Syntax error: Bad fd number".toList
        else match (← get).process.descriptor? number with
        | some place =>
            setDescriptor descriptor (some place)
            if moves then
              setDescriptor number none
            return .ok ()
        | none => return .error (digits ++ ": Bad file descriptor".toList)

/-- The text that the target of a redirection names. -/
def targetText (substitution : Substitution) (kind : RedirectionKind) (word : Word) :
    Sh (Except Octets Octets) := do
  if (← isBash) && kind != .wordInput then
    match ← wordFields substitution word with
    | [text] => return .ok text
    | _ => return .error (writtenWord word ++ ": ambiguous redirect".toList)
  else
    return .ok (← wordText substitution word)

/-- Carry out a redirection. -/
def redirect (substitution : Substitution) : Redirection → Sh Refusal
  | .text descriptor number => do
      let word := ((← get).texts.lookup number).getD []
      let text := Piece.text (← pieces substitution word)
      offerText (← descriptorFor 0 descriptor) text
      return .ok ()
  | .file descriptor kind target => do
      let number ← descriptorFor kind.descriptor descriptor
      match ← targetText substitution kind target with
      | .error refusal => return .error refusal
      | .ok text =>
          match kind with
          | .wordInput =>
              offerText number (text ++ ['\n'])
              return .ok ()
          | .copyInput | .copyOutput => copyDescriptor number text
          | kind =>
              match ← openFor kind text with
              | .error refusal => return .error refusal
              | .ok place =>
                  setDescriptor number (some place)
                  if kind == .both || kind == .appendBoth then
                    setDescriptor 2 (some place)
                  return .ok ()

/-- The status of a refused redirection. -/
def refusedStatus : Dialect → Nat
  | .dash => 2
  | .bash => 1

/-- Carry out redirections. Answers whether all were carried out. -/
def redirectAll (substitution : Substitution) : List Redirection → Sh Bool
  | [] => return true
  | redirection :: rest => do
      match ← redirect substitution redirection with
      | .ok () => redirectAll substitution rest
      | .error refusal =>
          complain refusal
          setStatus (refusedStatus (← dialect))
          return false

/-- Run a step with redirections, which are taken back afterwards. -/
def redirected (substitution : Substitution) (redirections : List Redirection)
    (step : Sh Unit) : Sh Unit := do
  let before := (← get).process.descriptors
  let restore : Sh Unit := changeProcess fun process => { process with descriptors := before }
  ensuring (do if ← redirectAll substitution redirections then step) restore

end Sh

end Provision.Shell
