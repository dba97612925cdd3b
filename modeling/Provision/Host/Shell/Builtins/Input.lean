import Provision.Host.Shell.Assign
import Provision.Host.Shell.Builtins.Basic

namespace Provision.Shell.Builtin

open Programs Utilities

/-!
# Builtins that read input

A line is read and cut into fields, one for each variable; the last variable
gets what is left. Nothing behind the line is taken from the input.
-/

/-- A character that was read, and whether a backslash protects it. -/
structure ReadChar where
  char : Char
  escaped : Bool := false
  deriving Repr, DecidableEq

/-- How input is read. -/
structure ReadStyle where
  /-- Whether a backslash is a character like any other. -/
  raw : Bool := false
  delimiter : Char := '\n'
  /-- How many characters are read at most. -/
  limit : Option Nat := none
  deriving Repr, DecidableEq

/-- What was read of an input. -/
structure ReadLine where
  chars : List ReadChar := []
  /-- How many characters of the input were taken. -/
  taken : Nat := 0
  /-- Whether the delimiter or the limit was reached. -/
  complete : Bool := false
  deriving Repr, DecidableEq

/-- Read a line from input; `line` is what was read already, the latest character first. -/
def readLine (style : ReadStyle) : Octets → ReadLine → ReadLine
  | [], line => { line with chars := line.chars.reverse }
  | c :: rest, line =>
      let line := { line with taken := line.taken + 1 }
      if c == style.delimiter then
        { line with chars := line.chars.reverse, complete := true }
      else if c == '\\' && !style.raw then
        match rest with
        | [] => { line with chars := line.chars.reverse }
        | '\n' :: rest => readLine style rest { line with taken := line.taken + 1 }
        | d :: rest =>
            let line := { line with
              taken := line.taken + 1
              chars := ⟨d, true⟩ :: line.chars }
            if style.limit == some line.chars.length then
              { line with chars := line.chars.reverse, complete := true }
            else
              readLine style rest line
      else if c == '\x00' then
        readLine style rest line
      else
        let line := { line with chars := ⟨c, false⟩ :: line.chars }
        if style.limit == some line.chars.length then
          { line with chars := line.chars.reverse, complete := true }
        else
          readLine style rest line

/-- Characters that separate fields, told apart. -/
structure FieldSigns where
  all : Octets
  deriving Repr, DecidableEq

namespace FieldSigns

/-- Whether a character separates fields. -/
def separates (signs : FieldSigns) (found : ReadChar) : Bool :=
  !found.escaped && signs.all.contains found.char

/-- Whether a character separates fields and does not count where there are several. -/
def isBlank (signs : FieldSigns) (found : ReadChar) : Bool :=
  signs.separates found && (found.char == ' ' || found.char == '\t' || found.char == '\n')

/-- Cut off the first field and what separates it from the rest. -/
def cut (signs : FieldSigns) (chars : List ReadChar) : List ReadChar × List ReadChar :=
  let field := chars.takeWhile fun c => !signs.separates c
  let behind := (chars.drop field.length).dropWhile signs.isBlank
  match behind with
  | c :: rest =>
      if signs.separates c then (field, rest.dropWhile signs.isBlank) else (field, behind)
  | [] => (field, [])

/-- The last field: all that is left, without what ends a single field. -/
def last (signs : FieldSigns) (chars : List ReadChar) : List ReadChar :=
  let (field, rest) := signs.cut chars
  if rest.isEmpty then field else (chars.reverse.dropWhile signs.isBlank).reverse

/-- Cut characters into as many fields as there are names; the last one gets the rest. -/
def fields (signs : FieldSigns) : (count : Nat) → List ReadChar → List (List ReadChar)
  | 0, _ => []
  | 1, chars => [signs.last chars]
  | count + 2, chars =>
      let (field, rest) := signs.cut chars
      field :: fields signs (count + 1) rest

/-- Cut characters into fields, as many as there are. -/
def allFields (signs : FieldSigns) : (fuel : Nat) → List ReadChar → List (List ReadChar)
  | 0, _ => []
  | _ + 1, [] => []
  | fuel + 1, chars =>
      let (field, rest) := signs.cut chars
      field :: allFields signs fuel rest

end FieldSigns

/-- Take characters from a descriptor, as many as a look at them tells. -/
def takeInput (descriptor : Nat) (count : Octets → Nat) : Sh (Except SystemError Octets) := do
  let state ← get
  match state.process.descriptor? descriptor with
  | none => return .error .badDescriptor
  | some place =>
      match state.system.endless? place, state.system.ahead place with
      | some _, _ => return .ok []
      | none, .error reason => return .error reason
      | none, .ok bytes =>
          let text := Octets.ofBytes bytes
          set { state with system := state.system.consume place (count text) }
          return .ok text

/-- The text of characters. -/
def readText (chars : List ReadChar) : Octets :=
  chars.map ReadChar.char

/-- Give variables what was read. -/
def assignRead (names : List Octets) (fields : List (List ReadChar)) : Sh Unit := do
  let padded := fields ++ List.replicate (names.length - fields.length) []
  for (name, field) in names.zip padded do
    if !isName name then
      discard (complainName name)
      Sh.jump (.discard 1)
    Sh.assign name (readText field)

/-- The number of a descriptor that an option names. -/
def descriptorOption (call : Call) : Nat :=
  ((call.value? 'u').bind count?).getD 0

/-- Read a line into variables. -/
def read : Builtin := fun _ arguments => do
  let bash ← Sh.isBash
  let call ← options (if bash then "ersa:d:i:n:N:p:t:u:" else "p:r") arguments
  let names := call.operands
  if !bash && names.isEmpty then
    Sh.fail "arg count".toList
  else if bash && (names.head?.any fun name => !isName (name.takeWhile (· != '['))) then
    complainName (names.head?.getD [])
  else
    let exact := call.value? 'N'
    let limit := ((call.value? 'n').or exact).bind count?
    let style : ReadStyle := {
      raw := call.has 'r'
      delimiter :=
        match call.value? 'd' with
        | some (c :: _) => c
        | some [] => '\x00'
        | none => '\n'
      limit := limit }
    let descriptor := descriptorOption call
    let look (text : Octets) : ReadLine :=
      if limit == some 0 then { complete := true } else readLine style text {}
    match ← takeInput descriptor fun text => (look text).taken with
    | .error reason =>
        if bash then
          complaint ("read error: ".toList ++ decimal descriptor ++
            ": ".toList ++ reason.words.toList) 1
        else
          return 1
    | .ok text =>
        let line := look text
        let signs : FieldSigns := ⟨← Sh.separators⟩
        let chars := line.chars
        let trimmed := chars.dropWhile signs.isBlank
        match call.value? 'a' with
        | some name =>
            let fields := signs.allFields (chars.length + 1) trimmed
            let entries := fields.map fun field => ((none : Option Octets), false, readText field)
            Sh.carryOut (.elements name false entries)
        | none =>
            if names.isEmpty then
              Sh.assignSetting "REPLY" (readText chars)
            else if exact.isSome then
              assignRead names [chars]
            else
              assignRead names (signs.fields names.length trimmed)
        return if line.complete then 0 else 1

/-- Lines of a text, each with the delimiter that ends it. -/
def delimitedLines (delimiter : Char) : (fuel : Nat) → Octets → List Octets
  | 0, _ => []
  | _ + 1, [] => []
  | fuel + 1, text =>
      let line := text.takeWhile (· != delimiter)
      text.take (line.length + 1) :: delimitedLines delimiter fuel (text.drop (line.length + 1))

/-- Read lines into an array. -/
def mapfile : Builtin := fun _ arguments => do
  let call ← options "d:n:O:s:tu:C:c:" arguments
  let name := call.operands.head?.getD "MAPFILE".toList
  let number (letter : Char) : Nat := ((call.value? letter).bind count?).getD 0
  let delimiter := ((call.value? 'd').map fun text => text.head?.getD '\x00').getD '\n'
  let lines (text : Octets) : List Octets := delimitedLines delimiter (text.length + 1) text
  let wanted (text : Octets) : List Octets :=
    let lines := lines text
    if number 'n' == 0 then lines else lines.take (number 's' + number 'n')
  match ← takeInput (descriptorOption call) fun text => (wanted text).flatten.length with
  | .error reason => complaint ("read error: 0: " ++ reason.words).toList 1
  | .ok text =>
      let found := (wanted text).drop (number 's')
      let cut (line : Octets) : Octets :=
        if call.has 't' && line.getLast? == some delimiter then line.dropLast else line
      let start := number 'O'
      let entries := found.map fun line => ((none : Option Octets), false, cut line)
      if !(call.has 'O') then
        Sh.carryOut (.elements name false [])
      Sh.putElements name start entries
      return 0

end Provision.Shell.Builtin
