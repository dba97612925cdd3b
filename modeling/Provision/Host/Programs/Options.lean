import Provision.Host.Programs.Act

namespace Provision.Programs

/-!
# Options of utilities

Options start with a dash; several letters may stand behind one dash. Long
options start with two dashes and may be cut short. Two dashes alone end the
options.
-/

/-- Whether an option takes a value. -/
inductive Arity where
  | alone
  | withValue
  /-- The value stands right behind the option, or there is none. -/
  | maybeValue
  deriving Repr, DecidableEq

/-- An option that a utility knows, by its letter, its long name, or both. -/
structure Switch where
  letter : Option Char := none
  name : String := ""
  arity : Arity := .alone
  deriving Repr, DecidableEq

namespace Switch

/-- The option that a letter calls. -/
def short (letter : Char) (name : String) (arity : Arity) : Switch where
  letter := some letter
  name := name
  arity := arity

/-- The option that only a long name calls. -/
def long (name : String) (arity : Arity) : Switch where
  name := name
  arity := arity

/-- How a utility tells an option: by its letter, or else by its name. -/
def key (switch : Switch) : String :=
  match switch.letter with
  | some letter => String.singleton letter
  | none => switch.name

end Switch

/-- Options without values, by their letters. -/
def plainSwitches (letters : String) : List Switch :=
  letters.toList.map fun letter => .short letter "" .alone

/-- An option that was given. -/
structure GivenOption where
  key : String
  value : Option Octets := none
  deriving Repr, DecidableEq

/-- What a utility was called with. -/
structure Arguments where
  options : List GivenOption := []
  operands : List Octets := []
  deriving Repr, DecidableEq

namespace Arguments

/-- Whether an option was given. -/
def has (arguments : Arguments) (key : String) : Bool :=
  arguments.options.any fun option => option.key == key

/-- The value that was given to an option last. -/
def value? (arguments : Arguments) (key : String) : Option Octets :=
  (arguments.options.reverse.find? fun option => option.key == key).bind GivenOption.value

/-- All values that were given to an option. -/
def values (arguments : Arguments) (key : String) : List Octets :=
  arguments.options.filterMap fun option => if option.key == key then option.value else none

/-- The one of some options that was given last. -/
def last? (arguments : Arguments) (keys : List String) : Option String :=
  (arguments.options.reverse.find? fun option => keys.contains option.key).map GivenOption.key

/-- Add an option behind the others. -/
def add (arguments : Arguments) (option : GivenOption) : Arguments :=
  { arguments with options := arguments.options ++ [option] }

end Arguments

/-- Text between single quotes. -/
def quoted (text : Octets) : Octets :=
  '\'' :: text ++ ['\'']

/-- Read letters behind one dash. Answers the arguments that are left. -/
def readLetters (switches : List Switch) :
    Octets → List Octets → Arguments → Except Octets (Arguments × List Octets)
  | [], rest, found => .ok (found, rest)
  | letter :: letters, rest, found =>
      match switches.find? fun switch => switch.letter == some letter with
      | none => .error ("invalid option -- ".toList ++ quoted [letter])
      | some switch =>
          match switch.arity with
          | .alone => readLetters switches letters rest (found.add { key := switch.key })
          | .maybeValue =>
              let value := if letters.isEmpty then none else some letters
              .ok (found.add { key := switch.key, value := value }, rest)
          | .withValue =>
              if !letters.isEmpty then
                .ok (found.add { key := switch.key, value := some letters }, rest)
              else
                match rest with
                | value :: rest =>
                    .ok (found.add { key := switch.key, value := some value }, rest)
                | [] => .error ("option requires an argument -- ".toList ++ quoted [letter])

/-- The options that a long name, perhaps cut short, may mean. -/
def namedSwitches (switches : List Switch) (name : Octets) : List Switch :=
  match switches.find? fun switch => switch.name != "" && switch.name.toList == name with
  | some switch => [switch]
  | none => switches.filter fun switch =>
      switch.name != "" && name.isPrefixOf switch.name.toList

/-- Read a long option. Answers the arguments that are left. -/
def readName (switches : List Switch) (written : Octets) (rest : List Octets)
    (found : Arguments) : Except Octets (Arguments × List Octets) :=
  let name := written.takeWhile (· != '=')
  let value := if name.length < written.length then some (written.drop (name.length + 1)) else none
  let shown := fun (name : Octets) => quoted ("--".toList ++ name)
  match namedSwitches switches name with
  | [] => .error ("unrecognized option ".toList ++ shown written)
  | [switch] =>
      let full := switch.name.toList
      match switch.arity, value with
      | .alone, some _ =>
          .error ("option ".toList ++ shown full ++ " doesn't allow an argument".toList)
      | .withValue, none =>
          match rest with
          | value :: rest => .ok (found.add { key := switch.key, value := some value }, rest)
          | [] => .error ("option ".toList ++ shown full ++ " requires an argument".toList)
      | _, value => .ok (found.add { key := switch.key, value := value }, rest)
  | several =>
      let names := several.flatMap fun switch => ' ' :: shown switch.name.toList
      .error ("option ".toList ++ shown name ++ " is ambiguous; possibilities:".toList ++ names)

/-- Read arguments; `mixed` tells whether options may follow operands. -/
def readArguments (switches : List Switch) (mixed : Bool) :
    (fuel : Nat) → List Octets → Arguments → Except Octets Arguments
  | 0, _, found => .ok found
  | _ + 1, [], found => .ok found
  | fuel + 1, word :: rest, found =>
      match word with
      | ['-', '-'] => .ok { found with operands := found.operands ++ rest }
      | '-' :: '-' :: name => do
          let (found, rest) ← readName switches name rest found
          readArguments switches mixed fuel rest found
      | '-' :: letter :: letters => do
          let (found, rest) ← readLetters switches (letter :: letters) rest found
          readArguments switches mixed fuel rest found
      | word =>
          if mixed then
            readArguments switches mixed fuel rest
              { found with operands := found.operands ++ [word] }
          else
            .ok { found with operands := found.operands ++ word :: rest }

namespace Act

/-- Complain about how the program was called, and end it. -/
def misused (message : Octets) (code : Nat) : Act α := do
  complain message
  let name := (← read).name
  let hint := "Try '".toList ++ name ++ " --help' for more information.\n".toList
  discard (writeTo 2 hint)
  exit code

/-- Read the arguments of a utility; `code` is the exit code if they are wrong. -/
def arguments (switches : List Switch) (code : Nat) (words : List Octets) : Act Arguments :=
  match readArguments switches true (words.length + 1) words {} with
  | .ok arguments => return arguments
  | .error message => misused message code

/-- Read the arguments of a utility whose options stand before all operands. -/
def leadingArguments (switches : List Switch) (code : Nat) (words : List Octets) :
    Act Arguments :=
  match readArguments switches false (words.length + 1) words {} with
  | .ok arguments => return arguments
  | .error message => misused message code

end Act

end Provision.Programs
