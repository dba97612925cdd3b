import Provision.Host.Shell.Launch
import Provision.Host.Utilities.Condition
import Provision.Host.Utilities.Printf

namespace Provision.Shell

open Programs Utilities

/-!
# Builtins

A builtin is a command that the shell carries out itself, with arguments behind
its name. It answers its status. An error in a special builtin ends a script of
the small shell.
-/

/-- What a builtin does with its arguments. -/
abbrev Builtin := Engine → List Octets → Sh Nat

namespace Builtin

/-- Print on the standard output. Answers the status. -/
def print (text : Octets) : Sh Nat := do
  if text.isEmpty then
    return 0
  else
    match ← Sh.writeTo 1 text with
    | .ok () => return 0
    | .error .brokenPipe =>
        let state ← get
        let ignored := state.process.ignored ++ Sh.ignoredSignals state.traps
        if ignored.contains Signal.pipe then
          Sh.complain "write error: Broken pipe".toList
          return 1
        else
          Sh.jump (.killed Signal.pipe)
    | .error reason =>
        match ← Sh.dialect with
        | .dash =>
            let name := (← get).builtin.getD []
            Sh.complain (name ++ ": I/O error".toList)
        | .bash => Sh.complain ("write error: " ++ reason.words).toList
        return 1

/-- Print a line. -/
def printLine (line : Octets) : Sh Nat :=
  print (line ++ ['\n'])

/-- Complain, and answer a status. -/
def complaint (message : Octets) (status : Nat) : Sh Nat := do
  Sh.complain message
  return status

/-- Write a text on the standard error output as it is. -/
def printError (text : Octets) : Sh Unit := do
  discard (Sh.writeTo 2 text)

/-- Refuse a text that is no number. -/
def failNumber (text : Octets) : Sh α :=
  Sh.fail ("Illegal number: ".toList ++ text)

/-- The number that an argument writes, as the small shell reads it. -/
def plainNumber (text : Octets) : Sh Nat := do
  match wholeNumber? text with
  | some number =>
      if number < 0 || Int.pow 2 31 ≤ number then failNumber text else return number.toNat
  | none => failNumber text

/-- The letters of options, their values, and the operands. -/
structure Call where
  options : List (Char × Octets) := []
  operands : List Octets := []

namespace Call

/-- Whether an option was given. -/
def has (call : Call) (letter : Char) : Bool :=
  call.options.any fun option => option.1 == letter

/-- The value that was given to an option last. -/
def value? (call : Call) (letter : Char) : Option Octets :=
  (call.options.reverse.find? fun option => option.1 == letter).map Prod.snd

end Call

/-- Read the letters of options; those before a colon take values. -/
def readLetters (known : Octets) :
    Octets → List Octets → Except (Char × Bool) (List (Char × Octets) × List Octets)
  | [], rest => .ok ([], rest)
  | letter :: letters, rest =>
      match (known.dropWhile (· != letter)).drop 1, known.contains letter && letter != ':' with
      | _, false => .error (letter, false)
      | ':' :: _, true =>
          if !letters.isEmpty then
            .ok ([(letter, letters)], rest)
          else
            match rest with
            | value :: rest => .ok ([(letter, value)], rest)
            | [] => .error (letter, true)
      | _, true => do
          let (options, rest) ← readLetters known letters rest
          return ((letter, []) :: options, rest)

/-- Read the options in front of the operands. -/
def readCall (known : Octets) :
    (fuel : Nat) → List Octets → List (Char × Octets) → Except (Char × Bool) Call
  | 0, words, options => .ok ⟨options, words⟩
  | fuel + 1, words, options =>
      match words with
      | ['-', '-'] :: rest => .ok ⟨options, rest⟩
      | ('-' :: letter :: letters) :: rest => do
          let (found, rest) ← readLetters known (letter :: letters) rest
          readCall known fuel rest (options ++ found)
      | words => .ok ⟨options, words⟩

/-- How builtins are called, for complaints of the large shell. -/
def usages : List (String × String) := [
  ("alias", "alias [-p] [name[=value] ... ]"),
  ("cd", "cd [-L|[-P [-e]] [-@]] [dir]"),
  ("command", "command [-pVv] command [arg ...]"),
  ("declare", "declare [-aAfFgiIlnrtux] [name[=value] ...] or declare -p [-aAfFilnrtux] [name ...]"),
  ("exec", "exec [-cl] [-a name] [command [argument ...]] [redirection ...]"),
  ("export", "export [-fn] [name[=value] ...] or export -p"),
  ("getopts", "getopts optstring name [arg ...]"),
  ("hash", "hash [-lr] [-p pathname] [-dt] [name ...]"),
  ("jobs", "jobs [-lnprs] [jobspec ...] or jobs -x command [args]"),
  ("kill", "kill [-s sigspec | -n signum | -sigspec] pid | jobspec ... or kill -l [sigspec]"),
  ("local", "local [option] name[=value] ..."),
  ("mapfile", "mapfile [-d delim] [-n count] [-O origin] [-s count] [-t] [-u fd] [-C callback] " ++
    "[-c quantum] [array]"),
  ("printf", "printf [-v var] format [arguments]"),
  ("pwd", "pwd [-LP]"),
  ("read", "read [-ers] [-a array] [-d delim] [-i text] [-n nchars] [-N nchars] [-p prompt] " ++
    "[-t timeout] [-u fd] [name ...]"),
  ("readarray", "readarray [-d delim] [-n count] [-O origin] [-s count] [-t] [-u fd] " ++
    "[-C callback] [-c quantum] [array]"),
  ("readonly", "readonly [-aAf] [name[=value] ...] or readonly -p"),
  ("set", "set [-abefhkmnptuvxBCEHPT] [-o option-name] [--] [-] [arg ...]"),
  ("shopt", "shopt [-pqsu] [-o] [optname ...]"),
  ("source", "source filename [arguments]"),
  (".", ". filename [arguments]"),
  ("trap", "trap [-lp] [[arg] signal_spec ...]"),
  ("type", "type [-afptP] name [name ...]"),
  ("typeset", "typeset [-aAfFgiIlnrtux] name[=value] ... or typeset -p [-aAfFilnrtux] [name ...]"),
  ("ulimit", "ulimit [-SHabcdefiklmnpqrstuvxPRT] [limit]"),
  ("umask", "umask [-p] [-S] [mode]"),
  ("unalias", "unalias [-a] name [name ...]"),
  ("unset", "unset [-f] [-v] [-n] [name ...]"),
  ("wait", "wait [-fn] [-p var] [id ...]")
]

/-- Tell how the running builtin is called. -/
def printUsage : Sh Unit := do
  let name := (← get).builtin.getD []
  match usages.find? fun usage => usage.1.toList == name with
  | some (_, usage) => printError (name ++ ": usage: ".toList ++ usage.toList ++ ['\n'])
  | none => return ()

/-- Read the options of a builtin, or refuse them. -/
def options (known : String) (words : List Octets) : Sh Call := do
  match readCall known.toList (words.length + 1) words [] with
  | .ok call => return call
  | .error (letter, needsValue) =>
      match ← Sh.dialect with
      | .dash =>
          if needsValue then
            Sh.fail ("No arg for -".toList ++ letter :: " option".toList)
          else
            Sh.fail ("Illegal option -".toList ++ [letter])
      | .bash =>
          if needsValue then
            Sh.complain ('-' :: letter :: ": option requires an argument".toList)
          else
            Sh.complain ('-' :: letter :: ": invalid option".toList)
          printUsage
          Sh.jump (.error 2)

/-- Complain about a name that no variable can have. -/
def complainName (name : Octets) : Sh Nat := do
  match ← Sh.dialect with
  | .dash => Sh.fail (name ++ ": bad variable name".toList)
  | .bash => complaint ('\x60' :: name ++ "': not a valid identifier".toList) 1

/-- A text in quotes, as the small shell shows values. -/
def plainQuoted (text : Octets) : Octets :=
  let rec pieces : (fuel : Nat) → Octets → Octets
    | 0, _ => []
    | _ + 1, [] => []
    | fuel + 1, text =>
        let safe := text.takeWhile (· != '\'')
        let quotes := (text.drop safe.length).takeWhile (· == '\'')
        let rest := text.drop (safe.length + quotes.length)
        let front := if safe.isEmpty then [] else '\'' :: safe ++ ['\'']
        let middle := if quotes.isEmpty then [] else '"' :: quotes ++ ['"']
        front ++ middle ++ pieces fuel rest
  if text.isEmpty then ['\'', '\''] else pieces (text.length + 1) text

/-- A text between double quotes, as the large shell shows values. -/
def doubleQuoted (text : Octets) : Octets :=
  let shown := text.flatMap fun c =>
    if ['"', '\\', '$', '\x60'].contains c then ['\\', c] else [c]
  '"' :: shown ++ ['"']

/-- A text as the large shell shows it in lists of variables. -/
def shownValue (text : Octets) : Octets :=
  let isSafe (c : Char) : Bool :=
    c.isAlphanum || ['_', '-', '.', '/', '+', ':', '@', ',', '%', '='].contains c
  if text.all isSafe then text
  else if text.any fun c => c < ' ' then Printing.protectedText .rich text
  else shellQuoted text

end Builtin

end Provision.Shell
