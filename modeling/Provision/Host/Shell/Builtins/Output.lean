import Provision.Host.Shell.Assign
import Provision.Host.Shell.Builtins.Basic

namespace Provision.Shell.Builtin

open Programs Utilities

/-!
# Builtins that print and test

The shells have printers and tests of their own, which differ from each other
and from the system's.
-/

/-- Escapes that the printer of the small shell always knows. -/
def plainEcho : EscapeStyle where
  escape := true
  zeroOctal := true
  stops := true

/-- Escapes that the printer of the large shell knows if it is asked to. -/
def richEcho : EscapeStyle where
  octal := false
  zeroOctal := true
  hexadecimal := true
  unicode := true
  escape := true
  capitalEscape := true
  stops := true

/-- Options of a printer. -/
structure EchoOptions where
  endsLine : Bool := true
  escapes : Bool := false
  deriving Repr, DecidableEq

/-- Read the options in front of the words that are printed. -/
def readEchoOptions (options : EchoOptions) : List Octets → EchoOptions × List Octets
  | [] => (options, [])
  | word :: rest =>
      match word with
      | '-' :: letter :: letters =>
          if (letter :: letters).all fun c => c == 'n' || c == 'e' || c == 'E' then
            let options := (letter :: letters).foldl (fun (options : EchoOptions) c =>
              if c == 'n' then { options with endsLine := false }
              else { options with escapes := c == 'e' }) options
            readEchoOptions options rest
          else
            (options, word :: rest)
      | _ => (options, word :: rest)

/-- Print words. -/
def echo : Builtin := fun _ arguments => do
  match ← Sh.dialect with
  | .dash =>
      let (ends, words) :=
        match arguments with
        | ['-', 'n'] :: rest => (false, rest)
        | words => (true, words)
      let (text, stopped) := Utilities.unescaped plainEcho (joinedWith [' '] words)
      print (text ++ if ends && !stopped then ['\n'] else [])
  | .bash =>
      let usual := (← get).features.contains "xpg_echo"
      let (options, words) := readEchoOptions { escapes := usual } arguments
      let text := joinedWith [' '] words
      let (text, stopped) :=
        if options.escapes then Utilities.unescaped richEcho text else (text, false)
      print (text ++ if options.endsLine && !stopped then ['\n'] else [])

/-- Print a format. -/
def printf : Builtin := fun _ arguments => do
  let dialect ← Sh.dialect
  let call ← options (if dialect == .bash then "v:" else "") arguments
  match call.operands with
  | [] =>
      match dialect with
      | .dash => Sh.fail "usage: printf format [arg ...]".toList
      | .bash =>
          printUsage
          return 2
  | format :: rest =>
      let printing :=
        printFormat (if dialect == .dash then .plain else .rich) format rest
      for complaint in printing.complaints do
        Sh.complain complaint
      match call.value? 'v' with
      | some name =>
          let plain := name.takeWhile (· != '[')
          if !isName plain then
            complainName name
          else
            let index := (name.drop (plain.length + 1)).dropLast
            if plain.length < name.length then
              Sh.putElement plain index false printing.out
            else
              Sh.assign name printing.out
            return printing.status
      | none =>
          let answer ← print printing.out
          return if answer == 0 then printing.status else answer

/-- Whether a variable or an option is set. -/
def isSet (state : State) (letter : Char) (word : Octets) : Bool :=
  match letter with
  | 'v' =>
      let plain := word.takeWhile (· != '[')
      let held := state.bindings.lookup plain
      if plain.length < word.length then
        let index := (word.drop (plain.length + 1)).dropLast
        match held.map Variable.value with
        | some (.table entries) => (entries.lookup index).isSome
        | some (.list elements) => ((count? index).bind fun index => elements.lookup index).isSome
        | _ => false
      else
        (held.bind fun held => held.value.text?).isSome
  | 'o' =>
      (optionFlags.find? fun option => option.1.toList == word).any fun option =>
        state.flags.contains option.2
  | 'R' => ((state.bindings.lookup word).map Variable.refers).getD false
  | _ => false
where
  /-- Options that can be asked for, with their letters. -/
  optionFlags : List (String × Char) := [
    ("allexport", 'a'), ("errexit", 'e'), ("noglob", 'f'), ("nounset", 'u'), ("xtrace", 'x'),
    ("noclobber", 'C'), ("noexec", 'n'), ("verbose", 'v')]

/-- What conditions of the shell are tested with. -/
def testSetting : Sh TestSetting := do
  let state ← get
  return {
    tester := if state.dialect == .dash then .plain else .rich
    files := ⟨state.system.disk, state.process⟩
    isSet := isSet state }

/-- Test a condition. -/
def test : Builtin := fun _ arguments => do
  let name := (← get).builtin.getD []
  let setting ← testSetting
  match testCall setting name arguments with
  | .ok truth => return if truth then 0 else 1
  | .error problem => complaint (problem.message setting.tester) 2

end Provision.Shell.Builtin
