import Provision.Host.Shell.Session

namespace Provision.Shell

/-!
# Options of a shell

An option is switched on or off by its letter or by its name; some have only a
name. The large shell has features besides, which are switched by another
builtin.
-/

/-- Names of the options, with the letters of those that have one, as they are listed. -/
def optionNames : Dialect → List (String × Option Char)
  | .dash => [
      ("errexit", some 'e'), ("noglob", some 'f'), ("ignoreeof", some 'I'),
      ("interactive", some 'i'), ("monitor", some 'm'), ("noexec", some 'n'),
      ("stdin", some 's'), ("xtrace", some 'x'), ("verbose", some 'v'), ("vi", some 'V'),
      ("emacs", some 'E'), ("noclobber", some 'C'), ("allexport", some 'a'),
      ("notify", some 'b'), ("nounset", some 'u'), ("privileged", some 'p'),
      ("nolog", none), ("debug", none)]
  | .bash => [
      ("allexport", some 'a'), ("braceexpand", some 'B'), ("emacs", none),
      ("errexit", some 'e'), ("errtrace", some 'E'), ("functrace", some 'T'),
      ("hashall", some 'h'), ("histexpand", some 'H'), ("history", none),
      ("ignoreeof", none), ("interactive-comments", none), ("keyword", some 'k'),
      ("monitor", some 'm'), ("noclobber", some 'C'), ("noexec", some 'n'),
      ("noglob", some 'f'), ("nolog", none), ("notify", some 'b'), ("nounset", some 'u'),
      ("onecmd", some 't'), ("physical", some 'P'), ("pipefail", none), ("posix", none),
      ("privileged", some 'p'), ("verbose", some 'v'), ("vi", none), ("xtrace", some 'x')]

/-- Features of the large shell, as they are listed. -/
def featureNames : List String := [
  "autocd", "assoc_expand_once", "cdable_vars", "cdspell", "checkhash", "checkjobs",
  "checkwinsize", "cmdhist", "compat31", "compat32", "compat40", "compat41", "compat42",
  "compat43", "compat44", "complete_fullquote", "direxpand", "dirspell", "dotglob", "execfail",
  "expand_aliases", "extdebug", "extglob", "extquote", "failglob", "force_fignore",
  "globasciiranges", "globskipdots", "globstar", "gnu_errfmt", "histappend", "histreedit",
  "histverify", "hostcomplete", "huponexit", "inherit_errexit", "interactive_comments",
  "lastpipe", "lithist", "localvar_inherit", "localvar_unset", "login_shell", "mailwarn",
  "no_empty_cmd_completion", "nocaseglob", "nocasematch", "noexpand_translation", "nullglob",
  "patsub_replacement", "progcomp", "progcomp_alias", "promptvars", "restricted_shell",
  "shift_verbose", "sourcepath", "varredir_close", "xpg_echo"]

/-- Features that are on from the start. -/
def usualFeatures : List String := [
  "checkwinsize", "cmdhist", "complete_fullquote", "extquote", "force_fignore",
  "globasciiranges", "globskipdots", "hostcomplete", "interactive_comments",
  "patsub_replacement", "progcomp", "promptvars", "sourcepath", "interactive-comments"]

/-- A name with blanks behind it up to a width. -/
def padName (width : Nat) (name : String) : Octets :=
  name.toList ++ List.replicate (width - name.length) ' '

/-- Whether the option with a name is on. -/
def isOptionSet (situation : Situation) (option : String × Option Char) : Bool :=
  match option.2 with
  | some letter => situation.flags.contains letter
  | none => situation.features.contains option.1

/-- Names with colons between them. -/
def joinedNames (names : List String) : Octets :=
  (String.intercalate ":" names).toList

/-- The options and the features that are on, as variables of the large shell tell them. -/
def optionVariables (situation : Situation) : List (String × Octets) :=
  let options := (optionNames situation.dialect).filter (isOptionSet situation)
  let features := featureNames.filter situation.features.contains
  [("SHELLOPTS", joinedNames (options.map Prod.fst)), ("BASHOPTS", joinedNames features)]

/-- A situation in which variables tell the options that are on. -/
def showingOptions (situation : Situation) : Situation :=
  match situation.dialect with
  | .dash => situation
  | .bash =>
      { situation with
        bindings := (optionVariables situation).foldl (fun bindings (name, text) =>
          let before : Variable := (bindings.lookup name.toList).getD { readOnly := true }
          setEntry name.toList { before with value := .text text } bindings)
          situation.bindings }

namespace Sh

/-- Switch the option with a letter. -/
def setFlag (letter : Char) (on : Bool) : Sh Unit :=
  modify fun state =>
    let others := state.flags.filter (· != letter)
    let flags := if on then letter :: others else others
    { state with toSituation := showingOptions { state.toSituation with flags := flags } }

/-- Switch a feature. -/
def setFeature (name : String) (on : Bool) : Sh Unit :=
  modify fun state =>
    let others := state.features.filter (· != name)
    let features := if on then name :: others else others
    { state with toSituation := showingOptions { state.toSituation with features := features } }

/-- Whether a shell knows the letter of an option. -/
def isFlag (dialect : Dialect) (letter : Char) : Bool :=
  (optionNames dialect).any fun option => option.2 == some letter

/-- Switch the option with a name. Answers whether there is one. -/
def setNamedOption (name : Octets) (on : Bool) : Sh Bool := do
  match (optionNames (← dialect)).find? fun option => option.1.toList == name with
  | some (_, some letter) =>
      setFlag letter on
      return true
  | some (name, none) =>
      setFeature name on
      return true
  | none => return false

/-- The list of all options, as commands that set them or in words. -/
def optionList (asCommands : Bool) (isOn : String × Option Char → Bool) : Sh Octets := do
  let dialect ← dialect
  let line (option : String × Option Char) : Octets :=
    if asCommands then
      (if isOn option then "set -o " else "set +o ").toList ++ option.1.toList ++ ['\n']
    else
      let value := (if isOn option then "on\n" else "off\n").toList
      match dialect with
      | .dash => padName 16 option.1 ++ value
      | .bash => padName 15 option.1 ++ '\t' :: value
  let heading :=
    if dialect == .dash && !asCommands then "Current option settings\n".toList else []
  return heading ++ (optionNames dialect).flatMap line

end Sh

end Provision.Shell
