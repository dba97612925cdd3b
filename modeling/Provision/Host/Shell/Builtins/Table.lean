import Provision.Host.Shell.Builtins.Control
import Provision.Host.Shell.Builtins.Declare
import Provision.Host.Shell.Builtins.Directory
import Provision.Host.Shell.Builtins.Input
import Provision.Host.Shell.Builtins.Naming
import Provision.Host.Shell.Builtins.Options
import Provision.Host.Shell.Builtins.Output
import Provision.Host.Shell.Builtins.Signals

namespace Provision.Shell.Builtin

/-!
# All builtins

Each shell has its builtins. The special ones are found before functions, and
errors in them end a script of the small shell.
-/

/-- What a name that calls a builtin stands for. -/
inductive Entry where
  | ordinary (builtin : Builtin)
  /-- Its arguments may be assignments. -/
  | declaring (builtin : DeclaringBuiltin)
  /-- Runs the command that its arguments make up, without looking for functions. -/
  | command
  /-- Runs the builtin that its arguments name. -/
  | builtin

/-- Whether a name calls a special builtin. -/
def isSpecial (dialect : Dialect) (name : Octets) : Bool :=
  (specialBuiltins.any fun special => special.toList == name) ||
    (dialect == .bash && name == "source".toList)

/-- Builtins that only one shell has. -/
def isKnown (dialect : Dialect) (name : String) : Bool :=
  match dialect with
  | .bash => name != "chdir"
  | .dash =>
      let own := ["source", "typeset", "declare", "mapfile", "readarray", "shopt", "pushd", "popd",
        "dirs", "disown", "let", "builtin", "compgen", "complete", "compopt", "bind", "caller",
        "enable", "help", "history", "logout", "suspend"]
      !own.contains name

/-- The names of builtins, without those that ask for names. -/
def plainTable : List (String × Entry) := [
  (":", .ordinary (answering 0)),
  ("true", .ordinary (answering 0)),
  ("false", .ordinary (answering 1)),
  (".", .ordinary source),
  ("source", .ordinary source),
  ("[", .ordinary test),
  ("alias", .ordinary nameTexts),
  ("bg", .ordinary resume),
  ("bind", .ordinary (answering 0)),
  ("break", .ordinary (leaveLoops .break "break")),
  ("builtin", .builtin),
  ("caller", .ordinary (answering 1)),
  ("cd", .ordinary cd),
  ("chdir", .ordinary cd),
  ("command", .command),
  ("compgen", .ordinary (answering 1)),
  ("complete", .ordinary (answering 0)),
  ("compopt", .ordinary (answering 1)),
  ("continue", .ordinary (leaveLoops .continue "continue")),
  ("declare", .declaring (declare false)),
  ("dirs", .ordinary dirs),
  ("disown", .ordinary disown),
  ("echo", .ordinary echo),
  ("enable", .ordinary (answering 0)),
  ("eval", .ordinary eval),
  ("exec", .ordinary exec),
  ("exit", .ordinary leaveShell),
  ("export", .declaring exports),
  ("fg", .ordinary resume),
  ("getopts", .ordinary getopts),
  ("hash", .ordinary hash),
  ("help", .ordinary (answering 0)),
  ("history", .ordinary (answering 0)),
  ("jobs", .ordinary jobs),
  ("kill", .ordinary kill),
  ("let", .ordinary calculate),
  ("logout", .ordinary (answering 1)),
  ("mapfile", .ordinary mapfile),
  ("popd", .ordinary popd),
  ("printf", .ordinary printf),
  ("pushd", .ordinary pushd),
  ("pwd", .ordinary pwd),
  ("read", .ordinary read),
  ("readarray", .ordinary mapfile),
  ("readonly", .declaring protects),
  ("return", .ordinary leaveFunction),
  ("set", .ordinary configure),
  ("shift", .ordinary shift),
  ("shopt", .ordinary shopt),
  ("suspend", .ordinary (answering 1)),
  ("test", .ordinary test),
  ("times", .ordinary times),
  ("trap", .ordinary trap),
  ("typeset", .declaring (declare false)),
  ("ulimit", .ordinary limit),
  ("umask", .ordinary umask),
  ("unalias", .ordinary unalias),
  ("unset", .ordinary unset),
  ("wait", .ordinary wait)
]

/-- Find a builtin among those that every shell has in its own way. -/
def find? (dialect : Dialect) (name : Octets) : Option Entry :=
  if name == "local".toList then
    some (.declaring (if dialect == .dash then hides else declare true))
  else
    (plainTable.find? fun entry => entry.1.toList == name && isKnown dialect entry.1).map Prod.snd

/-- Whether a name calls a builtin, and whether it is a special one. -/
def isBuiltin (dialect : Dialect) (name : Octets) : Option Bool :=
  if name == "type".toList || (find? dialect name).isSome then
    some (isSpecial dialect name)
  else
    none

/-- The builtin that a name calls. -/
def entry? (dialect : Dialect) (name : Octets) : Option Entry :=
  if name == "type".toList then
    some (.ordinary (type (isBuiltin dialect)))
  else
    find? dialect name

end Provision.Shell.Builtin
