import Provision.Path

namespace Provision.CommandLine

/-!
# What users ask for

A command line names one command with its options, and the project it is about.
-/

/-- A shell for which completions can be made. -/
inductive Shell where
  | bash
  | elvish
  | fish
  | powershell
  | zsh
  deriving Repr, DecidableEq

namespace Shell

/-- Every shell. -/
def all : List Shell :=
  [bash, elvish, fish, powershell, zsh]

/-- Name of a shell. -/
def name : Shell → String
  | bash => "bash"
  | elvish => "elvish"
  | fish => "fish"
  | powershell => "powershell"
  | zsh => "zsh"

end Shell

/-- A command with its own options. -/
inductive Command where
  /-- Install what is missing, patch the descriptor, write and run the launch script. -/
  | setup (assumeYes noLaunch : Bool)
  | check
  | resolve (json : Bool)
  | patch (dryRun : Bool)
  | script
  | version
  | completions (shell : Shell)
  deriving Repr, DecidableEq

/-- What a command line asks for. -/
structure Request where
  command : Command
  /-- The project directory, if it is not the working directory. -/
  project : Option Path
  verbose : Bool
  deriving Repr, DecidableEq

/-- Why a command line asks for nothing that can be done. -/
inductive UsageError where
  /-- Help was asked for. -/
  | helpWanted
  /-- The version was asked for. -/
  | versionWanted
  /-- Nothing at all was asked for. -/
  | nothingGiven
  | commandMissing
  | commandUnknown
  | argumentUnknown
  /-- An option without its value, or with a value that it cannot have. -/
  | valueInvalid
  /-- A value for a flag, which has none. -/
  | valueUnexpected
  /-- An option that is given twice. -/
  | repeated
  | argumentMissing
  deriving Repr, DecidableEq

/-- The exit code of the program for a usage error. -/
def UsageError.exitCode : UsageError → Nat
  | helpWanted => 0
  | versionWanted => 0
  | _ => 2

end Provision.CommandLine
