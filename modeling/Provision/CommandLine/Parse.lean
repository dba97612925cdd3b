import Provision.CommandLine.Request
import Provision.Names

namespace Provision.CommandLine

/-!
# Reading command lines

Arguments are read from left to right, first those of the program and, behind
the name of a command, those of the command. The options that choose the
project and the amount of output may stand in both places. The value of an
option is checked when the next argument has been recognised, so an argument
that is unknown is reported first.
-/

/-- An option of the program or of a command. -/
inductive OptionName where
  | project
  | verbose
  | help
  | version
  | yes
  | noLaunch
  | json
  | dryRun
  deriving Repr, DecidableEq

namespace OptionName

/-- The long name of an option. -/
def long : OptionName → String
  | project => "project"
  | verbose => "verbose"
  | help => "help"
  | version => "version"
  | yes => "yes"
  | noLaunch => "no-launch"
  | json => "json"
  | dryRun => "dry-run"

/-- The letter of an option. -/
def letter? : OptionName → Option Char
  | project => some 'p'
  | verbose => some 'v'
  | help => some 'h'
  | version => some 'V'
  | yes => some 'y'
  | _ => none

end OptionName

/-- The name of a command. -/
inductive CommandName where
  | setup
  | check
  | resolve
  | patch
  | script
  | version
  | completions
  deriving Repr, DecidableEq

namespace CommandName

/-- Every command. -/
def all : List CommandName :=
  [setup, check, resolve, patch, script, version, completions]

/-- The word for a command. -/
def word : CommandName → String
  | setup => "setup"
  | check => "check"
  | resolve => "resolve"
  | patch => "patch"
  | script => "script"
  | version => "version"
  | completions => "completions"

/-- The command that a word names. -/
def ofWord? (word : String) : Option CommandName :=
  all.find? (·.word == word)

/-- The options of a command alone. -/
def ownOptions : CommandName → List OptionName
  | setup => [.yes, .noLaunch]
  | resolve => [.json]
  | patch => [.dryRun]
  | _ => []

end CommandName

/-- The word that asks for help in place of a command. -/
def helpWord : String := "help"

/-- Where in a command line arguments stand. -/
inductive Level where
  /-- Before the name of the command. -/
  | program
  | command (name : CommandName)
  deriving Repr, DecidableEq

namespace Level

/-- The options that are known at a level. -/
def options : Level → List OptionName
  | program => [.project, .verbose, .help, .version]
  | command name => name.ownOptions ++ [.project, .verbose, .help]

/-- Whether the name of a command may come next. -/
def namesCommand (level : Level) : Bool :=
  level == program

/-- Whether the name of a shell may come next. -/
def namesShell (level : Level) : Bool :=
  level == command .completions

/-- The option of a long name. -/
def long? (level : Level) (name : String) : Option OptionName :=
  level.options.find? (·.long == name)

/-- The option of a letter. -/
def letter? (level : Level) (letter : Char) : Option OptionName :=
  level.options.find? (·.letter? == some letter)

end Level

/-- Where the project directory was chosen; a choice on the command line counts more. -/
inductive Source where
  | environment
  | commandLine
  deriving Repr, DecidableEq

/-- What was given at one level. -/
structure Given where
  project : Option (Source × String) := none
  flags : List OptionName := []
  shell : Option Shell := none
  deriving Repr, DecidableEq

namespace Given

/-- Whether a flag was given. -/
def has (given : Given) (flag : OptionName) : Bool :=
  given.flags.contains flag

/-- Choose the project directory. -/
def setProject (given : Given) (source : Source) (value : String) : Except UsageError Given :=
  if given.project.isSome then .error .repeated
  else if value.isEmpty then .error .valueInvalid
  else .ok { given with project := some (source, value) }

/-- Choose the shell, whose name may be written in any letter case. -/
def setShell (given : Given) (value : String) : Except UsageError Given :=
  match Shell.all.find? fun shell => Name.sameIgnoringCase shell.name value with
  | some shell => .ok { given with shell := some shell }
  | none => .error .valueInvalid

/-- Give a flag. -/
def setFlag (given : Given) (flag : OptionName) : Except UsageError Given :=
  match flag with
  | .help => .error .helpWanted
  | .version => .error .versionWanted
  | flag =>
      if given.has flag then .error .repeated
      else .ok { given with flags := flag :: given.flags }

end Given

/-- An argument that was read and is not checked yet. -/
inductive Pending where
  /-- The project directory, with its value if that was read. -/
  | project (value : Option String)
  | shell (value : String)
  deriving Repr, DecidableEq

/-- How far the arguments of a level were read. -/
structure Progress where
  given : Given := {}
  pending : Option Pending := none
  /-- Whether only words follow, and no options. -/
  wordsOnly : Bool := false
  /-- Whether the one word of the level was read. -/
  wordRead : Bool := false
  deriving Repr, DecidableEq

namespace Progress

/-- Whether the next word is the value of an option. -/
def awaitsValue (progress : Progress) : Bool :=
  progress.pending == some (.project none)

/-- Check the argument that was read last. -/
def settle (progress : Progress) : Except UsageError Given :=
  match progress.pending with
  | none => .ok progress.given
  | some (.project none) => .error .valueInvalid
  | some (.project (some value)) => progress.given.setProject .commandLine value
  | some (.shell value) => progress.given.setShell value

/-- Go on after the argument that was read last was checked. -/
def settledWith
    (progress : Progress)
    (change : Given → Except UsageError Given)
    (pending : Option Pending) :
    Except UsageError Progress := do
  let given ← change (← progress.settle)
  return { progress with given := given, pending := pending }

/-- Read a flag. -/
def readFlag (progress : Progress) (flag : OptionName) : Except UsageError Progress :=
  progress.settledWith (·.setFlag flag) none

/-- Read the project option, whose value may be part of the same argument. -/
def readProject (progress : Progress) (value : Option String) : Except UsageError Progress :=
  match value with
  | some value => progress.settledWith (·.setProject .commandLine value) none
  | none => progress.settledWith .ok (some (.project none))

/-- Read an option by its long name. -/
def readLong (level : Level) (progress : Progress) (argument : Text) :
    Except UsageError Progress :=
  let (name, value) :=
    match Text.splitOnce? ['='] argument with
    | some (name, value) => (name, some (String.ofList value))
    | none => (argument, none)
  match level.long? (String.ofList name) with
  | none => .error .argumentUnknown
  | some .project => progress.readProject value
  | some flag =>
      if value.isSome then .error .valueUnexpected else progress.readFlag flag

/-- Read options by their letters, which may stand together. -/
def readLetters (level : Level) (progress : Progress) : Text → Except UsageError Progress
  | [] => .ok progress
  | letter :: rest =>
      match level.letter? letter with
      | none => .error .argumentUnknown
      | some .project =>
          match rest with
          | [] => progress.readProject none
          | '=' :: value => progress.readProject (some (String.ofList value))
          | value => progress.readProject (some (String.ofList value))
      | some flag => do
          let progress ← progress.readFlag flag
          readLetters level progress rest

/-- Read a word that is no option and no command. -/
def readWord (level : Level) (progress : Progress) (word : String) :
    Except UsageError Progress :=
  if level.namesShell && !progress.wordRead then
    return { ← progress.settledWith .ok (some (.shell word)) with wordRead := true }
  else if level.namesCommand then
    let isCommand := (CommandName.ofWord? word).isSome || word == helpWord
    .error (if progress.wordsOnly && isCommand then .argumentUnknown else .commandUnknown)
  else
    .error .argumentUnknown

/-- Read an argument that names no command. -/
def readArgument (level : Level) (progress : Progress) (argument : String) :
    Except UsageError Progress :=
  if progress.wordsOnly then
    progress.readWord level argument
  else
    match argument.toList with
    | ['-', '-'] => .ok { progress with wordsOnly := true }
    | '-' :: '-' :: long => readLong level progress long
    | '-' :: letter :: letters => readLetters level progress (letter :: letters)
    | _ =>
        if progress.awaitsValue then
          .ok { progress with pending := some (.project (some argument)) }
        else
          progress.readWord level argument

end Progress

/-- Ask for help on the commands that some words name. -/
def helpOn : List String → UsageError
  | [] => .helpWanted
  | [word] =>
      if (CommandName.ofWord? word).isSome || word == helpWord then .helpWanted
      else .commandUnknown
  | _ => .commandUnknown

/--
Read the arguments of a level. Answers the command that was named, if one was,
with the arguments behind it.
-/
def readLevel (level : Level) (progress : Progress) :
    List String → Except UsageError (Progress × Option (CommandName × List String))
  | [] => .ok (progress, none)
  | argument :: rest =>
      if level.namesCommand && !progress.wordsOnly && !progress.awaitsValue then
        if argument == helpWord then
          .error (helpOn rest)
        else
          match CommandName.ofWord? argument with
          | some name => .ok (progress, some (name, rest))
          | none => do
              readLevel level (← progress.readArgument level argument) rest
      else do
        readLevel level (← progress.readArgument level argument) rest

/--
What was given at a level that was read to its end. The environment may choose
the project directory unless the level does.
-/
def Progress.complete (progress : Progress) (environment : Option String) :
    Except UsageError Given := do
  let given ← progress.settle
  match given.project, environment with
  | none, some value => given.setProject .environment value
  | _, _ => return given

/-- The command with what was given for it. -/
def commandOf (name : CommandName) (given : Given) : Except UsageError Command :=
  match name with
  | .setup => .ok (.setup (given.has .yes) (given.has .noLaunch))
  | .check => .ok .check
  | .resolve => .ok (.resolve (given.has .json))
  | .patch => .ok (.patch (given.has .dryRun))
  | .script => .ok .script
  | .version => .ok .version
  | .completions =>
      match given.shell with
      | some shell => .ok (.completions shell)
      | none => .error .argumentMissing

/--
The project directory that two levels choose: the choice for the command counts,
unless it comes from the environment and the other one does not.
-/
def chosenProject (outer inner : Given) : Option Path :=
  match outer.project, inner.project with
  | some (.commandLine, value), some (.environment, _) => some value
  | _, some (_, value) => some value
  | some (_, value), none => some value
  | none, none => none

/--
Read the arguments of the program; the environment may choose the project. What
is wrong behind the name of the command is reported before a value in front of it.
-/
def parse (arguments : List String) (environment : Option String) :
    Except UsageError Request := do
  let (outer, named) ← readLevel .program {} arguments
  match named with
  | none =>
      let outer ← outer.complete environment
      if outer.flags.isEmpty && outer.project.isNone then
        .error .nothingGiven
      else
        .error .commandMissing
  | some (name, rest) =>
      let (inner, _) ← readLevel (.command name) {} rest
      let inner ← inner.complete environment
      let command ← commandOf name inner
      let outer ← outer.complete environment
      return {
        command := command
        project := chosenProject outer inner
        verbose := outer.has .verbose || inner.has .verbose
      }

end Provision.CommandLine
