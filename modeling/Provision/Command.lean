import Provision.Path
import Provision.Unicode.Classes

namespace Provision

/-!
# External commands

A command is a program with its arguments and a choice of what becomes of its
output. The line shown to users quotes every word that is empty or holds white
space; arguments of a verbatim command are shown as they are.
-/

/-- What becomes of the output of a command. -/
inductive Capture where
  /-- It is collected to be read. -/
  | collected
  /-- It goes to the user's terminal. -/
  | shown
  deriving Repr, DecidableEq

/-- A program to run, with its arguments. -/
structure Invocation where
  program : String
  arguments : List String
  capture : Capture := .collected
  /-- The arguments form a ready command line that is passed on unquoted. -/
  verbatim : Bool := false
  deriving Repr, DecidableEq

namespace Invocation

/-- Whether a word is quoted when it is shown. -/
def needsQuotes (word : Text) : Bool :=
  word.isEmpty || word.any Unicode.isWhitespace

/-- A word as it is shown. -/
def shownWord (word : Text) : Text :=
  if needsQuotes word then '"' :: (word ++ ['"']) else word

/-- The characters of the line that shows a command. -/
def shownChars (command : Invocation) : Text :=
  let argument (word : String) : Text :=
    if command.verbatim then word.toList else shownWord word.toList
  shownWord command.program.toList ++
    command.arguments.flatMap fun word => ' ' :: argument word

/-- The line that shows a command to users. -/
def shown (command : Invocation) : String :=
  String.ofList command.shownChars

/-- A command whose output goes to the user's terminal. -/
def onTerminal (program : String) (arguments : List String) : Invocation where
  program := program
  arguments := arguments
  capture := .shown

end Invocation

/-- What a finished command leaves behind. -/
structure CommandOutput where
  /-- Exit code; there is none when a signal ended the command. -/
  code : Option Int
  /-- Whether the command ended well. The runner says so beside the exit code. -/
  succeeded : Bool
  stdout : String
  stderr : String
  deriving Repr, DecidableEq

namespace CommandOutput

/-- What a process leaves behind, which ended well if its exit code is zero. -/
def ofProcess (code : Option Int) (stdout stderr : String) : CommandOutput where
  code := code
  succeeded := code == some 0
  stdout := stdout
  stderr := stderr

/-- How a command ended, for messages. -/
def statusText (output : CommandOutput) : String :=
  match output.code with
  | some code => "exit status: " ++ toString code
  | none => "terminated by signal"

end CommandOutput

end Provision
