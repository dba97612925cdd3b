import Provision.Run.Basic

namespace Provision.Run

/-!
# Status lines

Users follow a run by its status lines. Every condition that a run recovers
from is announced before its default is used. Status lines can be held back;
errors never are.
-/

/-- Print to the standard output. -/
def print (text : String) : Run Unit :=
  modify fun world => { world with out := world.out ++ text }

/-- Print a line to the standard output. -/
def printLine (line : String) : Run Unit :=
  print (line ++ "\n")

/-- Print a line unless status lines are held back. -/
def status (line : String) : Run Unit := do
  unless (← get).quiet do
    printLine line

/-- The heading of a group of steps. -/
def announce (message : String) : Run Unit :=
  status message

/-- A plain line of progress. -/
def inform (message : String) : Run Unit :=
  status message

/-- Something is in place. -/
def confirm (message : String) : Run Unit :=
  status ("✓ " ++ message)

/-- A problem that the run recovers from. -/
def caution (message : String) : Run Unit :=
  status ("Warning: " ++ message)

/-- A step failed; the run may go on without it. -/
def complain (message : String) : Run Unit :=
  modify fun world => { world with err := world.err ++ "Error: " ++ message ++ "\n" }

/-- Hold status lines back from here on. -/
def holdStatusBack : Run Unit :=
  modify fun world => { world with quiet := true }

end Provision.Run
