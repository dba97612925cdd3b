import Provision.Encoding.Octets

namespace Provision.Shell

/-!
# Shell scripts

A script is made of commands, and commands of words. A word is written in
parts: text, quoted or not, and substitutions, which may hold whole commands.
Two shells are told apart, for each reads and runs some things its own way.
-/

/-- Which shell a script is for. -/
inductive Dialect where
  | dash
  | bash
  deriving Repr, DecidableEq

/-- Where a pattern is replaced. -/
inductive ReplacePlace where
  | first
  | everywhere
  | atStart
  | atEnd
  deriving Repr, DecidableEq

/-- How the case of letters is changed. -/
inductive CaseChange where
  | raised
  | lowered
  | toggled
  deriving Repr, DecidableEq

/-- How the target of a redirection is opened. -/
inductive RedirectionKind where
  | input
  | output
  /-- Writes over a file in any case. -/
  | clobber
  | append
  | update
  | copyInput
  | copyOutput
  /-- Sends both outputs to a file. -/
  | both
  | appendBoth
  /-- Reads the word itself. -/
  | wordInput
  deriving Repr, DecidableEq

/-- Which descriptor a redirection changes. -/
inductive RedirectedDescriptor where
  /-- The one that the operator is for. -/
  | usual
  | number (number : Nat)
  /-- A new one, whose number goes to a variable. -/
  | variable (name : Octets)
  deriving Repr, DecidableEq

/-- How a branch of a choice ends. -/
inductive CaseEnd where
  | leaves
  /-- Goes on with the next branch. -/
  | fallsThrough
  /-- Goes on with the next branch that matches. -/
  | searchesOn
  deriving Repr, DecidableEq

mutual

/-- A part of a word. -/
inductive Part where
  /-- Text without quotes. -/
  | plain (text : Octets)
  /-- Text that stands for itself. -/
  | literal (text : Octets)
  /-- Parts between double quotes. -/
  | quoted (parts : List Part)
  | parameter (name : Octets) (subscript : Subscript) (operation : Operation)
  /-- What a command prints. -/
  | output (body : Command)
  /-- What the text of a command prints that is read when it is needed. -/
  | lateOutput (source : Octets)
  | arithmetic (expression : List Part)
  /-- The name of a file through which a command is read from or written to. -/
  | channel (reads : Bool) (body : Command)
  /-- A group of patterns with the sign before it. -/
  | patterns (sign : Char) (choices : List (List Part))
  /-- The beginning of an assignment to an element of an array. -/
  | element (name : Octets) (index : List Part) (adds : Bool)
  /-- Elements of an array, some with their subscripts. -/
  | elements (elements : List (Option (List Part) × Bool × List Part))

/-- Which elements of an array are meant. -/
inductive Subscript where
  | whole
  | element (index : List Part)
  /-- All elements, each a field of its own. -/
  | all
  /-- All elements in one field. -/
  | joined

/-- What becomes of the value of a parameter. -/
inductive Operation where
  | value
  | length
  | default (ifEmpty : Bool) (word : List Part)
  | assign (ifEmpty : Bool) (word : List Part)
  | demand (ifEmpty : Bool) (word : List Part)
  | alternative (ifEmpty : Bool) (word : List Part)
  | dropStart (longest : Bool) (pattern : List Part)
  | dropEnd (longest : Bool) (pattern : List Part)
  | slice (start : List Part) (length : Option (List Part))
  | replace (place : ReplacePlace) (pattern replacement : List Part)
  | changeCase (change : CaseChange) (every : Bool) (pattern : List Part)
  | transform (form : Char)
  /-- The value names the parameter that is meant. -/
  | indirect (operation : Operation)
  /-- The names of variables that start with the name. -/
  | names (joined : Bool)
  /-- The subscripts of an array. -/
  | keys (joined : Bool)
  /-- Something that is refused when it is used. -/
  | bad (written : Octets)

/-- A change of what a descriptor stands for. -/
inductive Redirection where
  | file (descriptor : RedirectedDescriptor) (kind : RedirectionKind) (target : List Part)
  /-- Reads a text of the script, which is kept under a number. -/
  | text (descriptor : RedirectedDescriptor) (number : Nat)

/-- An assignment. -/
inductive Assignment where
  | mk (name : Octets) (index : Option (List Part)) (adds : Bool) (value : List Part)

/-- A condition between double brackets. -/
inductive Condition where
  | word (word : List Part)
  | unary (operator : Octets) (word : List Part)
  | binary (left : List Part) (operator : Octets) (right : List Part)
  | negation (condition : Condition)
  | both (left right : Condition)
  | either (left right : Condition)

/-- A command. -/
inductive Command where
  | simple
      (assignments : List Assignment)
      (words : List (List Part))
      (redirections : List Redirection)
      (line : Nat)
  /-- Runs commands one after the other. -/
  | sequence (commands : List Command)
  | andThen (left right : Command)
  | orElse (left right : Command)
  | negation (command : Command)
  /-- Runs commands each of which reads what the one before it writes. -/
  | pipeline (commands : List Command)
  | background (command : Command)
  | subshell (body : Command) (line : Nat)
  | group (body : Command)
  | redirected (command : Command) (redirections : List Redirection) (line : Nat)
  | conditional (condition body : Command) (otherwise : Option Command)
  /-- Runs the body as long as the condition comes out as `holds`. -/
  | repetition (holds : Bool) (condition body : Command)
  /-- Runs the body for each of some words, or for each argument. -/
  | loop (name : Octets) (words : Option (List (List Part))) (body : Command) (line : Nat)
  | counted (start condition step : List Part) (body : Command) (line : Nat)
  | choice
      (subject : List Part)
      (branches : List (List (List Part) × Command × CaseEnd))
      (line : Nat)
  | selection (name : Octets) (words : Option (List (List Part))) (body : Command)
      (line : Nat)
  | definition (name : Octets) (body : Command) (line : Nat)
  | calculation (expression : List Part) (line : Nat)
  | condition (condition : Condition) (line : Nat)
  /-- Reports how long a command takes. -/
  | timed (command : Command)

end

/-- A word of a script. -/
abbrev Word := List Part

/-- The command that does nothing. -/
def Command.nothing : Command :=
  .sequence []

instance : Inhabited Part := ⟨.plain []⟩

instance : Inhabited Command := ⟨.nothing⟩

end Provision.Shell
