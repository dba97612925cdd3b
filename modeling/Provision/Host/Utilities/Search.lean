import Provision.Host.Matching.RegexSyntax
import Provision.Host.Shell.Pattern
import Provision.Host.Utilities.Listing

namespace Provision.Utilities

open Programs Matching

/-!
# Searching lines

Lines are selected in which one of several expressions is found, and shown with
those around them if that is asked for.
-/

/-- Which lines are searched for. -/
structure LineSearch where
  regex : Regex
  style : Regex.Style
  /-- Whether lines without a match are selected. -/
  inverts : Bool
  /-- How many lines are selected at most. -/
  most : Option Nat
  deriving Repr, DecidableEq

/-- A line with its number, its offset, and whether it is selected. -/
structure SearchedLine where
  number : Nat
  offset : Nat
  text : Octets
  isSelected : Bool
  deriving Repr, DecidableEq

namespace LineSearch

/-- Whether a line is selected. -/
def selects (search : LineSearch) (line : Octets) : Bool :=
  search.regex.isFoundIn search.style line != search.inverts

/-- Search lines, one after the other. -/
def run (search : LineSearch) : (number offset : Nat) → (left : Option Nat) → List Octets →
    List SearchedLine
  | _, _, _, [] => []
  | number, offset, left, line :: rest =>
      let isSelected := left != some 0 && search.selects line
      let left := if isSelected then left.map (· - 1) else left
      ⟨number, offset, line, isSelected⟩ ::
        run search (number + 1) (offset + line.length + 1) left rest

end LineSearch

/-- Which lines are shown: selected ones and those around them. -/
def shownLines (before after : Nat) (lines : List SearchedLine) : List SearchedLine :=
  let selected := (lines.filter SearchedLine.isSelected).map SearchedLine.number
  lines.filter fun line => selected.any fun number =>
    number ≤ line.number + before && line.number ≤ number + after

/-- All parts of a line in which an expression is found. -/
def foundParts (search : LineSearch) (line : Octets) : (fuel : Nat) → (offset : Nat) →
    List (Nat × Octets)
  | 0, _ => []
  | fuel + 1, offset =>
      if line.length < offset then
        []
      else
        match search.regex.search? search.style line offset with
        | none => []
        | some found =>
            let span := found.whole
            if span.stop == span.start then
              foundParts search line fuel (span.start + 1)
            else
              (span.start, span.of line) :: foundParts search line fuel span.stop

/-- The switches of the utility that searches lines. -/
def searchSwitches : List Switch :=
  plainSwitches "EFGPiyvnHhlLcqsowxrRabzTUIu0123456789" ++ [
    Switch.short 'e' "regexp" .withValue, Switch.short 'f' "file" .withValue,
    Switch.short 'm' "max-count" .withValue, Switch.short 'A' "after-context" .withValue,
    Switch.short 'B' "before-context" .withValue, Switch.short 'C' "context" .withValue,
    Switch.short 'd' "directories" .withValue, Switch.short 'D' "devices" .withValue,
    Switch.long "include" .withValue, Switch.long "exclude" .withValue,
    Switch.long "exclude-dir" .withValue, Switch.long "color" .maybeValue,
    Switch.long "colour" .maybeValue, Switch.long "label" .withValue] ++
  searchNames.map fun entry => Switch.long entry.1 .alone
where
  /-- Long names of switches, with their letters. -/
  searchNames : List (String × String) := [
    ("extended-regexp", "E"), ("fixed-strings", "F"), ("basic-regexp", "G"),
    ("ignore-case", "i"), ("invert-match", "v"), ("line-number", "n"), ("with-filename", "H"),
    ("no-filename", "h"), ("files-with-matches", "l"), ("files-without-match", "L"),
    ("count", "c"), ("quiet", "q"), ("silent", "q"), ("no-messages", "s"),
    ("only-matching", "o"), ("word-regexp", "w"), ("line-regexp", "x"), ("recursive", "r"),
    ("text", "a"), ("byte-offset", "b")]

/-- Complain about how the utility that searches lines was called. -/
def misusedSearch (message : Option Octets) : Act α := do
  match message with
  | some message => Act.complain message
  | none => pure ()
  discard (Act.writeTo 2
    ("Usage: grep [OPTION]... PATTERNS [FILE]...\n" ++
      "Try 'grep --help' for more information.\n").toList)
  Act.exit 2

/-- The expression for one of several patterns. -/
def patternsRegex (call : Arguments) (kind : String) (patterns : List Octets) :
    Except Regex.Problem Regex := do
  let one (pattern : Octets) : Except Regex.Problem Regex :=
    if kind == "F" then .ok (Regex.ofLiteral pattern)
    else Regex.ofText (if kind == "G" then .basic else .lenient) pattern
  let all ←
    match ← patterns.mapM one with
    | [] => pure (Regex.set ⟨false, []⟩)
    | first :: rest => pure (rest.foldl Regex.either first)
  if call.has "x" then
    return .sequence .lineStart (.sequence all .lineEnd)
  else if call.has "w" then
    return .sequence .notBehindWord (.sequence all .notBeforeWord)
  else
    return all

/-- Whether a name fits one of several shell patterns. -/
def fitsAny (patterns : List Octets) (name : Octets) : Bool :=
  let style : Shell.PatternStyle := { extendedSets := true }
  patterns.any fun pattern =>
    let items := Shell.Pattern.ofGlyphs style (Shell.Pattern.activeGlyphs pattern)
    Shell.Pattern.matches style items name

/-- Files below a directory that are searched, in order. -/
def filesBelow (call : Arguments) : (depth : Nat) → Octets → Act (List Octets)
  | 0, _ => return []
  | depth + 1, directory => do
      let entries ← entriesOf { options := [{ key := "A" }] } directory
      let mut found : List Octets := []
      for entry in entries do
        match entry.node with
        | .directory =>
            unless fitsAny (call.values "exclude-dir") entry.name do
              found := found ++ (← filesBelow call depth entry.path)
        | .file .. =>
            let included := call.values "include"
            if (included.isEmpty || fitsAny included entry.name) &&
                !fitsAny (call.values "exclude") entry.name then
              found := found ++ [entry.path]
        | _ => pure ()
      return found

/-- How lines are shown. -/
structure LineReport where
  names : Bool
  numbers : Bool
  offsets : Bool
  onlyParts : Bool
  before : Nat
  after : Nat
  separates : Bool
  deriving Repr, DecidableEq

namespace LineReport

/-- What stands in front of a line, with a sign behind each part. -/
def front (report : LineReport) (name : Octets) (sign : Char) (number offset : Nat) : Octets :=
  (if report.names then name ++ [sign] else []) ++
    (if report.numbers then (toString number).toList ++ [sign] else []) ++
    if report.offsets then (toString offset).toList ++ [sign] else []

/-- One line as it is shown. -/
def lineText (report : LineReport) (search : LineSearch) (name : Octets) (line : SearchedLine) :
    Octets :=
  if report.onlyParts then
    if search.inverts || !line.isSelected then
      []
    else
      (foundParts search line.text (line.text.length + 1) 0).flatMap fun (offset, part) =>
        report.front name ':' line.number (line.offset + offset) ++ part ++ ['\n']
  else
    let sign := if line.isSelected then ':' else '-'
    report.front name sign line.number line.offset ++ line.text ++ ['\n']

/-- Lines as they are shown; `last` is the number of the line shown before them. -/
def linesText (report : LineReport) (search : LineSearch) (name : Octets) :
    (last : Option Nat) → List SearchedLine → Octets
  | _, [] => []
  | last, line :: rest =>
      let isApart := report.separates && last.any fun last => last + 1 < line.number
      (if isApart then "--\n".toList else []) ++ report.lineText search name line ++
        linesText report search name (some line.number) rest

end LineReport

/-- The number that an option gives for lines around others. -/
def contextOption (call : Arguments) (key : String) : Act (Option Nat) := do
  match call.value? key with
  | none => return none
  | some text =>
      match count? text with
      | some number => return some number
      | none => do
          Act.complain (text ++ ": invalid context length argument".toList)
          Act.exit 2

/-- Search lines with expressions of a kind. -/
def searchLines (usual : String) : Utility := fun _ arguments => do
  let call ←
    match readArguments searchSwitches true (arguments.length + 1) arguments {} with
    | .ok call => pure call
    | .error message => misusedSearch (some message)
  let call := { call with options := call.options.map fun option =>
    { option with key := (searchSwitches.searchNames.lookup option.key).getD option.key } }
  let silent := call.has "s"
  let mut patterns : List Octets := (call.values "e").flatMap (Text.splitOn '\n')
  for path in call.values "f" do
    match ← Act.readOperand path with
    | .ok text => patterns := patterns ++ linesOf text
    | .error reason =>
        Act.complain (path ++ ": ".toList ++ reason.words.toList)
        Act.exit 2
  let isGiven := call.has "e" || call.has "f"
  let operands ←
    match isGiven, call.operands with
    | true, operands => pure operands
    | false, pattern :: operands => do
        patterns := Text.splitOn '\n' pattern
        pure operands
    | false, [] => misusedSearch none
  let kind := match call.last? ["E", "F", "G", "P"] with
    | some "P" => "E"
    | some kind => kind
    | none => usual
  let regex ←
    match patternsRegex call kind patterns with
    | .ok regex => pure regex
    | .error problem => Act.fail problem.words.toList 2
  let most ←
    match call.value? "m" with
    | none => pure none
    | some text =>
        match count? text with
        | some number => pure (some number)
        | none => Act.fail "invalid max count".toList 2
  let around ← contextOption call "C"
  let digits := (call.options.filter fun option => option.key.toList.all Char.isDigit).flatMap
    fun option => option.key.toList
  let around := (count? digits).orElse fun _ => around
  let before ← contextOption call "B"
  let after ← contextOption call "A"
  let recursive := call.has "r" || call.has "R"
  let search : LineSearch := {
    regex := regex
    style := { folds := call.has "i" || call.has "y" }
    inverts := call.has "v"
    most := most }
  let report : LineReport := {
    names := call.has "H" || ((1 < operands.length || recursive) && !call.has "h")
    numbers := call.has "n"
    offsets := call.has "b"
    onlyParts := call.has "o"
    before := (before.orElse fun _ => around).getD 0
    after := (after.orElse fun _ => around).getD 0
    separates := before.isSome || after.isSome || around.isSome }
  let report := if report.onlyParts then { report with before := 0, after := 0 } else report
  let depth := (← Act.system).disk.depth + 2
  let mut inputs : List Octets := []
  for operand in operands do
    if recursive && (← Act.isDirectory operand) then
      inputs := inputs ++ (← filesBelow call depth operand)
    else
      inputs := inputs ++ [operand]
  if operands.isEmpty then
    if recursive then
      inputs := (← filesBelow call depth ['.']).map fun path => path.drop 2
    else
      inputs := [['-']]
  let mut code := 1
  let mut failed := false
  for input in inputs do
    if !(call.has "q" && code == 0) then
      match ← Act.readOperand input with
      | .error reason =>
          unless reason == .isADirectory && call.value? "d" == some "skip".toList do
            failed := true
            unless silent do
              Act.complain (input ++ ": ".toList ++ reason.words.toList)
      | .ok text =>
          let name :=
            if input == ['-'] then (call.value? "label").getD "(standard input)".toList else input
          let lines := search.run 1 0 most (linesOf text)
          let selected := lines.filter SearchedLine.isSelected
          unless selected.isEmpty do
            code := 0
          if call.has "q" then
            pure ()
          else if call.has "l" || call.has "L" then
            let isShown :=
              if call.last? ["l", "L"] == some "l" then !selected.isEmpty else selected.isEmpty
            if isShown then
              Act.printLine name
          else if call.has "c" then
            Act.printLine
              ((if report.names then name ++ [':'] else []) ++ (toString selected.length).toList)
          else if text.contains '\x00' && !call.has "a" && !call.has "z" then
            unless selected.isEmpty do
              Act.complain (name ++ ": binary file matches".toList)
          else
            Act.print (report.linesText search name none
              (shownLines report.before report.after lines))
  return if failed && !(call.has "q" && code == 0) then 2 else code

end Provision.Utilities
