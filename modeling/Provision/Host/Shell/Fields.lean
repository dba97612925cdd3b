import Provision.Host.Shell.Expand

namespace Provision.Shell

open Programs

/-!
# Fields

The arguments of a command are the fields of its words. Braces multiply a word
before it is expanded; a field that is a pattern becomes the names of the files
that match it, if there are any.
-/

/-- A part of a word as braces see it. -/
inductive BraceItem where
  | char (c : Char)
  | part (part : Part)

namespace BraceItem

/-- The items of a word. -/
def ofWord (word : Word) : List BraceItem :=
  word.flatMap fun
    | .plain text => text.map .char
    | other => [.part other]

/-- The word of items. -/
def toWord (items : List BraceItem) : Word :=
  joinParts (items.map fun
    | .char c => .plain [c]
    | .part found => found)

/-- Whether an item is a character. -/
def isChar (c : Char) : BraceItem → Bool
  | .char d => c == d
  | .part _ => false

/-- The text of items that are all characters. -/
def text? (items : List BraceItem) : Option Octets :=
  items.mapM fun
    | .char c => some c
    | .part _ => none

/-- Cut items at the closing brace, and what is in front of it at the commas. -/
def splitBraces : (depth : Nat) → (choice : List BraceItem) → List BraceItem →
    Option (List (List BraceItem) × List BraceItem)
  | _, _, [] => none
  | depth, choice, item :: rest =>
      if isChar '{' item then
        splitBraces (depth + 1) (item :: choice) rest
      else if isChar '}' item then
        match depth with
        | 0 => some ([choice.reverse], rest)
        | depth + 1 => splitBraces depth (item :: choice) rest
      else if isChar ',' item && depth == 0 then
        (splitBraces 0 [] rest).map fun (choices, rest) => (choice.reverse :: choices, rest)
      else
        splitBraces depth (item :: choice) rest

end BraceItem

/-- Cut a text at double dots. -/
def splitDots : Octets → List Octets
  | '.' :: '.' :: rest => [] :: splitDots rest
  | c :: rest =>
      match splitDots rest with
      | first :: others => (c :: first) :: others
      | [] => [[c]]
  | [] => [[]]

/-- The numbers from one to another in steps. -/
def numbersBetween (first last : Int) (step : Nat) : List Int :=
  let step := max step 1
  let count := (last - first).natAbs / step + 1
  (List.range count).map fun (index : Nat) =>
    if first ≤ last then first + index * step else first - index * step

/-- A number with zeros in front of it up to a width. -/
def paddedNumber (width : Nat) (number : Int) : Octets :=
  let digits := (toString number.natAbs).toList
  let sign := if number < 0 then ['-'] else []
  sign ++ List.replicate (width - sign.length - digits.length) '0' ++ digits

/-- Whether digits have a zero in front of them. -/
def hasLeadingZero (text : Octets) : Bool :=
  match text.dropWhile (· == '-') with
  | '0' :: _ :: _ => true
  | _ => false

/-- The texts of a sequence that braces write with dots. -/
def sequenceTexts? (text : Octets) : Option (List Octets) := do
  let (first, last, step) ←
    match splitDots text with
    | [first, last] => some (first, last, (1 : Int))
    | [first, last, step] => (plainNumber? step).map fun step => (first, last, step)
    | _ => none
  match plainNumber? first, plainNumber? last with
  | some start, some stop =>
      let padded := hasLeadingZero first || hasLeadingZero last
      let width := if padded then max first.length last.length else 0
      return (numbersBetween start stop step.natAbs).map (paddedNumber width)
  | _, _ =>
      match first, last with
      | [c], [d] =>
          if c.isAlpha && d.isAlpha then
            let numbers := numbersBetween c.toNat d.toNat step.natAbs
            return numbers.map fun number => [Char.ofNat number.toNat]
          else
            none
      | _, _ => none

/-- The words that a word with braces stands for. -/
def braceChoices : (fuel : Nat) → List BraceItem → List (List BraceItem)
  | 0, items => [items]
  | _ + 1, [] => [[]]
  | fuel + 1, item :: rest =>
      let next (front : List BraceItem) (rest : List BraceItem) : List (List BraceItem) :=
        (braceChoices fuel rest).map (front ++ ·)
      if BraceItem.isChar '{' item then
        match BraceItem.splitBraces 0 [] rest with
        | some ([single], behind) =>
            match (BraceItem.text? single).bind sequenceTexts? with
            | some texts =>
                let endings := braceChoices fuel behind
                texts.flatMap fun text =>
                  endings.map fun ending => text.map .char ++ ending
            | none => next [item] rest
        | some (choices, behind) =>
            let endings := braceChoices fuel behind
            choices.flatMap fun choice =>
              (braceChoices fuel choice).flatMap fun front =>
                endings.map (front ++ ·)
        | none => next [item] rest
      else
        next [item] rest

/-- The words that braces in a word multiply it to. -/
def expandBraces (word : Word) : List Word :=
  let items := BraceItem.ofWord word
  if items.any (BraceItem.isChar '{') then
    (braceChoices (items.length + 1) items).map BraceItem.toWord
  else
    [word]

/-- The text of a field, quotes removed. -/
def fieldText (field : List Glyph) : Octets :=
  Pattern.text field

/-- The text of a part of a path that is no pattern. -/
def unescapedText : List Glyph → Octets
  | [] => []
  | [glyph] => [glyph.char]
  | glyph :: next :: rest =>
      if Pattern.isActive '\\' glyph then
        next.char :: unescapedText rest
      else
        glyph.char :: unescapedText (next :: rest)

/-- Cut a field at its separators. -/
def splitPath : List Glyph → List (List Glyph)
  | [] => [[]]
  | glyph :: rest =>
      if glyph.char == '/' then
        [] :: splitPath rest
      else
        match splitPath rest with
        | first :: others => (glyph :: first) :: others
        | [] => [[glyph]]

/-- How names of files are matched. -/
structure NameStyle where
  pattern : PatternStyle
  /-- Whether a pattern may match the directory itself and the one above it. -/
  dots : Bool
  /-- Whether hidden files are matched without a dot in the pattern. -/
  hidden : Bool
  /-- Whether two stars match directories in any depth. -/
  deep : Bool

/-- The names in a directory that a pattern matches, in ascending order. -/
def matchingNames (style : NameStyle) (disk : Disk) (dir : Location) (directory : Octets)
    (glyphs : List Glyph) : List Octets :=
  let path := if directory.isEmpty then ['.'] else directory
  match disk.locate .followed dir (pathOf path) with
  | .error _ => []
  | .ok location =>
      match disk.node? location with
      | some .directory =>
          let names := (disk.names location).map nameOctets
          let names := if style.dots then [['.'], ['.', '.']] ++ names else names
          let pattern := Pattern.ofGlyphs style.pattern glyphs
          let showsHidden :=
            (glyphs.head?.map fun glyph => glyph.char == '.').getD false || style.hidden
          let found := names.filter fun name =>
            (showsHidden || name.head? != some '.') &&
              Pattern.«matches» style.pattern pattern name
          Octets.sort found
      | _ => []

/-- The directories below one, and itself, as beginnings of paths. -/
def directoriesBelow (disk : Disk) (dir : Location) : (depth : Nat) → Octets → List Octets
  | 0, _ => []
  | depth + 1, directory =>
      let path := if directory.isEmpty then ['.'] else directory
      match disk.locate .followed dir (pathOf path) with
      | .error _ => []
      | .ok location =>
          let names := (disk.names location).map nameOctets
          let names := names.filter fun name => name.head? != some '.'
          directory :: (Octets.sort names).flatMap fun name =>
            if disk.node? (location ++ [nameOf name]) == some .directory then
              directoriesBelow disk dir depth (directory ++ name ++ ['/'])
            else
              []

/-- The paths that a pattern matches behind a beginning that exists. -/
def matchingPaths (style : NameStyle) (disk : Disk) (dir : Location) :
    List (List Glyph) → Octets → List Octets
  | [], start => [start]
  | [last], start =>
      if Pattern.isSpecial style.pattern last then
        if style.deep && fieldText last == ['*', '*'] then
          (directoriesBelow disk dir 50 start).flatMap fun directory =>
            let names := matchingNames style disk dir directory [⟨'*', true⟩]
            (if directory.isEmpty then [] else [directory]) ++ names.map (directory ++ ·)
        else
          (matchingNames style disk dir start last).map (start ++ ·)
      else
        let path := start ++ unescapedText last
        let exists_ :=
          if last.isEmpty then
            disk.isDirectory dir (pathOf path)
          else
            (disk.locate .kept dir (pathOf path)).toOption.any fun location =>
              (disk.node? location).isSome
        if exists_ then [path] else []
  | piece :: rest, start =>
      if style.deep && fieldText piece == ['*', '*'] then
        (directoriesBelow disk dir 50 start).flatMap (matchingPaths style disk dir rest)
      else if Pattern.isSpecial style.pattern piece then
        (matchingNames style disk dir start piece).flatMap fun name =>
          let path := start ++ name
          if disk.isDirectory dir (pathOf path) then
            matchingPaths style disk dir rest (path ++ ['/'])
          else
            []
      else
        matchingPaths style disk dir rest (start ++ unescapedText piece ++ ['/'])

namespace Sh

/-- The names of files that a field matches, or its text. -/
def matchFiles (field : List Glyph) : Sh (List Octets) := do
  let state ← get
  let bash := state.dialect == .bash
  let has (feature : String) : Bool := state.features.contains feature
  let pattern ← patternStyle
  if state.flags.contains 'f' || !Pattern.isSpecial pattern field then
    return [fieldText field]
  else
    let style : NameStyle := {
      pattern := { pattern with folds := has "nocaseglob" }
      dots := !bash
      hidden := has "dotglob"
      deep := has "globstar" }
    let disk := state.system.disk
    let found := matchingPaths style disk state.process.directory (splitPath field) []
    if found.isEmpty then
      if has "nullglob" then
        return []
      else if has "failglob" then
        fail ("no match: ".toList ++ fieldText field)
      else
        return [fieldText field]
    else
      return Octets.sort found

/-- The fields of a word. -/
def wordFields (substitution : Substitution) (word : Word) : Sh (List Octets) := do
  let words := if ← isBash then expandBraces word else [word]
  let fields ← words.mapM fun word => do
    let word ← expandWordTildes word
    let pieces ← pieces substitution word
    return splitFields (← separators) pieces
  let names ← fields.flatten.mapM matchFiles
  return names.flatten

/-- The fields of words. -/
def wordsFields (substitution : Substitution) (words : List Word) : Sh (List Octets) := do
  return (← words.mapM (wordFields substitution)).flatten

end Sh

end Provision.Shell
