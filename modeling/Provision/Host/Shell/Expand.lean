import Provision.Host.Shell.Arithmetic
import Provision.Host.Shell.Pattern

namespace Provision.Shell

open Programs

/-!
# Expanding words

A word becomes characters that know where they come from. Characters that were
substituted may separate fields, and characters that are not quoted may make a
field the pattern of file names. At the end a field is the text of its
characters.
-/

/-- Where a character of a field comes from. -/
inductive Origin where
  | written
  | substituted
  | quoted
  deriving Repr, DecidableEq

/-- A piece of an expanded word. -/
inductive Piece where
  | char (c : Char) (origin : Origin)
  /-- Quotes around nothing, which are a field all the same. -/
  | nothing
  /-- The end of a field; the text stands for it where there are no fields. -/
  | cut (joint : Octets)
  deriving Repr, DecidableEq

/-- How substituted commands are run. -/
structure Substitution where
  /-- What a command prints. -/
  output : Command → Sh Octets
  /-- What the commands of a text print. -/
  lateOutput : Octets → Sh Octets
  /-- A file name that stands for a command that is read or written. -/
  channel : (reads : Bool) → Command → Sh Octets

/-- What surrounds a part of a word. -/
structure Surroundings where
  quoted : Bool := false
  /-- Whether the part stands in a substitution. -/
  inner : Bool := false
  deriving Repr, DecidableEq

/-- The origin of characters that a script writes. -/
def Surroundings.origin (surroundings : Surroundings) : Origin :=
  if surroundings.quoted then .quoted
  else if surroundings.inner then .substituted
  else .written

/-- What a parameter stands for. -/
inductive Found where
  | missing
  | one (text : Octets)
  /-- Several texts, to be joined in quotes or not. -/
  | several (texts : List Octets) (joined : Bool)
  deriving Repr, DecidableEq

namespace Found

/-- Change each text. -/
def map (change : Octets → Octets) : Found → Found
  | .missing => .missing
  | .one text => .one (change text)
  | .several texts joined => .several (texts.map change) joined

/-- Whether there is nothing, or only empty text where that counts. -/
def isUnset (ifEmpty : Bool) : Found → Bool
  | .missing => true
  | .one text => ifEmpty && text.isEmpty
  | .several texts _ => texts.isEmpty || (ifEmpty && texts.all List.isEmpty)

end Found

namespace Piece

/-- Characters with an origin. -/
def chars (origin : Origin) (text : Octets) : List Piece :=
  text.map fun c => .char c origin

/-- The text of pieces that are one field. -/
def text (pieces : List Piece) : Octets :=
  pieces.flatMap fun
    | .char c _ => [c]
    | .nothing => []
    | .cut joint => joint

/-- The characters of pieces that are one pattern. -/
def glyphs (pieces : List Piece) : List Glyph :=
  pieces.flatMap fun
    | .char c origin => [⟨c, origin != .quoted⟩]
    | .nothing => []
    | .cut joint => Pattern.quotedGlyphs joint

end Piece

/-- A field that is being put together. -/
structure FieldDraft where
  glyphs : List Glyph := []
  started : Bool := false
  /-- Whether blanks have just ended a field. -/
  behindBlanks : Bool := false
  done : List (List Glyph) := []

namespace FieldDraft

/-- End the field, if there is one. -/
def close (draft : FieldDraft) : FieldDraft :=
  if draft.started then
    { draft with
      glyphs := []
      started := false
      done := draft.glyphs.reverse :: draft.done }
  else
    draft

/-- Add a piece, where some characters separate fields. -/
def add (separators : Octets) (draft : FieldDraft) : Piece → FieldDraft
  | .cut _ => { draft.close with behindBlanks := false }
  | .nothing => { draft with started := true, behindBlanks := false }
  | .char c origin =>
      if origin == .substituted && separators.contains c then
        if c == ' ' || c == '\t' || c == '\n' then
          if draft.started then
            { draft.close with behindBlanks := true }
          else
            draft
        else if draft.behindBlanks then
          { draft with behindBlanks := false }
        else
          { draft with started := true, behindBlanks := false }.close
      else
        { draft with
          glyphs := ⟨c, origin != .quoted⟩ :: draft.glyphs
          started := true
          behindBlanks := false }

end FieldDraft

/-- Cut pieces into fields. -/
def splitFields (separators : Octets) (pieces : List Piece) : List (List Glyph) :=
  (pieces.foldl (FieldDraft.add separators) {}).close.done.reverse

/-- Put something between the parts of a list, and join them. -/
def joinedWith (between : List α) : List (List α) → List α
  | [] => []
  | [last] => last
  | first :: rest => first ++ between ++ joinedWith between rest

/-- Whether a part stands for all arguments or elements. -/
def standsForAll : Part → Bool
  | .parameter ['@'] .whole _ => true
  | .parameter _ .all _ => true
  | _ => false

/-- Whether a part is a parameter. -/
def isParameter : Part → Bool
  | .parameter .. => true
  | _ => false

/-- A text in single quotes, whose quotes are written in double quotes. -/
def shellQuoted (text : Octets) : Octets :=
  '\'' :: (text.flatMap fun c => if c == '\'' then "'\\''".toList else [c]) ++ ['\'']

/-- Replace what matches a pattern. -/
def replaceMatches (style : PatternStyle) (pattern : List PatternItem)
    (replacement : Octets → Octets) (everywhere : Bool) : (fuel : Nat) → Octets → Octets
  | 0, text => text
  | fuel + 1, text =>
      match (Pattern.beginnings style pattern text).getLast? with
      | some 0 | none =>
          match text with
          | [] => []
          | c :: rest => c :: replaceMatches style pattern replacement everywhere fuel rest
      | some count =>
          let found := replacement (text.take count)
          let rest := text.drop count
          if everywhere then
            found ++ replaceMatches style pattern replacement everywhere fuel rest
          else
            found ++ rest

namespace Sh

/-- How patterns are read in a dialect. -/
def patternStyle : Sh PatternStyle := do
  let state ← get
  return {
    extendedSets := state.dialect == .bash
    groups := state.features.contains "extglob"
    folds := false }

/-- The home directory that a name in front of a path means, if it means one. -/
def homeOf (name : Octets) : Sh (Option Octets) := do
  let bash ← isBash
  match String.ofList name with
  | "" =>
      match ← setting? "HOME" with
      | some home => return some home
      | none => return if bash then some "/root".toList else none
  | "root" => return some "/root".toList
  | "+" => if bash then setting? "PWD" else return none
  | "-" => if bash then setting? "OLDPWD" else return none
  | _ => return none

/-- Expand the tilde in front of a text that ends a word or not. -/
def expandTilde (ends : List Char) (isLast : Bool) (text : Octets) : Sh (List Part) := do
  match text with
  | '~' :: rest =>
      let name := rest.takeWhile fun c => !ends.contains c
      let behind := rest.drop name.length
      if behind.isEmpty && !isLast then
        return [.plain text]
      else
        match ← homeOf name with
        | some home =>
            return .literal home :: (if behind.isEmpty then [] else [.plain behind])
        | none => return [.plain text]
  | text => return [.plain text]

/-- Expand the tilde in front of a word. -/
def expandLeadingTilde : Word → Sh Word
  | .plain text :: rest => do
      return (← expandTilde ['/'] rest.isEmpty text) ++ rest
  | word => return word

/-- Expand tildes in front of the entries of a value. -/
def expandEntryTildes (isFirst : Bool) : Word → Sh Word
  | [] => return []
  | .plain text :: rest => do
      let entries := Text.splitOn ':' text
      let count := entries.length
      let pieces ← (entries.zip (List.range count)).mapM fun (entry, index) => do
        let isLast := index + 1 < count || rest.isEmpty
        let expanded ←
          if index == 0 && !isFirst then pure [Part.plain entry]
          else expandTilde ['/'] isLast entry
        return if index == 0 then expanded else .plain [':'] :: expanded
      return pieces.flatten ++ (← expandEntryTildes false rest)
  | part :: rest => do
      return part :: (← expandEntryTildes false rest)

/-- Expand the tildes of a word; what looks like an assignment is one to the large shell. -/
def expandWordTildes (word : Word) : Sh Word := do
  let front? ←
    match word with
    | .plain text :: rest =>
        if ← isBash then
          pure ((splitAtSign '=' text).map fun (front, behind) => (front, behind, rest))
        else
          pure none
    | _ => pure none
  match front? with
  | some (front, behind, rest) =>
      if isName front then
        return .plain (front ++ ['=']) :: (← expandEntryTildes true (.plain behind :: rest))
      else
        expandLeadingTilde word
  | none => expandLeadingTilde word

/-- Complain about a parameter that is not set. -/
def failUnset (name : Octets) : Sh α := do
  match ← dialect with
  | .dash => fail (name ++ ": parameter not set".toList)
  | .bash =>
      let shown := if isName name then name else '$' :: name
      complain (shown ++ ": unbound variable".toList)
      jump (.exit (if (← get).features.contains "fromArgument" then 127 else 1))

/-- The arguments from a place on, the name of the script counted as the first. -/
def numberedArguments : Sh (List Octets) := do
  let state ← get
  return state.name :: state.arguments

/-- What a parameter stands for; `index` calculates subscripts. -/
def find (index : List Part → Sh Octets) (name : Octets) (subscript : Subscript) : Sh Found := do
  let state ← get
  let ofOption (text? : Option Octets) : Found :=
    match text? with
    | some text => .one text
    | none => .missing
  let value : Sh Value := do
    if name == "PIPESTATUS".toList && state.dialect == .bash then
      let texts := state.statuses.map fun (status : Nat) => decimal status
      return .list ((List.range texts.length).zip texts)
    else if name == "FUNCNAME".toList && state.dialect == .bash then
      return .list ((List.range state.callers.length).zip state.callers)
    else
      let name ← target name referenceLimit
      return ((state.bindings.lookup name).map Variable.value).getD .unset
  match name, subscript with
  | ['@'], _ => return .several state.arguments false
  | ['*'], _ => return .several state.arguments true
  | name, .whole =>
      if isName name then return ofOption (← value? name) else return ofOption (← special? name)
  | _, .all => return .several (← value).elements false
  | _, .joined => return .several (← value).elements true
  | name, .element parts =>
      let text ← index parts
      match ← value with
      | .table entries => return ofOption (entries.lookup text)
      | held =>
          match ← elementIndex name (← evaluate text) with
          | some number => return ofOption (held.numbered.lookup number)
          | none => return .missing

/-- The pieces that a found value becomes. -/
def piecesOf (surroundings : Surroundings) (found : Found) : Sh (List Piece) := do
  let origin : Origin := if surroundings.quoted then .quoted else .substituted
  let bash ← isBash
  let joint ← joint
  let single (text : Octets) : List Piece :=
    if text.isEmpty && surroundings.quoted then [.nothing] else Piece.chars origin text
  match found with
  | .missing => return []
  | .one text => return Piece.chars origin text
  | .several texts joined =>
      if surroundings.quoted && joined then
        return Piece.chars .quoted (joinedWith joint texts)
      else
        let between : List Piece :=
          match joint with
          | [c] =>
              if bash && !surroundings.quoted && !Matching.CharacterClass.isSpace c then
                [.char c .substituted]
              else
                [.cut (if bash && !joined then [' '] else joint)]
          | _ => [.cut (if bash && !joined then [' '] else joint)]
        return joinedWith between (texts.map single)

/-- The characters from an offset on, as many as a length tells. -/
def sliced (items : List α) (start : Int) (length : Option Int) : Option (List α) :=
  let size : Int := items.length
  let start := if start < 0 then size + start else start
  if start < 0 || size < start then
    some []
  else
    match length with
    | none => some (items.drop start.toNat)
    | some length =>
        if length < 0 then
          let stop := size + length
          if stop < start then none else some ((items.take stop.toNat).drop start.toNat)
        else
          some ((items.drop start.toNat).take length.toNat)

/-- Change the case of the letters that match a pattern. -/
def changedCase (style : PatternStyle) (change : CaseChange) (every : Bool)
    (pattern : List PatternItem) (text : Octets) : Octets :=
  let changed (c : Char) : Char :=
    if pattern.isEmpty || Pattern.«matches» style pattern [c] then change.apply c else c
  match text with
  | [] => []
  | c :: rest => if every then (c :: rest).map changed else changed c :: rest

/-- The replacement of a match, in which a sign may stand for the match. -/
def replacementFor (pieces : List Piece) (found : Octets) : Octets :=
  pieces.flatMap fun
    | .char c origin => if c == '&' && origin != .quoted then found else [c]
    | .nothing => []
    | .cut joint => joint

/-- What a value becomes in a form. -/
def transformed (form : Char) (text : Octets) : Octets :=
  match form with
  | 'U' => text.map Char.toUpper
  | 'L' => text.map Char.toLower
  | 'u' =>
      match text with
      | c :: rest => c.toUpper :: rest
      | [] => []
  | 'Q' => shellQuoted text
  | 'E' => unescaped (text.length + 1) text
  | _ => text

/-- The letters of the attributes of a variable. -/
def attributeLetters (name : Octets) : Sh Octets := do
  match (← get).bindings.lookup name with
  | none => return []
  | some held =>
      let kind :=
        match held.value with
        | .list _ => ['a']
        | .table _ => ['A']
        | _ => []
      return kind ++ (if held.integer then ['i'] else []) ++
        (if held.readOnly then ['r'] else []) ++ (if held.exported then ['x'] else [])

mutual

/-- Expand parts of a word. -/
def expandParts (substitution : Substitution) :
    (fuel : Nat) → Surroundings → List Part → Sh (List Piece)
  | 0, _, _ => return []
  | fuel + 1, surroundings, parts => do
      let pieces ← parts.mapM (expandPart substitution fuel surroundings)
      return pieces.flatten

/-- Expand a part of a word. -/
def expandPart (substitution : Substitution) :
    (fuel : Nat) → Surroundings → Part → Sh (List Piece)
  | 0, _, _ => return []
  | fuel + 1, surroundings, part => do
      let substituted (text : Octets) : List Piece :=
        Piece.chars (if surroundings.quoted then .quoted else .substituted) text
      match part with
      | .plain text => return Piece.chars surroundings.origin text
      | .literal text => return Piece.chars .quoted text
      | .quoted parts =>
          let pieces ← expandParts substitution fuel { surroundings with quoted := true } parts
          if pieces.isEmpty then
            let vanishes :=
              match ← dialect, parts with
              | .dash, [.parameter ['@'] .whole .value] => true
              | .dash, _ => false
              | .bash, parts => parts.any standsForAll && parts.all isParameter
            return if vanishes then [] else [.nothing]
          else
            return pieces
      | .parameter name subscript operation =>
          expandParameter substitution fuel surroundings name subscript operation
      | .output body => return substituted (← substitution.output body)
      | .lateOutput source => return substituted (← substitution.lateOutput source)
      | .arithmetic expression =>
          let text ← textOf substitution fuel expression
          return substituted (decimal (← evaluate text))
      | .channel reads body => return Piece.chars .quoted (← substitution.channel reads body)
      | .patterns sign choices =>
          let choices ← choices.mapM (expandParts substitution fuel surroundings)
          let bar : List Piece := [.char '|' .written]
          return .char sign .written :: .char '(' .written ::
            joinedWith bar choices ++ [.char ')' .written]
      | .element name index adds =>
          let index ← textOf substitution fuel index
          let sign := if adds then "]+=".toList else "]=".toList
          return Piece.chars .written (name ++ ['['] ++ index ++ sign)
      | .elements _ => return Piece.chars .written ['(', ')']

/-- The text of parts, without fields. -/
def textOf (substitution : Substitution) : (fuel : Nat) → List Part → Sh Octets
  | 0, _ => return []
  | fuel + 1, parts => do
      return Piece.text (← expandParts substitution fuel { quoted := true } parts)

/-- The pattern that parts write. -/
def patternOf (substitution : Substitution) (style : PatternStyle) :
    (fuel : Nat) → List Part → Sh (List PatternItem)
  | 0, _ => return []
  | fuel + 1, parts => do
      let pieces ← expandParts substitution fuel {} parts
      return Pattern.ofGlyphs style (Piece.glyphs pieces)

/-- Expand a parameter. -/
def expandParameter (substitution : Substitution) :
    (fuel : Nat) → Surroundings → Octets → Subscript → Operation → Sh (List Piece)
  | 0, _, _, _, _ => return []
  | fuel + 1, surroundings, name, subscript, operation => do
      let style ← patternStyle
      let bash ← isBash
      let found ← find (textOf substitution fuel) name subscript
      let word (parts : List Part) : Sh (List Piece) := do
        let parts ← if surroundings.quoted then pure parts else expandLeadingTilde parts
        let inside : Surroundings := { surroundings with inner := true }
        let pieces ← expandParts substitution fuel inside parts
        return pieces
      let required : Sh Unit := do
        if (← hasFlag 'u') && (found matches .missing) then
          failUnset name
      match operation with
      | .bad written =>
          if bash then
            fail (written ++ ": bad substitution".toList)
          else
            fail "Bad substitution".toList
      | .value =>
          required
          piecesOf surroundings found
      | .length =>
          required
          let count ←
            match found with
            | .missing => pure 0
            | .one text => pure text.length
            | .several texts _ =>
                if bash then pure texts.length else do
                  pure (joinedWith (← joint) texts).length
          piecesOf surroundings (.one (decimal count))
      | .default ifEmpty parts =>
          if found.isUnset ifEmpty then word parts else piecesOf surroundings found
      | .alternative ifEmpty parts =>
          if found.isUnset ifEmpty then
            return []
          else
            word parts
      | .assign ifEmpty parts =>
          if found.isUnset ifEmpty then
            let parts ← if surroundings.quoted then pure parts else expandLeadingTilde parts
            let text := Piece.text (← expandParts substitution fuel surroundings parts)
            if !isName name then
              if bash then
                fail ('$' :: name ++ ": cannot assign in this way".toList)
              else
                fail (name ++ ": bad variable name".toList)
            else
              match subscript with
              | .element parts =>
                  let index ← textOf substitution fuel parts
                  if ← isTable name then
                    assignKey name index text
                  else
                    match ← elementIndex name (← evaluate index) with
                    | some number => assignElement name number text
                    | none => pure ()
              | _ => assign name text
              piecesOf surroundings (.one text)
          else
            piecesOf surroundings found
      | .demand ifEmpty parts =>
          if found.isUnset ifEmpty then
            let text := Piece.text (← expandParts substitution fuel surroundings parts)
            let text :=
              if !parts.isEmpty then text
              else if bash then
                if ifEmpty then "parameter null or not set".toList
                else "parameter not set".toList
              else if ifEmpty then "parameter not set or null".toList
              else "parameter not set".toList
            let message := name ++ ": ".toList ++ text
            if bash then
              complain message
              jump (.exit (if (← get).features.contains "fromArgument" then 127 else 1))
            else
              fail message
          else
            piecesOf surroundings found
      | .dropStart longest parts =>
          required
          let pattern ← patternOf substitution style fuel parts
          let cut (text : Octets) : Octets :=
            let counts := Pattern.beginnings style pattern text
            match if longest then counts.getLast? else counts.head? with
            | some count => text.drop count
            | none => text
          piecesOf surroundings (found.map cut)
      | .dropEnd longest parts =>
          required
          let pattern ← patternOf substitution style fuel parts
          let cut (text : Octets) : Octets :=
            let counts := Pattern.endings style pattern text
            match if longest then counts.head? else counts.getLast? with
            | some count => text.take count
            | none => text
          piecesOf surroundings (found.map cut)
      | .slice start length =>
          required
          let start ← evaluate (← textOf substitution fuel start)
          let length ←
            match length with
            | some length => do
                pure (some (← evaluate (← textOf substitution fuel length)))
            | none => pure none
          let tooShort : Sh (List Piece) :=
            fail (decimal (length.getD 0) ++ ": substring expression < 0".toList)
          match found with
          | .missing => return []
          | .one text =>
              match sliced text start length with
              | some text => piecesOf surroundings (.one text)
              | none => tooShort
          | .several texts joined =>
              let texts ←
                if name == ['@'] || name == ['*'] then
                  if start == 0 then numberedArguments
                  else if start < 0 then numberedArguments
                  else do pure ((← get).name :: texts)
                else
                  pure texts
              match sliced texts start length with
              | some texts => piecesOf surroundings (.several texts joined)
              | none => tooShort
      | .replace place pattern replacement =>
          required
          let pattern ← patternOf substitution style fuel pattern
          let replacement ← expandParts substitution fuel {} replacement
          let put := replacementFor replacement
          let change (text : Octets) : Octets :=
            let steps := text.length + 1
            match place with
            | .first => replaceMatches style pattern put false steps text
            | .everywhere => replaceMatches style pattern put true steps text
            | .atStart =>
                match (Pattern.beginnings style pattern text).getLast? with
                | some count => put (text.take count) ++ text.drop count
                | none => text
            | .atEnd =>
                match (Pattern.endings style pattern text).head? with
                | some count => text.take count ++ put (text.drop count)
                | none => text
          piecesOf surroundings (found.map change)
      | .changeCase change every pattern =>
          required
          let pattern ← patternOf substitution style fuel pattern
          piecesOf surroundings (found.map (changedCase style change every pattern))
      | .transform form =>
          required
          if form == 'a' then
            piecesOf surroundings (.one (← attributeLetters name))
          else
            piecesOf surroundings (found.map (transformed form))
      | .indirect operation =>
          match found with
          | .one text =>
              let name := text.takeWhile (· != '[')
              let index := (text.drop (name.length + 1)).takeWhile (· != ']')
              let subscript : Subscript :=
                if name.length == text.length then .whole
                else if index == ['@'] then .all
                else if index == ['*'] then .joined
                else .element [.literal index]
              expandParameter substitution fuel surroundings name subscript operation
          | _ =>
              match operation with
              | .value => fail (name ++ ": invalid indirect expansion".toList)
              | operation => expandParameter substitution fuel surroundings [] .whole operation
      | .names joined =>
          let names := (← get).bindings.filterMap fun entry =>
            if name.isPrefixOf entry.1 && entry.2.value != .unset then some entry.1 else none
          piecesOf surroundings (.several (Octets.sort names) joined)
      | .keys joined =>
          let name ← target name referenceLimit
          let held := ((← get).bindings.lookup name).getD {}
          piecesOf surroundings (.several held.value.keys joined)

end

/-- How deep words may stand in each other. -/
def wordDepth : Nat := 500

/-- Expand a word to pieces. -/
def pieces (substitution : Substitution) (word : Word) : Sh (List Piece) :=
  expandParts substitution wordDepth {} word

/-- The text of a word, without fields. -/
def wordText (substitution : Substitution) (word : Word) : Sh Octets := do
  return Piece.text (← pieces substitution (← expandLeadingTilde word))

/-- The text of a value that is assigned. -/
def valueText (substitution : Substitution) (word : Word) : Sh Octets := do
  return Piece.text (← pieces substitution (← expandEntryTildes true word))

/-- The text of a word that stands in quotes. -/
def quotedText (substitution : Substitution) (word : Word) : Sh Octets :=
  textOf substitution wordDepth word

/-- The pattern of a word. -/
def wordPattern (substitution : Substitution) (word : Word) : Sh (List PatternItem) := do
  let word ← expandLeadingTilde word
  patternOf substitution (← patternStyle) wordDepth word

end Sh

end Provision.Shell
