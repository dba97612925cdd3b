import Provision.Yaml.Cursor

namespace Provision.Yaml

/-!
# Reading scalars

Scalars are written plainly, between quotes, or as blocks. Where a scalar goes
over several lines, a single line break is folded into a space and further ones
are kept; a literal block keeps every break.
-/

/-- White space between two parts of a scalar. -/
structure Gap where
  /-- Blanks, as long as there is no line break. -/
  blanks : Text := []
  /-- Whether the line ended. -/
  broken : Bool := false
  firstBreak : Text := []
  moreBreaks : Text := []
  deriving Repr, DecidableEq

namespace Gap

/-- What a gap stands for in the value of a scalar. -/
def folded (gap : Gap) : Text :=
  if gap.broken then
    if gap.firstBreak == ['\n'] then
      if gap.moreBreaks.isEmpty then [' '] else gap.moreBreaks
    else
      gap.firstBreak ++ gap.moreBreaks
  else
    gap.blanks

/--
Read blanks and line breaks. A tab may not stand in the indentation of a line,
which is as wide as `indent` says.
-/
def readFrom (indent : Nat) : (fuel : Nat) → Gap → Cursor → Option (Gap × Cursor)
  | 0, gap, cursor => some (gap, cursor)
  | fuel + 1, gap, cursor =>
      match cursor.next with
      | none => some (gap, cursor)
      | some c =>
          if isBlank c then
            if gap.broken && cursor.column < indent && c == '\t' then
              none
            else if gap.broken then
              readFrom indent fuel gap (cursor.skip 1)
            else
              readFrom indent fuel { gap with blanks := gap.blanks ++ [c] } (cursor.skip 1)
          else if isBreak c then
            let (lineBreak, cursor) := cursor.readBreak
            if gap.broken then
              readFrom indent fuel
                { gap with moreBreaks := gap.moreBreaks ++ lineBreak } cursor
            else
              readFrom indent fuel { broken := true, firstBreak := lineBreak } cursor
          else
            some (gap, cursor)

/-- Read all blanks and line breaks that come next. -/
def read (indent : Nat) (gap : Gap) (cursor : Cursor) : Option (Gap × Cursor) :=
  readFrom indent cursor.rest.length gap cursor

end Gap

namespace Plain

/-- Characters that end a plain scalar between brackets. -/
def isFlowIndicator (c : Char) : Bool :=
  [',', '[', ']', '{', '}'].contains c

/--
How many characters of a plain scalar come next on the line. Between brackets, a
colon may not stand right before another indicator.
-/
def length? (inFlow : Bool) : Text → Option Nat
  | [] => some 0
  | c :: rest =>
      if isBlank c || isBreak c then
        some 0
      else if inFlow && c == ':' &&
          rest.head?.any (fun next => isFlowIndicator next || next == '?') then
        none
      else if (c == ':' && isGapNext rest.head?) || (inFlow && isFlowIndicator c) then
        some 0
      else
        (length? inFlow rest).map (· + 1)

/-- A plain scalar, whether a line ended behind it, and the place behind that. -/
def readFrom (inFlow : Bool) (indent : Nat) :
    (fuel : Nat) → Text → Gap → Cursor → Option (Text × Bool × Cursor)
  | 0, value, gap, cursor => some (value, gap.broken, cursor)
  | fuel + 1, value, gap, cursor => do
      if cursor.isAtDocumentMark || cursor.isAt '#' then
        return (value, gap.broken, cursor)
      let length ← length? inFlow cursor.rest
      if length == 0 then
        return (value, gap.broken, cursor)
      let value := value ++ gap.folded ++ cursor.rest.take length
      let (gap, cursor) ← Gap.read indent {} (cursor.skip length)
      if !inFlow && cursor.column < indent then
        return (value, gap.broken, cursor)
      readFrom inFlow indent fuel value gap cursor

/-- Read a plain scalar. -/
def read (inFlow : Bool) (indent : Nat) (cursor : Cursor) : Option (Text × Bool × Cursor) :=
  readFrom inFlow indent cursor.rest.length [] {} cursor

end Plain

namespace Quoted

/-- The quotes around a scalar. -/
inductive Style where
  | single
  | double
  deriving Repr, DecidableEq

/-- The character of a quote. -/
def Style.mark : Style → Char
  | single => '\''
  | double => '"'

/-- Value of a hexadecimal digit. -/
def hexDigit? (c : Char) : Option Nat :=
  if c.isDigit then some (c.toNat - '0'.toNat)
  else if 'a' ≤ c && c ≤ 'f' then some (c.toNat - 'a'.toNat + 10)
  else if 'A' ≤ c && c ≤ 'F' then some (c.toNat - 'A'.toNat + 10)
  else none

/-- Value of a number of hexadecimal digits at the front of a text. -/
def hexNumber? (digits : Nat) (text : Text) : Option Nat := do
  if text.length < digits then
    none
  else
    (text.take digits).foldlM (fun value c => do return value * 16 + (← hexDigit? c)) 0

/-- The character of a code point. -/
def charOf? (point : Nat) : Option Char :=
  if point < 0xD800 || (0xE000 ≤ point && point ≤ 0x10FFFF) then
    some (Char.ofNat point)
  else
    none

/-- Escapes of a single character. -/
def namedEscape? (c : Char) : Option Char :=
  [('0', '\x00'), ('a', '\x07'), ('b', '\x08'), ('t', '\t'), ('\t', '\t'), ('n', '\n'),
    ('v', '\x0b'), ('f', '\x0c'), ('r', '\r'), ('e', '\x1b'), (' ', ' '), ('"', '"'),
    ('/', '/'), ('\\', '\\'), ('N', '\u0085'), ('_', '\u00a0'), ('L', '\u2028'),
    ('P', '\u2029')].lookup c

/-- How many digits follow the letter of an escape by number. -/
def escapeDigits? (c : Char) : Option Nat :=
  [('x', 2), ('u', 4), ('U', 8)].lookup c

/-- The character of the escape behind a backslash, and the length of the escape. -/
def escape? : Text → Option (Char × Nat)
  | [] => none
  | c :: rest =>
      match escapeDigits? c with
      | some digits => do
          let point ← hexNumber? digits rest
          return (← charOf? point, digits + 1)
      | none => (namedEscape? c).map (·, 1)

/--
Read up to the next blank, line break or closing quote. The flag tells that a
backslash joined the line to the next one.
-/
def readWord (style : Style) :
    (fuel : Nat) → Text → Cursor → Option (Text × Bool × Cursor)
  | 0, word, cursor => some (word, false, cursor)
  | fuel + 1, word, cursor =>
      match cursor.next with
      | none => some (word, false, cursor)
      | some c =>
          if isBlank c || isBreak c then
            some (word, false, cursor)
          else if style == .single && c == '\'' && cursor.ahead 1 == some '\'' then
            readWord style fuel (word ++ ['\'']) (cursor.skip 2)
          else if c == style.mark then
            some (word, false, cursor)
          else if style == .double && c == '\\' then
            if (cursor.ahead 1).any isBreak then
              some (word, true, (cursor.skip 1).skipBreak)
            else do
              let (escaped, length) ← escape? (cursor.rest.drop 1)
              readWord style fuel (word ++ [escaped]) (cursor.skip (length + 1))
          else
            readWord style fuel (word ++ [c]) (cursor.skip 1)

/-- Read on to the closing quote. -/
def readFrom (style : Style) : (fuel : Nat) → Text → Cursor → Option (Text × Cursor)
  | 0, _, _ => none
  | fuel + 1, value, cursor => do
      if cursor.isAtDocumentMark || cursor.next.isNone then
        none
      else
        let (word, joined, cursor) ← readWord style cursor.rest.length [] cursor
        if cursor.isAt style.mark then
          return (value ++ word, cursor.skip 1)
        let (gap, cursor) ← Gap.read 0 { broken := joined } cursor
        readFrom style fuel (value ++ word ++ gap.folded) cursor

/-- Read a quoted scalar from its opening quote on. -/
def read (style : Style) (cursor : Cursor) : Option (Text × Cursor) :=
  readFrom style (cursor.rest.length + 1) [] (cursor.skip 1)

end Quoted

namespace Block

/-- What becomes of the line breaks at the end of a block. -/
inductive Chomping where
  /-- The last line keeps its break. -/
  | clip
  | strip
  | keep
  deriving Repr, DecidableEq

/-- What stands behind the indicator of a block. -/
structure Header where
  chomping : Chomping := .clip
  /-- How much deeper than its parent the block is indented, if that is said. -/
  increment : Option Nat := none
  deriving Repr, DecidableEq

/-- The chomping that a character asks for. -/
def chomping? : Char → Option Chomping
  | '+' => some .keep
  | '-' => some .strip
  | _ => none

/-- Read the indentation of a block; zero is none. -/
def readIncrement (header : Header) (cursor : Cursor) : Option (Header × Cursor) :=
  match cursor.next with
  | some c =>
      if c.isDigit then
        if c == '0' then
          none
        else
          some ({ header with increment := some (c.toNat - '0'.toNat) }, cursor.skip 1)
      else
        some (header, cursor)
  | none => some (header, cursor)

/-- Read the chomping of a block. -/
def readChomping (header : Header) (cursor : Cursor) : Header × Cursor :=
  match cursor.next.bind chomping? with
  | some chomping => ({ header with chomping := chomping }, cursor.skip 1)
  | none => (header, cursor)

/-- Read both, in either order, and the rest of the line, which may be a comment. -/
def readHeader (cursor : Cursor) : Option (Header × Cursor) := do
  let (header, cursor) := readChomping {} cursor
  let (header, cursor) ← readIncrement header cursor
  let (header, cursor) :=
    if header.chomping == .clip then readChomping header cursor else (header, cursor)
  let cursor := cursor.skipWhile isBlank
  let cursor := if cursor.isAt '#' then cursor.skipToBreak else cursor
  if isLineOver cursor.next then
    return (header, cursor.skipBreak)
  else
    none

/--
Read empty lines and the indentation of the next line, which is at most as wide
as `indent` says if that is not zero. Answers the widest indentation.
-/
def readBreaksFrom (indent : Nat) :
    (fuel : Nat) → Nat → Text → Cursor → Option (Nat × Text × Cursor)
  | 0, widest, breaks, cursor => some (widest, breaks, cursor)
  | fuel + 1, widest, breaks, cursor =>
      let blanks := cursor.rest.takeWhile (· == ' ')
      let width := if indent == 0 then blanks.length else min blanks.length (indent - cursor.column)
      let cursor := cursor.skip width
      let widest := max widest cursor.column
      if (indent == 0 || cursor.column < indent) && cursor.isAt '\t' then
        none
      else if cursor.next.any isBreak then
        let (lineBreak, cursor) := cursor.readBreak
        readBreaksFrom indent fuel widest (breaks ++ lineBreak) cursor
      else
        some (widest, breaks, cursor)

/-- Read empty lines and the indentation of the next line. -/
def readBreaks (indent : Nat) (cursor : Cursor) : Option (Nat × Text × Cursor) :=
  readBreaksFrom indent (cursor.rest.length + 1) 0 [] cursor

/-- A block that is being read. -/
structure Progress where
  value : Text := []
  /-- The break of the last line. -/
  lastBreak : Text := []
  /-- Breaks of the empty lines behind it. -/
  emptyLines : Text := []
  /-- Whether the last line started with a blank. -/
  startedBlank : Bool := false
  deriving Repr, DecidableEq

/-- The value up to a next line, which starts with a blank or not. -/
def Progress.joined (progress : Progress) (literal startsBlank : Bool) : Text :=
  let folds :=
    !literal && progress.lastBreak == ['\n'] && !progress.startedBlank && !startsBlank
  let lineBreak :=
    if folds then
      if progress.emptyLines.isEmpty then [' '] else []
    else
      progress.lastBreak
  progress.value ++ lineBreak ++ progress.emptyLines

/-- Read the lines of a block. -/
def readLines (literal : Bool) (indent : Nat) :
    (fuel : Nat) → Progress → Cursor → Option (Progress × Cursor)
  | 0, progress, cursor => some (progress, cursor)
  | fuel + 1, progress, cursor =>
      if cursor.column == indent && cursor.next.isSome then do
        let startsBlank := cursor.next.any isBlank
        let value := progress.joined literal startsBlank
        let (line, cursor) := cursor.takeWhile fun c => !isBreak c
        let (lastBreak, cursor) := cursor.readBreak
        let (_, emptyLines, cursor) ← readBreaks indent cursor
        readLines literal indent fuel ⟨value ++ line, lastBreak, emptyLines, startsBlank⟩ cursor
      else
        some (progress, cursor)

/-- The value of a block that was read to its end. -/
def Progress.finish (progress : Progress) : Chomping → Text
  | .strip => progress.value
  | .clip => progress.value ++ progress.lastBreak
  | .keep => progress.value ++ progress.lastBreak ++ progress.emptyLines

/--
Read a block from its indicator on. Its parent is indented as `parent` says, or
not at all.
-/
def read (literal : Bool) (parent : Option Nat) (cursor : Cursor) : Option (Text × Cursor) := do
  let (header, cursor) ← readHeader (cursor.skip 1)
  let said := header.increment.map (parent.getD 0 + ·)
  let (widest, emptyLines, cursor) ← readBreaks (said.getD 0) cursor
  let least := (parent.map (· + 1)).getD 0
  let indent := said.getD (max (max widest least) 1)
  let (progress, cursor) ←
    readLines literal indent (cursor.rest.length + 1) { emptyLines := emptyLines } cursor
  return (progress.finish header.chomping, cursor)

end Block

end Provision.Yaml
