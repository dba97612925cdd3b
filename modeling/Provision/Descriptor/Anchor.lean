import Provision.Text.Basic
import Provision.Unicode.Classes

namespace Provision.Descriptor

/-!
# Finding commands in a build descriptor

Keywords, matching delimiters and whole calls, all found outside strings and
comments. Nothing here knows which commands exist: callers give the keyword and
the delimiters. Places are byte offsets.

## Lexical states

A build descriptor has three kinds of places: code, double-quoted strings with
backslash escapes, and comments from `#` to the end of the line. Reading a text
from its start gives every character the state it is met in; a character is
live when it is met in code and opens neither a string nor a comment.
-/

/-- Where a reader of a build descriptor stands between two characters. -/
inductive LexicalState where
  | code
  | string
  /-- In a string, right after a backslash. -/
  | escaped
  | comment
  deriving Repr, DecidableEq

namespace LexicalState

/-- The state after reading one character. -/
def step : LexicalState → Char → LexicalState
  | code, c => if c = '"' then string else if c = '#' then comment else code
  | string, c => if c = '\\' then escaped else if c = '"' then code else string
  | escaped, _ => string
  | comment, c => if c = '\n' then code else comment

/-- The state after reading a text. -/
def run (state : LexicalState) (text : Text) : LexicalState :=
  text.foldl step state

/-- Whether a character met in a state is part of the code. -/
def isLive (state : LexicalState) (c : Char) : Bool :=
  state == code && c != '"' && c != '#'

end LexicalState

/-! ## Keywords and calls -/

/-- Characters that continue an identifier. -/
def isIdentifierChar (c : Char) : Bool :=
  Unicode.isAlphanumeric c || c == '_'

/-- Whether no identifier runs on across a place with these two neighbours. -/
def standsAlone (before after : Option Char) : Bool :=
  !before.any isIdentifierChar && !after.any isIdentifierChar

/-- Whether a keyword opens a text and is not part of a longer identifier. -/
def opensWith (keyword : Text) (before : Option Char) (text : Text) : Bool :=
  keyword.isPrefixOf text &&
    standsAlone before (text.drop keyword.length).head?

/--
Offsets of the live keywords in `text`, which starts at `offset` after the
character `before`. No keyword starts before `free`, the end of the last one.
-/
def keywordStartsFrom
    (keyword : Text)
    (state : LexicalState)
    (before : Option Char)
    (offset free : Nat) :
    Text → List Nat
  | [] => []
  | c :: rest =>
      let next := offset + c.utf8Size
      if state.isLive c && free ≤ offset && opensWith keyword before (c :: rest) then
        offset ::
          keywordStartsFrom keyword (state.step c) (some c) next
            (offset + keyword.byteLength) rest
      else
        keywordStartsFrom keyword (state.step c) (some c) next free rest

/--
Offsets of every keyword that stands alone in code. An empty keyword stands
nowhere.
-/
def keywordStarts (text keyword : Text) : List Nat :=
  if keyword.isEmpty then
    []
  else
    keywordStartsFrom keyword .code none 0 0 text

/-- Offset of the last keyword that stands alone in code. -/
def findLast? (text keyword : Text) : Option Nat :=
  (keywordStarts text keyword).getLast?

/--
Offset of the live `close` that balances the first live `opening` of `text`,
with `depth` of them open where `text` starts, at `offset`.
-/
def closingDelimiterFrom?
    (opening close : Char)
    (state : LexicalState)
    (depth offset : Nat) :
    Text → Option Nat
  | [] => none
  | c :: rest =>
      let next := offset + c.utf8Size
      let onward (depth : Nat) :=
        closingDelimiterFrom? opening close (state.step c) depth next rest
      if !state.isLive c then
        onward depth
      else if c = opening then
        onward (depth + 1)
      else if c = close then
        match depth with
        | 0 => onward 0
        | 1 => some offset
        | inner + 2 => onward (inner + 1)
      else
        onward depth

/--
Offset of the `close` that balances the first `opening` at or after `start`,
reading from `start` as code. There is none when `start` is no boundary of the
text, when nothing opens, or when what opens first is never closed.
-/
def matchingDelimiter? (text : Text) (start : Nat) (opening close : Char) : Option Nat := do
  let tail ← text.after? start
  closingDelimiterFrom? opening close .code 0 start tail

/-- Blanks inside a line. -/
def isLineBlank (c : Char) : Bool :=
  c == ' ' || c == '\t'

/-- Whether a text opens with an argument list, blanks passed over. -/
def opensArguments (text : Text) : Bool :=
  (text.dropWhile isLineBlank).head? == some '('

/--
The call whose keyword starts at `start`: the keyword, blanks, and arguments up
to the closing parenthesis.
-/
def callAt? (text keyword : Text) (start : Nat) : Option ByteRange := do
  let argumentsAt := start + keyword.byteLength
  let tail ← text.after? argumentsAt
  if opensArguments tail then
    let close ← matchingDelimiter? text argumentsAt '(' ')'
    some ⟨start, close + 1⟩
  else
    none

/-- The calls at the given keyword offsets, those inside an earlier call left out. -/
def outermostCalls (text keyword : Text) : Nat → List Nat → List ByteRange
  | _, [] => []
  | searched, start :: rest =>
      if start < searched then
        outermostCalls text keyword searched rest
      else
        match callAt? text keyword start with
        | some call => call :: outermostCalls text keyword call.stop rest
        | none => outermostCalls text keyword searched rest

/-- Every call of the keyword in code, in order; none lies inside another. -/
def calls (text keyword : Text) : List ByteRange :=
  outermostCalls text keyword 0 (keywordStarts text keyword)

/-- Length in bytes of the line break at the start of a text, if there is one. -/
def lineBreakLength : Text → Nat
  | '\r' :: '\n' :: _ => 2
  | '\n' :: _ => 1
  | _ => 0

/--
A range widened over the line break that follows it and, when nothing but
blanks stands before it in its line, over these blanks. There is no widening
when an end of the range is no boundary.
-/
def withLine? (text : Text) (range : ByteRange) : Option ByteRange := do
  let before ← text.before? range.start
  let after ← text.after? range.stop
  let indent := before.reverse.takeWhile isLineBlank
  let lead := before.reverse.dropWhile isLineBlank
  let opensLine := lead.head?.all (· == '\n')
  some {
    start := if opensLine then range.start - indent.length else range.start
    stop := range.stop + lineBreakLength after
  }

end Provision.Descriptor
