import Provision.Text.Basic

namespace Provision.Yaml

/-!
# Cursors in YAML text

A cursor stands in a text and knows its line and column, on which the structure
of YAML depends. Line breaks are a line feed, a carriage return or both, and
three breaks of Unicode; all but the last two are read as a line feed.
-/

/-- Blanks within a line. -/
def isBlank (c : Char) : Bool :=
  c == ' ' || c == '\t'

/-- Characters that end a line. -/
def isBreak (c : Char) : Bool :=
  c == '\n' || c == '\r' || c == '\u0085' || c == '\u2028' || c == '\u2029'

/-- Whether nothing, a blank or a line break comes next. -/
def isGapNext (next : Option Char) : Bool :=
  next.all fun c => isBlank c || isBreak c

/-- Whether nothing or a line break comes next. -/
def isLineOver (next : Option Char) : Bool :=
  next.all isBreak

/-- Characters of the names of anchors, handles and directives. -/
def isNameChar (c : Char) : Bool :=
  c.isAlphanum || c == '_' || c == '-'

/-- Characters that may stand in a YAML text. -/
def isAllowed (c : Char) : Bool :=
  let point := c.toNat
  point == 0x9 || point == 0xA || point == 0xD || (0x20 ≤ point && point ≤ 0x7E) ||
    point == 0x85 || (0xA0 ≤ point && point ≤ 0xFFFD) || 0x10000 ≤ point

/-- A place in a text. -/
structure Cursor where
  /-- What follows the place. -/
  rest : Text
  /-- How many characters come before the place. -/
  index : Nat := 0
  line : Nat := 0
  column : Nat := 0
  deriving Repr, DecidableEq

namespace Cursor

/-- The next character. -/
def next (cursor : Cursor) : Option Char :=
  cursor.rest.head?

/-- The character some places ahead. -/
def ahead (cursor : Cursor) (places : Nat) : Option Char :=
  cursor.rest[places]?

/-- Whether a certain character comes next. -/
def isAt (cursor : Cursor) (c : Char) : Bool :=
  cursor.next == some c

/-- Move over characters of one line. -/
def skip (cursor : Cursor) (count : Nat) : Cursor where
  rest := cursor.rest.drop count
  index := cursor.index + count
  line := cursor.line
  column := cursor.column + count

/-- Move over the characters of a line that belong to a class, and give them back. -/
def takeWhile (cursor : Cursor) (among : Char → Bool) : Text × Cursor :=
  let taken := cursor.rest.takeWhile among
  (taken, cursor.skip taken.length)

/-- Move over the characters of a line that belong to a class. -/
def skipWhile (cursor : Cursor) (among : Char → Bool) : Cursor :=
  (cursor.takeWhile among).2

/-- Move to the end of the line. -/
def skipToBreak (cursor : Cursor) : Cursor :=
  cursor.skipWhile fun c => !isBreak c

/-- The cursor at the start of the next line, behind a break of some characters. -/
def newLine (cursor : Cursor) (width : Nat) : Cursor where
  rest := cursor.rest.drop width
  index := cursor.index + width
  line := cursor.line + 1
  column := 0

/-- Read a line break, if there is one. -/
def readBreak (cursor : Cursor) : Text × Cursor :=
  match cursor.rest with
  | '\r' :: '\n' :: _ => (['\n'], cursor.newLine 2)
  | c :: _ =>
      if c == '\n' || c == '\r' || c == '\u0085' then (['\n'], cursor.newLine 1)
      else if isBreak c then ([c], cursor.newLine 1)
      else ([], cursor)
  | [] => ([], cursor)

/-- Move over a line break, if there is one. -/
def skipBreak (cursor : Cursor) : Cursor :=
  cursor.readBreak.2

/-- Whether a mark of three characters stands alone at the start of the line. -/
def isAtMark (cursor : Cursor) (mark : Text) : Bool :=
  cursor.column == 0 && mark.isPrefixOf cursor.rest && isGapNext (cursor.ahead mark.length)

/-- Starts a document. -/
def startMark : Text := ['-', '-', '-']

/-- Ends a document. -/
def endMark : Text := ['.', '.', '.']

/-- Whether a mark between documents comes next. -/
def isAtDocumentMark (cursor : Cursor) : Bool :=
  cursor.isAtMark startMark || cursor.isAtMark endMark

end Cursor

end Provision.Yaml
