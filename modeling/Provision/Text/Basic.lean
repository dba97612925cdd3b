namespace Provision

/-!
# Texts and byte offsets

A text is a list of characters. A place in a text is given as a byte offset
into its UTF-8 form, so only some offsets fall between two characters. The
cutting functions of this module answer `none` for every other offset, and
never cut a character in two.
-/

/-- A text as its characters in order. -/
abbrev Text := List Char

/-- The bytes from `start` up to, and not including, `stop`. -/
structure ByteRange where
  start : Nat
  stop : Nat
  deriving Repr, DecidableEq

namespace Text

/-- Number of bytes of the UTF-8 form of a text. -/
def byteLength : Text → Nat
  | [] => 0
  | c :: rest => c.utf8Size + byteLength rest

/--
Cut a text at a byte offset into what stands before it and what follows.

There is no cut past the end or inside a character.
-/
def splitAtByte? : Text → Nat → Option (Text × Text)
  | text, 0 => some ([], text)
  | [], _ + 1 => none
  | c :: rest, offset + 1 =>
      if c.utf8Size ≤ offset + 1 then
        (splitAtByte? rest (offset + 1 - c.utf8Size)).map
          fun (before, after) => (c :: before, after)
      else
        none

/-- The text before a byte offset. -/
def before? (text : Text) (offset : Nat) : Option Text :=
  (splitAtByte? text offset).map Prod.fst

/-- The text from a byte offset on. -/
def after? (text : Text) (offset : Nat) : Option Text :=
  (splitAtByte? text offset).map Prod.snd

/-- Whether an offset falls between two characters or at an end. -/
def isBoundary (text : Text) (offset : Nat) : Bool :=
  (splitAtByte? text offset).isSome

/-- The part of a text that a range covers, if both ends are boundaries in order. -/
def slice? (text : Text) (range : ByteRange) : Option Text := do
  let upToStop ← before? text range.stop
  after? upToStop range.start

/-- Whether `part` stands in `text` as a run of neighbouring characters. -/
def hasInfix (text part : Text) : Bool :=
  match text with
  | [] => part.isEmpty
  | c :: rest => part.isPrefixOf (c :: rest) || hasInfix rest part

/-- The text without the white space that `blank` names at its two ends. -/
def trimBy (blank : Char → Bool) (text : Text) : Text :=
  ((text.dropWhile blank).reverse.dropWhile blank).reverse

/--
Pieces between separators; what holds no separator is its only piece, and there
is always one piece more than there are separators. Bytes are split like texts.
-/
def splitOn {α : Type} [DecidableEq α] (separator : α) : List α → List (List α)
  | [] => [[]]
  | c :: rest =>
      if c = separator then
        [] :: splitOn separator rest
      else
        match splitOn separator rest with
        | [] => [[c]]
        | piece :: more => (c :: piece) :: more

/-- Drop one carriage return at the end of a line. -/
def dropReturn (line : Text) : Text :=
  if line.getLast? = some '\r' then line.dropLast else line

/--
Lines from the pieces between line feeds: every piece but the last was closed
by a line feed, and the last piece is a line only if it holds something.
-/
def closeLines : List Text → List Text
  | [] => []
  | [last] => if last.isEmpty then [] else [last]
  | closed :: next :: rest => dropReturn closed :: closeLines (next :: rest)

/--
Lines of a text: pieces between line feeds, each without one carriage return
before its line feed. A line feed at the end closes the last line and starts
no other.
-/
def lines (text : Text) : List Text :=
  closeLines (splitOn '\n' text)

/-- Pieces between runs of characters that `blank` names; no piece is empty. -/
def wordsBy (blank : Char → Bool) (text : Text) : List Text :=
  let rec go : Text → Text → List Text
    | [], word => if word.isEmpty then [] else [word.reverse]
    | c :: rest, word =>
        if blank c then
          if word.isEmpty then go rest [] else word.reverse :: go rest []
        else
          go rest (c :: word)
  go text []

/-- What stands before and after the first place where `part` occurs. -/
def splitOnce? (part : Text) : Text → Option (Text × Text)
  | [] => if part.isEmpty then some ([], []) else none
  | c :: rest =>
      if part.isPrefixOf (c :: rest) then
        some ([], (c :: rest).drop part.length)
      else
        (splitOnce? part rest).map
          fun (before, after) => (c :: before, after)

end Text

end Provision
