import Provision.Unicode.Tables

namespace Provision.Unicode

/-!
# Character classes

The classes of characters that the rules of this library speak of. Each one
answers for ASCII directly and for all other characters from a table. Letters
and numbers are those of Unicode 17; digits and word characters, by which
versions are found, are those of Unicode 16.
-/

/-- White space: the property White_Space. -/
def isWhitespace (c : Char) : Bool :=
  let point := c.toNat
  (0x9 ≤ point && point ≤ 0xD) || point == 0x20 || point == 0x85 || point == 0xA0 ||
    point == 0x1680 || (0x2000 ≤ point && point ≤ 0x200A) || point == 0x2028 ||
    point == 0x2029 || point == 0x202F || point == 0x205F || point == 0x3000

/-- Control characters: the category Cc. -/
def isControl (c : Char) : Bool :=
  c.toNat < 0x20 || (0x7F ≤ c.toNat && c.toNat < 0xA0)

/-- Letters and numbers: Alphabetic, or of a category of numbers. -/
def isAlphanumeric (c : Char) : Bool :=
  if c.toNat < 0x80 then
    c.isAlphanum
  else
    alphabetic.contains c || laterAlphabetic.contains c || numeric.contains c

/-- Decimal digits of any script. -/
def isDecimalDigit (c : Char) : Bool :=
  if c.toNat < 0x80 then c.isDigit else decimalDigits.contains c

/--
Word characters, between which there is no word boundary: letters, marks,
decimal digits, connectors and the two joiners.
-/
def isWordChar (c : Char) : Bool :=
  if c.toNat < 0x80 then
    c.isAlphanum || c == '_'
  else
    alphabetic.contains c || marks.contains c || decimalDigits.contains c ||
      connectors.contains c || c == '\u200C' || c == '\u200D'

end Provision.Unicode
