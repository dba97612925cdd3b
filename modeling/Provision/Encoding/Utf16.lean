import Provision.Encoding.Utf8

namespace Provision.Utf16

/-!
# UTF-16

Texts as 16-bit units, and units as pairs of bytes in either order. Characters
above U+FFFF are written as two surrogate units.
-/

/-- Order of the two bytes of a unit. -/
inductive ByteOrder where
  | littleEndian
  | bigEndian
  deriving Repr, DecidableEq

/-- The units of one character. -/
def encodeChar (c : Char) : List UInt16 :=
  let point := c.toNat
  if point < 0x10000 then
    [UInt16.ofNat point]
  else
    let offset := point - 0x10000
    [UInt16.ofNat (0xD800 + offset / 0x400), UInt16.ofNat (0xDC00 + offset % 0x400)]

/-- The two bytes of a unit. -/
def unitBytes (order : ByteOrder) (unit : UInt16) : Bytes :=
  let high := UInt8.ofNat (unit.toNat / 0x100)
  let low := UInt8.ofNat (unit.toNat % 0x100)
  match order with
  | .littleEndian => [low, high]
  | .bigEndian => [high, low]

/-- The units of a text. -/
def units (text : Text) : List UInt16 :=
  text.flatMap encodeChar

/-- The UTF-16 form of a text. -/
def encode (order : ByteOrder) (text : Text) : Bytes :=
  (units text).flatMap (unitBytes order)

/-- Units from pairs of bytes; there are none for an odd number of bytes. -/
def unitsOfBytes? (order : ByteOrder) : Bytes → Option (List UInt16)
  | [] => some []
  | [_] => none
  | first :: second :: rest =>
      let unit :=
        match order with
        | .littleEndian => second.toNat * 0x100 + first.toNat
        | .bigEndian => first.toNat * 0x100 + second.toNat
      (unitsOfBytes? order rest).map (UInt16.ofNat unit :: ·)

/-- Whether a unit is the first half of a character. -/
def isHighSurrogate (unit : UInt16) : Bool :=
  0xD800 ≤ unit.toNat && unit.toNat < 0xDC00

/-- Whether a unit is the second half of a character. -/
def isLowSurrogate (unit : UInt16) : Bool :=
  0xDC00 ≤ unit.toNat && unit.toNat < 0xE000

/-- The text of a list of units; there is none when a surrogate stands alone. -/
def textOfUnits? : List UInt16 → Option Text
  | [] => some []
  | unit :: rest =>
      if isLowSurrogate unit then
        none
      else if isHighSurrogate unit then
        match rest with
        | low :: rest =>
            if isLowSurrogate low then
              let point :=
                0x10000 + (unit.toNat - 0xD800) * 0x400 + (low.toNat - 0xDC00)
              (textOfUnits? rest).map (Char.ofNat point :: ·)
            else
              none
        | [] => none
      else
        (textOfUnits? rest).map (Char.ofNat unit.toNat :: ·)

/-- The text of which the bytes are the UTF-16 form. -/
def decode? (order : ByteOrder) (bytes : Bytes) : Option Text :=
  (unitsOfBytes? order bytes).bind textOfUnits?

end Provision.Utf16
