import Provision.Encoding.Utf8

/-!
# Bytes as characters

In Latin-1 every byte is a character, the one whose code point it is. So any
bytes can be read as a text, and octets are texts read like this.
-/

namespace Provision.Latin1

/-- The text of a byte sequence. -/
def decode (bytes : Bytes) : Text :=
  bytes.map fun byte => Char.ofNat byte.toNat

/-- The bytes of a text, if all its code points are below 0x100. -/
def encode? : Text → Option Bytes
  | [] => some []
  | c :: rest =>
      if c.toNat < 0x100 then
        (encode? rest).map (UInt8.ofNat c.toNat :: ·)
      else
        none

end Provision.Latin1

namespace Provision

/-!
## Octets

Shells and utilities work on bytes and never ask what characters they form. A
byte is held as the character that has its number, so texts of bytes can be
cut and compared like any other text.
-/

/-- A text each character of which stands for the byte with its number. -/
abbrev Octets := Text

namespace Octets

/-- The octets of a byte sequence. -/
def ofBytes (bytes : Bytes) : Octets :=
  Latin1.decode bytes

/-- The bytes that octets stand for. -/
def toBytes (octets : Octets) : Bytes :=
  octets.map fun c => UInt8.ofNat c.toNat

/-- The octets of the UTF-8 form of a string. -/
def ofString (text : String) : Octets :=
  ofBytes (Utf8.encode text.toList)

/-- The string whose UTF-8 form the octets are; what is not UTF-8 is replaced. -/
def toString (octets : Octets) : String :=
  String.ofList (Utf8.decodeLossy (toBytes octets))

/-- Octets in ascending order of their numbers. -/
def isBefore : Octets → Octets → Bool
  | [], [] => false
  | [], _ :: _ => true
  | _ :: _, [] => false
  | c :: left, d :: right => c < d || (c == d && isBefore left right)

/-- Put octets into their place in an ascending list, behind what is equal. -/
def sort (texts : List Octets) : List Octets :=
  texts.mergeSort fun left right => !isBefore right left

end Octets

end Provision
