import Provision.Text.Basic

namespace Provision

/-!
# UTF-8

Texts written as bytes and read back. The reader takes one byte at a time and
knows, inside a character, which bytes may come next; so it refuses a sequence
at the first byte that rules it out. A lenient reading replaces every such
sequence by U+FFFD.
-/

/-- The contents of a file, byte by byte. -/
abbrev Bytes := List UInt8

namespace Utf8

/-- The bytes of one character. -/
def encodeChar (c : Char) : Bytes :=
  let point := c.toNat
  let tail (unit : Nat) : UInt8 := UInt8.ofNat (0x80 + point / unit % 0x40)
  if point < 0x80 then
    [UInt8.ofNat point]
  else if point < 0x800 then
    [UInt8.ofNat (0xC0 + point / 0x40), tail 1]
  else if point < 0x10000 then
    [UInt8.ofNat (0xE0 + point / 0x1000), tail 0x40, tail 1]
  else
    [UInt8.ofNat (0xF0 + point / 0x40000), tail 0x1000, tail 0x40, tail 1]

/-- The UTF-8 form of a text. -/
def encode (text : Text) : Bytes :=
  text.flatMap encodeChar

/-- Where a reader stands between two bytes. -/
inductive Reader where
  /-- Between two characters. -/
  | between
  /--
  Inside a character: the next byte lies between `low` and `high`, `more` bytes
  follow it, and `value` holds the bits read so far.
  -/
  | inside (low high more value : Nat)
  deriving Repr, DecidableEq

/-- What one byte does to a reader. -/
inductive Progress where
  /-- The byte completes a character. -/
  | completes (c : Char)
  /-- The byte belongs to a character that is not complete yet. -/
  | continues (reader : Reader)
  /-- No character has this byte here. -/
  | refuses
  deriving Repr, DecidableEq

/-- Read the first byte of a character. -/
def Progress.ofLead (byte : Nat) : Progress :=
  if byte < 0x80 then .completes (Char.ofNat byte)
  else if byte < 0xC2 then .refuses
  else if byte < 0xE0 then .continues (.inside 0x80 0xBF 0 (byte - 0xC0))
  else if byte = 0xE0 then .continues (.inside 0xA0 0xBF 1 0)
  else if byte = 0xED then .continues (.inside 0x80 0x9F 1 0xD)
  else if byte < 0xF0 then .continues (.inside 0x80 0xBF 1 (byte - 0xE0))
  else if byte = 0xF0 then .continues (.inside 0x90 0xBF 2 0)
  else if byte < 0xF4 then .continues (.inside 0x80 0xBF 2 (byte - 0xF0))
  else if byte = 0xF4 then .continues (.inside 0x80 0x8F 2 4)
  else .refuses

/-- Read one byte. -/
def Reader.read : Reader → UInt8 → Progress
  | between, byte => .ofLead byte.toNat
  | inside low high more value, byte =>
      if low ≤ byte.toNat && byte.toNat ≤ high then
        let value := value * 0x40 + (byte.toNat - 0x80)
        match more with
        | 0 => .completes (Char.ofNat value)
        | more + 1 => .continues (.inside 0x80 0xBF more value)
      else
        .refuses

/-- Read bytes to the end, refusing what is not UTF-8. -/
def decodeFrom? (reader : Reader) : Bytes → Option Text
  | [] => if reader = .between then some [] else none
  | byte :: rest =>
      match reader.read byte with
      | .completes c => (decodeFrom? .between rest).map (c :: ·)
      | .continues reader => decodeFrom? reader rest
      | .refuses => none

/-- The text of which the bytes are the UTF-8 form. -/
def decode? (bytes : Bytes) : Option Text :=
  decodeFrom? .between bytes

/-- Stands for bytes that are not UTF-8. -/
def replacement : Char := '\uFFFD'

/-- Read bytes to the end, replacing what is not UTF-8. -/
def decodeLossyFrom (reader : Reader) : Bytes → Text
  | [] => if reader = .between then [] else [replacement]
  | byte :: rest =>
      match reader.read byte with
      | .completes c => c :: decodeLossyFrom .between rest
      | .continues reader => decodeLossyFrom reader rest
      | .refuses =>
          if reader = .between then
            replacement :: decodeLossyFrom .between rest
          else
            match Reader.between.read byte with
            | .completes c => replacement :: c :: decodeLossyFrom .between rest
            | .continues reader => replacement :: decodeLossyFrom reader rest
            | .refuses => replacement :: replacement :: decodeLossyFrom .between rest

/--
The text of a byte sequence, every longest run of bytes that starts a character
without completing one replaced by U+FFFD.
-/
def decodeLossy (bytes : Bytes) : Text :=
  decodeLossyFrom .between bytes

end Utf8

end Provision
