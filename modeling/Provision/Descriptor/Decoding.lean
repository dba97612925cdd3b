import Provision.Encoding.Octets
import Provision.Encoding.Utf16
import Provision.Unicode.Classes

namespace Provision.Descriptor

/-!
# Reading descriptors in any common encoding

Editors save descriptors in several encodings and do not say which. A
descriptor is read as UTF-8 if it can be, else as UTF-16, else as Latin-1,
which every byte sequence is.
-/

/-- The encoding a descriptor was read with. -/
inductive Encoding where
  | utf8
  | utf16 (order : Utf16.ByteOrder)
  | latin1
  deriving Repr, DecidableEq

namespace Encoding

/-- Name of an encoding for users. -/
def name : Encoding → String
  | utf8 => "utf-8"
  | utf16 .littleEndian => "utf-16le"
  | utf16 .bigEndian => "utf-16be"
  | latin1 => "latin-1"

/-- The byte order mark of an encoding; Latin-1 has none. -/
def byteOrderMark : Encoding → Bytes
  | utf8 => [0xEF, 0xBB, 0xBF]
  | utf16 .littleEndian => [0xFF, 0xFE]
  | utf16 .bigEndian => [0xFE, 0xFF]
  | latin1 => []

/-- The bytes of a text in an encoding, without a byte order mark. -/
def encode? : Encoding → Text → Option Bytes
  | utf8, text => some (Utf8.encode text)
  | utf16 order, text => some (Utf16.encode order text)
  | latin1, text => Latin1.encode? text

end Encoding

/-- The bytes after a mark they start with. -/
def afterMark? (mark : Bytes) (bytes : Bytes) : Option Bytes :=
  if mark.isPrefixOf bytes then some (bytes.drop mark.length) else none

/--
Read bytes as UTF-8, with or without a byte order mark. A NUL is refused: it
tells UTF-16 without a mark, which is often UTF-8 as well.
-/
def readUtf8? (bytes : Bytes) : Option Text := do
  let body := (afterMark? Encoding.utf8.byteOrderMark bytes).getD bytes
  let text ← Utf8.decode? body
  if text.contains '\x00' then none else some text

/-- Every second byte, starting with the second one. -/
def highBytes : Bytes → Bytes
  | [] => []
  | [_] => []
  | _ :: high :: rest => high :: highBytes rest

/--
Whether bytes look like little-endian UTF-16 without a mark: at least half of
their high bytes are NUL, as they are in mostly ASCII text.
-/
def looksLittleEndian (bytes : Bytes) : Bool :=
  let high := highBytes bytes
  !high.isEmpty && high.length ≤ 2 * high.count 0

/-- The control characters that text files hold. -/
def isTextControl (c : Char) : Bool :=
  c == '\n' || c == '\r' || c == '\t'

/-- Whether a character can stand in a text file. -/
def isPlausible (c : Char) : Bool :=
  !Unicode.isControl c || isTextControl c

/-- The byte order of UTF-16 bytes, and the bytes after their mark. -/
def utf16Body? (bytes : Bytes) : Option (Utf16.ByteOrder × Bytes) :=
  match afterMark? (Encoding.utf16 .littleEndian).byteOrderMark bytes with
  | some body => some (.littleEndian, body)
  | none =>
      match afterMark? (Encoding.utf16 .bigEndian).byteOrderMark bytes with
      | some body => some (.bigEndian, body)
      | none => if looksLittleEndian bytes then some (.littleEndian, bytes) else none

/--
Read bytes as UTF-16. A byte order mark decides the byte order; without one,
the bytes have to look like little-endian text.
-/
def readUtf16? (bytes : Bytes) : Option (Text × Utf16.ByteOrder) := do
  let (order, body) ← utf16Body? bytes
  let text ← Utf16.decode? order body
  if text.all isPlausible then some (text, order) else none

/-- Read the bytes of a descriptor; every byte sequence has a reading. -/
def decode (bytes : Bytes) : Text × Encoding :=
  match readUtf8? bytes with
  | some text => (text, .utf8)
  | none =>
      match readUtf16? bytes with
      | some (text, order) => (text, .utf16 order)
      | none => (Latin1.decode bytes, .latin1)

end Provision.Descriptor
