import Provision.Encoding.Utf8

namespace Provision.Yaml

/-!
# Tokens of YAML

The words of a YAML text. Where the text shows structure by indentation, the
tokens show it by starts and ends of blocks.
-/

/-- How a scalar is written. -/
inductive ScalarStyle where
  /-- Without quotes, on lines that are folded. -/
  | plain
  | quoted
  /-- As a block whose lines are kept. -/
  | literal
  /-- As a block whose lines are folded. -/
  | folded
  deriving Repr, DecidableEq

/-- A scalar as it is read. -/
structure Scalar where
  value : Text
  style : ScalarStyle
  deriving Repr, DecidableEq

/-- Whether a scalar is written without quotes and not as a block. -/
def Scalar.isPlain (scalar : Scalar) : Bool :=
  scalar.style == .plain

/--
The name of a tag, byte by byte: escapes can write bytes that are no text. A
name ends in front of its first zero byte.
-/
abbrev TagName := Bytes

/-- A token. -/
inductive Token where
  | documentStart
  | documentEnd
  | versionDirective (major minor : Nat)
  | tagDirective (handle : Text) (expansion : TagName)
  | blockSequenceStart
  | blockMappingStart
  | blockEnd
  | flowSequenceStart
  | flowSequenceEnd
  | flowMappingStart
  | flowMappingEnd
  | blockEntry
  | flowEntry
  | key
  | value
  | anchor (name : Text)
  /-- Stands for the node with an anchor. -/
  | reference (name : Text)
  | tag (handle : Text) (suffix : TagName)
  | scalar (content : Scalar)
  deriving Repr, DecidableEq

end Provision.Yaml
