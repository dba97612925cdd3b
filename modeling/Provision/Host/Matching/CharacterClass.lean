import Provision.Encoding.Octets

namespace Provision.Matching

/-!
# Sets of octets

Patterns and regular expressions name sets of octets by members, by ranges of
numbers, and by classes of characters. Only the octets of ASCII belong to a
class.
-/

/-- Classes of characters, by the names they have between colons. -/
inductive CharacterClass where
  | alphabetic
  | digit
  | alphanumeric
  | upper
  | lower
  | space
  | blank
  | punctuation
  | printing
  | graphic
  | control
  | hexadecimal
  | word
  deriving Repr, DecidableEq

namespace CharacterClass

/-- The classes with their names. -/
def names : List (Octets × CharacterClass) := [
  ("alpha".toList, .alphabetic),
  ("digit".toList, .digit),
  ("alnum".toList, .alphanumeric),
  ("upper".toList, .upper),
  ("lower".toList, .lower),
  ("space".toList, .space),
  ("blank".toList, .blank),
  ("punct".toList, .punctuation),
  ("print".toList, .printing),
  ("graph".toList, .graphic),
  ("cntrl".toList, .control),
  ("xdigit".toList, .hexadecimal)
]

/-- Whether an octet is printed. -/
def isPrinting (c : Char) : Bool :=
  ' ' ≤ c && c ≤ '~'

/-- Whether an octet is white space. -/
def isSpace (c : Char) : Bool :=
  c == ' ' || ('\t' ≤ c && c ≤ '\r')

/-- Whether an octet belongs to a class. -/
def contains (class_ : CharacterClass) (c : Char) : Bool :=
  match class_ with
  | alphabetic => c.isAlpha
  | digit => c.isDigit
  | alphanumeric => c.isAlphanum
  | upper => c.isUpper
  | lower => c.isLower
  | space => isSpace c
  | blank => c == ' ' || c == '\t'
  | punctuation => isPrinting c && c != ' ' && !c.isAlphanum
  | printing => isPrinting c
  | graphic => isPrinting c && c != ' '
  | control => c < ' ' || c == '\x7f'
  | hexadecimal => c.isDigit || ('a' ≤ c && c ≤ 'f') || ('A' ≤ c && c ≤ 'F')
  | word => c.isAlphanum || c == '_'

end CharacterClass

/-- A part of a set of octets. -/
inductive SetMember where
  | range (first last : Char)
  | class (class_ : CharacterClass)
  deriving Repr, DecidableEq

namespace SetMember

/-- The octet alone. -/
def single (c : Char) : SetMember :=
  .range c c

/-- Whether an octet belongs to a part of a set. -/
def contains (member : SetMember) (c : Char) : Bool :=
  match member with
  | range first last => first ≤ c && c ≤ last
  | .class class_ => class_.contains c

end SetMember

/-- A set of octets, or all others. -/
structure OctetSet where
  negated : Bool := false
  members : List SetMember
  deriving Repr, DecidableEq

/-- Whether an octet belongs to a set. -/
def OctetSet.contains (set : OctetSet) (c : Char) : Bool :=
  (set.members.any fun member => member.contains c) != set.negated

/-- A letter in the other case; any other octet stays as it is. -/
def otherCase (c : Char) : Char :=
  if c.isUpper then c.toLower else c.toUpper

/-- Whether a letter belongs to a set in one case or the other. -/
def OctetSet.containsFolded (set : OctetSet) (c : Char) : Bool :=
  (set.members.any fun member => member.contains c || member.contains (otherCase c)) !=
    set.negated

end Provision.Matching
