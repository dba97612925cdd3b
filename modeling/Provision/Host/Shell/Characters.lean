import Provision.Encoding.Octets

namespace Provision.Shell

/-!
# Characters of shell texts

Words end at blanks and at the signs that separate and redirect commands. A
parameter is a name of letters, digits and underscores, or one sign or digit.
-/

/-- Whether a character ends a word. -/
def endsWord (c : Char) : Bool :=
  [' ', '\t', '\n', ';', '&', '|', '<', '>', '(', ')'].contains c

/-- Parameters whose names are signs. -/
def specialParameters : List Char :=
  ['@', '*', '#', '?', '-', '$', '!']

/-- Whether a character alone is the name of a parameter. -/
def isSpecialParameter (c : Char) : Bool :=
  specialParameters.contains c || c.isDigit

/-- Whether a character may begin a name. -/
def startsName (c : Char) : Bool :=
  c.isAlpha || c == '_'

/-- Whether a character may stand in a name. -/
def continuesName (c : Char) : Bool :=
  c.isAlphanum || c == '_'

/-- Whether a text is a name. -/
def isName : Octets → Bool
  | [] => false
  | c :: rest => startsName c && rest.all continuesName

end Provision.Shell
