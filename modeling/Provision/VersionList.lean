import Provision.Version

namespace Provision

/-!
# Versions in listings

A listing names versions anywhere in its lines. A version of a release line is
found where the number of the line stands at a word boundary and is followed by
two more numbers, and the last number ends at a word boundary.
-/

namespace Version

/-- Split digits off the front of a text. -/
def spanDigits (text : Text) : Text × Text :=
  (text.takeWhile Unicode.isDecimalDigit, text.dropWhile Unicode.isDecimalDigit)

/-- A number after a point, and what follows it. -/
def pointNumber? : Text → Option (Text × Text)
  | '.' :: rest =>
      let (digits, rest) := spanDigits rest
      if digits.isEmpty then none else some (digits, rest)
  | _ => none

/-- Whether the character next to a word, if there is one, is no word character. -/
def endsWord (next : Option Char) : Bool :=
  !next.any Unicode.isWordChar

/--
The version token of the release line `major` at the front of a text, after the
character `before`.
-/
def tokenAt? (major : Text) (before : Option Char) (text : Text) : Option Text := do
  if endsWord before && major.isPrefixOf text then
    let (minor, rest) ← pointNumber? (text.drop major.length)
    let (patch, rest) ← pointNumber? rest
    if endsWord rest.head? then
      some (major ++ ['.'] ++ minor ++ ['.'] ++ patch)
    else
      none
  else
    none

/--
Version tokens of the release line in a line of text, left to right. The first
`skipped` characters belong to a token that was already found.
-/
def tokensFrom (major : Text) (before : Option Char) (skipped : Nat) : Text → List Text
  | [] => []
  | c :: rest =>
      match skipped with
      | skipped + 1 => tokensFrom major (some c) skipped rest
      | 0 =>
          match tokenAt? major before (c :: rest) with
          | some token =>
              token :: tokensFrom major (some c) (token.length - 1) rest
          | none => tokensFrom major (some c) 0 rest

/--
Every version of the release line `major` in a listing, in order of appearance.
Tokens with a component that is too large, or with digits other than ASCII
ones, are passed over.
-/
def listed (listing : Text) (major : Nat) : List Version :=
  listing.lines.flatMap fun line =>
    (tokensFrom (toString major).toList none 0 line).filterMap
      fun token => parse? (String.ofList token)

/-- The newest version of the release line in a listing. -/
def newestListed? (listing : Text) (major : Nat) : Option Version :=
  newest? (listed listing major)

end Version

end Provision
