import Provision.Encoding.Octets
import Provision.Host.Matching.CharacterClass

namespace Provision.Utilities

/-!
# Numbers in texts

The numbers that texts begin with, whole ones and fractions, and the fractions
that machines hold for them.

## Binary fractions

A decimal number is rounded to the nearest binary fraction with so many digits,
and a binary fraction is written out in decimal digits, both exactly; of two
neighbours that are equally near, the even one is taken.
-/

/-- The number `mantissa * 2 ^ exponent`, or no finite number. -/
inductive Fraction where
  | finite (negative : Bool) (mantissa : Nat) (exponent : Int)
  | infinite (negative : Bool)
  | notANumber
  deriving Repr, DecidableEq

namespace Fraction

/-- The quotient rounded to the nearest, of two to the even one. -/
def roundedQuotient (numerator denominator : Nat) : Nat :=
  let quotient := numerator / denominator
  let twice := 2 * (numerator % denominator)
  if twice > denominator || (twice == denominator && quotient % 2 == 1) then
    quotient + 1
  else
    quotient

/-- The binary fraction with so many digits that is nearest to a quotient. -/
def ofQuotient (digits : Nat) (negative : Bool) (numerator denominator : Nat) : Fraction :=
  if numerator == 0 then
    .finite negative 0 0
  else
    let shift : Int := (Nat.log2 numerator : Int) - Nat.log2 denominator - digits
    let scaled (shift : Int) : Nat :=
      if 0 ≤ shift then
        roundedQuotient numerator (denominator <<< shift.toNat)
      else
        roundedQuotient (numerator <<< (-shift).toNat) denominator
    let first := scaled shift
    if first < Nat.pow 2 digits then
      .finite negative first shift
    else
      .finite negative (scaled (shift + 1)) (shift + 1)

/-- The binary fraction that is nearest to `number * 10 ^ power`. -/
def ofDecimal (digits : Nat) (negative : Bool) (number : Nat) (power : Int) : Fraction :=
  if 0 ≤ power then
    ofQuotient digits negative (number * Nat.pow 10 power.toNat) 1
  else
    ofQuotient digits negative number (Nat.pow 10 (-power).toNat)

/-- Digits that are the value times a power of ten, rounded. -/
def scaledDigits (mantissa : Nat) (exponent power : Int) : Nat :=
  let numerator :=
    mantissa * (if 0 ≤ power then Nat.pow 10 power.toNat else 1) *
      (if 0 ≤ exponent then Nat.pow 2 exponent.toNat else 1)
  let denominator :=
    (if 0 ≤ power then 1 else Nat.pow 10 (-power).toNat) *
      (if 0 ≤ exponent then 1 else Nat.pow 2 (-exponent).toNat)
  roundedQuotient numerator denominator

/-- Digits with zeros in front of them up to a width. -/
def padded (width number : Nat) : Octets :=
  let digits := (toString number).toList
  List.replicate (width - digits.length) '0' ++ digits

/-- Digits with so many places, and the point in front of them. -/
def withPoint (places : Nat) (keepsPoint : Bool) (number : Nat) : Octets :=
  let digits := padded (places + 1) number
  let whole := digits.take (digits.length - places)
  let point := if places == 0 && !keepsPoint then [] else ['.']
  whole ++ point ++ digits.drop (digits.length - places)

/-- The value without its sign in positional notation. -/
def fixed (places : Nat) (keepsPoint : Bool) (mantissa : Nat) (exponent : Int) : Octets :=
  withPoint places keepsPoint (scaledDigits mantissa exponent places)

/-- The power of ten of the first digit, when the value is rounded to so many digits. -/
def decimalExponent (places : Nat) (mantissa : Nat) (exponent : Int) : Int :=
  if mantissa == 0 then
    0
  else
    let bits : Int := (Nat.log2 mantissa : Int) + exponent
    let guess := Int.fdiv (bits * 30103) 100000
    let fits (power : Int) : Bool :=
      let digits := scaledDigits mantissa exponent (places - power)
      Nat.pow 10 places ≤ digits && digits < Nat.pow 10 (places + 1)
    ([guess - 1, guess, guess + 1, guess + 2].find? fits).getD guess

/-- The value without its sign, with a power of ten behind it. -/
def scientific (places : Nat) (keepsPoint : Bool) (letter : Char) (mantissa : Nat)
    (exponent : Int) : Octets :=
  let power := decimalExponent places mantissa exponent
  let digits := if mantissa == 0 then 0 else scaledDigits mantissa exponent (places - power)
  let sign := if power < 0 then '-' else '+'
  withPoint places keepsPoint digits ++ letter :: sign :: padded 2 power.natAbs

/-- A text without the zeros behind its point. -/
def withoutZeros (text : Octets) : Octets :=
  if text.contains '.' then
    let kept := text.reverse.dropWhile (· == '0')
    (kept.dropWhile (· == '.')).reverse
  else
    text

/-- The value without its sign, in the shorter of both notations. -/
def general (digits : Nat) (keepsZeros : Bool) (letter : Char) (mantissa : Nat)
    (exponent : Int) : Octets :=
  let digits := max digits 1
  let power := decimalExponent (digits - 1) mantissa exponent
  if power < -4 || (digits : Int) ≤ power then
    let text := scientific (digits - 1) keepsZeros letter mantissa exponent
    if keepsZeros then
      text
    else
      let front := text.takeWhile (· != letter)
      withoutZeros front ++ text.drop front.length
  else
    let text := fixed ((digits : Int) - 1 - power).toNat keepsZeros mantissa exponent
    if keepsZeros then text else withoutZeros text

end Fraction

open Matching

/-!
## Numerals

Numbers that texts begin with. What is left behind a numeral tells whether the
whole text was one.
-/

/-- The value of a digit in bases up to thirty-six. -/
def digitValue? (base : Nat) (c : Char) : Option Nat :=
  let value :=
    if c.isDigit then some (c.toNat - '0'.toNat)
    else if c.isLower then some (c.toNat - 'a'.toNat + 10)
    else if c.isUpper then some (c.toNat - 'A'.toNat + 10)
    else none
  value.filter (· < base)

/-- Read digits in front of a text. -/
def spanDigits (base : Nat) (text : Octets) : Nat × Octets :=
  let digits := text.takeWhile fun c => (digitValue? base c).isSome
  (digits.foldl (fun number c => number * base + (digitValue? base c).getD 0) 0,
    text.drop digits.length)

/-- A whole number in front of a text. -/
structure Numeral where
  negative : Bool
  magnitude : Nat
  rest : Octets
  deriving Repr, DecidableEq

/-- The value of a numeral. -/
def Numeral.value (numeral : Numeral) : Int :=
  if numeral.negative then -(numeral.magnitude : Int) else numeral.magnitude

/-- Read the sign in front of a text. -/
def spanSign : Octets → Bool × Octets
  | '-' :: rest => (true, rest)
  | '+' :: rest => (false, rest)
  | rest => (false, rest)

/-- Read a whole number in front of a text, blanks skipped. -/
def numeral? (text : Octets) : Option Numeral :=
  let (negative, digits) := spanSign (text.dropWhile CharacterClass.isSpace)
  if (digits.head?.map Char.isDigit).getD false then
    let (magnitude, rest) := spanDigits 10 digits
    some ⟨negative, magnitude, rest⟩
  else
    none

/-- Read a whole number whose beginning tells its base. -/
def basedNumeral? (text : Octets) : Option Numeral :=
  let (negative, digits) := spanSign (text.dropWhile CharacterClass.isSpace)
  let inBase (base : Nat) (digits : Octets) : Numeral :=
    let (magnitude, rest) := spanDigits base digits
    ⟨negative, magnitude, rest⟩
  match digits with
  | '0' :: x :: c :: rest =>
      if (x == 'x' || x == 'X') && (digitValue? 16 c).isSome then
        some (inBase 16 (c :: rest))
      else
        some (inBase 8 digits)
  | '0' :: _ => some (inBase 8 digits)
  | c :: _ => if c.isDigit then some (inBase 10 digits) else none
  | [] => none

/-- A text that is a whole number and nothing else. -/
def wholeNumber? (text : Octets) : Option Int := do
  let numeral ← numeral? text
  if numeral.rest.all CharacterClass.isSpace then some numeral.value else none

/-- A text that is a count and nothing else. -/
def count? (text : Octets) : Option Nat :=
  if !text.isEmpty && text.all Char.isDigit then some (spanDigits 10 text).1 else none

/-- Read the power of ten behind a decimal number. -/
def spanPower (text : Octets) : Int × Octets :=
  match text with
  | e :: rest =>
      if e == 'e' || e == 'E' then
        let (negative, digits) := spanSign rest
        if (digits.head?.map Char.isDigit).getD false then
          let (power, rest) := spanDigits 10 digits
          (if negative then -(power : Int) else power, rest)
        else
          (0, text)
      else
        (0, text)
  | [] => (0, [])

/-- Read a number in front of a text as a fraction with so many binary digits. -/
def spanFraction (bits : Nat) (text : Octets) : Option (Fraction × Octets) :=
  let (negative, digits) := spanSign (text.dropWhile CharacterClass.isSpace)
  let word (name : String) : Bool :=
    name.toList.isPrefixOf (digits.map Char.toLower)
  let (whole, behind) := spanDigits 10 digits
  let wholeCount := digits.length - behind.length
  let (places, rest) :=
    match behind with
    | '.' :: rest =>
        let count := (rest.takeWhile Char.isDigit).length
        if wholeCount == 0 && count == 0 then ([], behind)
        else (rest.take count, rest.drop count)
    | rest => ([], rest)
  if wholeCount == 0 && places.isEmpty then
    if word "infinity" then some (.infinite negative, digits.drop 8)
    else if word "inf" then some (.infinite negative, digits.drop 3)
    else if word "nan" then some (.notANumber, digits.drop 3)
    else none
  else
    match digits with
    | '0' :: x :: c :: more =>
        if (x == 'x' || x == 'X') && (digitValue? 16 c).isSome then
          let (number, rest) := spanDigits 16 (c :: more)
          some (Fraction.ofDecimal bits negative number 0, rest)
        else
          let (power, rest) := spanPower rest
          let number := (spanDigits 10 places).1 + whole * Nat.pow 10 places.length
          some (Fraction.ofDecimal bits negative number (power - places.length), rest)
    | _ =>
        let (power, rest) := spanPower rest
        let number := (spanDigits 10 places).1 + whole * Nat.pow 10 places.length
        some (Fraction.ofDecimal bits negative number (power - places.length), rest)

end Provision.Utilities
