import Provision.Host.Matching.RegexSyntax
import Provision.Host.Utilities.Print

namespace Provision.Utilities

open Programs

/-!
# Calculating with words

An expression is given in words: numbers, texts, operators and parentheses.
Its value is a number or a text.
-/

/-- Why an expression has no value. -/
inductive CalculationProblem where
  | missing (behind : Octets)
  | unexpected (word : Octets)
  | unexpectedClosing
  | unclosed (behind : Octets)
  | notNumber
  | zeroDivision
  | badPattern (problem : Matching.Regex.Problem)
  deriving Repr, DecidableEq

/-- The words for a problem. -/
def CalculationProblem.words : CalculationProblem → Octets
  | missing behind => "syntax error: missing argument after ".toList ++ quotedAlways behind
  | unexpected word => "syntax error: unexpected argument ".toList ++ quotedAlways word
  | unexpectedClosing => "syntax error: unexpected ')'".toList
  | unclosed behind => "syntax error: expecting ')' after ".toList ++ quotedAlways behind
  | notNumber => "non-integer argument".toList
  | zeroDivision => "division by zero".toList
  | badPattern problem => problem.words.toList

/-- What is left of an expression, with the word that was read last. -/
structure WordReader where
  rest : List Octets
  last : Octets := []
  deriving Repr, DecidableEq

/-- A part of the calculation of an expression. -/
abbrev Calculation := StateT WordReader (Except CalculationProblem)

namespace Calculation

/-- The text of a number. -/
def textOf (number : Int) : Octets :=
  (toString number).toList

/-- The number that a text writes. -/
def number? (text : Octets) : Option Int :=
  let digits := if text.head? == some '-' then text.drop 1 else text
  (count? digits).map fun number =>
    if text.head? == some '-' then -(number : Int) else number

/-- Whether a value counts as nothing. -/
def isNothing (value : Octets) : Bool :=
  let digits := if value.head? == some '-' then value.drop 1 else value
  value.isEmpty || (!digits.isEmpty && digits.all (· == '0'))

/-- Look at the next word. -/
def next? : Calculation (Option Octets) := do
  return (← get).rest.head?

/-- Take a word. -/
def take : Calculation Octets := do
  let reader ← get
  match reader.rest with
  | [] => throw (.missing reader.last)
  | word :: rest =>
      set { reader with rest := rest, last := word }
      return word

/-- Take the next word if it is one of these. -/
def takeOne (words : List String) : Calculation (Option String) := do
  match (← next?).bind fun word => words.find? fun other => other.toList == word with
  | some found =>
      discard take
      return some found
  | none => return none

/-- Match a text from its beginning. -/
def matchStart (text pattern : Octets) : Calculation Octets :=
  match Matching.Regex.ofText .basic pattern with
  | .error problem => throw (.badPattern problem)
  | .ok regex =>
      let found := Matching.Regex.matchStart? {} regex text
      if regex.groups == 0 then
        return textOf ((found.map fun found => (found.whole.stop : Int)).getD 0)
      else
        return (found.bind fun found => found.group? text 1).getD []

/-- The number of the first character that is one of some others. -/
def firstOf (text wanted : Octets) : Nat :=
  match text.findIdx? wanted.contains with
  | some index => index + 1
  | none => 0

/-- Part of a text, from a place on, up to a length. -/
def part (text : Octets) (place length : Option Int) : Octets :=
  match place, length with
  | some place, some length =>
      if 0 < place && 0 < length then (text.drop (place.toNat - 1)).take length.toNat else []
  | _, _ => []

/-- The value of an operator for numbers. -/
def calculate (operator : String) (counts : Bool) (left right : Octets) : Calculation Octets := do
  match number? left, number? right with
  | some left, some right =>
      match operator with
      | "+" => return textOf (left + right)
      | "-" => return textOf (left - right)
      | "*" => return textOf (left * right)
      | operator =>
          if right == 0 then
            if counts then throw .zeroDivision else return []
          else
            return textOf (if operator == "/" then left.tdiv right else left.tmod right)
  | _, _ => if counts then throw .notNumber else return []

/-- Whether a comparison holds. -/
def compare (operator : String) (left right : Octets) : Bool :=
  let (before, same) :=
    match number? left, number? right with
    | some left, some right => (decide (left < right), left == right)
    | _, _ => (Octets.isBefore left right, left == right)
  match operator with
  | "<" => before
  | "<=" => before || same
  | "=" | "==" => same
  | "!=" => !same
  | ">=" => !before
  | _ => !before && !same

/-- Levels of operators, those that bind least first. -/
def levels : List (List String) := [
  ["|"], ["&"], ["<", "<=", "=", "==", "!=", ">=", ">"], ["+", "-"], ["*", "/", "%"], [":"]]

/-- What an operator answers for its operands; `counts` tells whether its value is needed. -/
def apply (operator : String) (counts : Bool) (left right : Octets) : Calculation Octets := do
  match operator with
  | "|" =>
      if !isNothing left then return left
      else if isNothing right then return ['0']
      else return right
  | "&" => return if isNothing left || isNothing right then ['0'] else left
  | ":" => matchStart left right
  | "+" | "-" | "*" | "/" | "%" => calculate operator counts left right
  | operator => return if compare operator left right then ['1'] else ['0']

/-- Whether the right operand of an operator counts. -/
def needsRight (operator : String) (left : Octets) : Bool :=
  match operator with
  | "|" => isNothing left
  | "&" => !isNothing left
  | _ => true

mutual

/-- The value of operators on a level and the levels below it. -/
def level : (fuel : Nat) → (counts : Bool) → List (List String) → Calculation Octets
  | 0, _, _ => return []
  | fuel + 1, counts, [] => term fuel counts
  | fuel + 1, counts, operators :: below => do
      let left ← level fuel counts below
      goOn fuel counts operators below left

/-- Go on behind the left operand of operators on a level. -/
def goOn : (fuel : Nat) → (counts : Bool) → List String → List (List String) → Octets →
    Calculation Octets
  | 0, _, _, _, left => return left
  | fuel + 1, counts, operators, below, left => do
      match ← takeOne operators with
      | none => return left
      | some operator =>
          let right ← level fuel (counts && needsRight operator left) below
          goOn fuel counts operators below (← apply operator counts left right)

/-- The value of a word, of words in parentheses, or of an operator in front of words. -/
def term : (fuel : Nat) → (counts : Bool) → Calculation Octets
  | 0, _ => return []
  | fuel + 1, counts => do
      let word ← take
      match String.ofList word with
      | "+" => take
      | "length" => do
          let text ← term fuel counts
          return textOf text.length
      | "match" => do
          let text ← term fuel counts
          let pattern ← term fuel counts
          matchStart text pattern
      | "index" => do
          let text ← term fuel counts
          let wanted ← term fuel counts
          return textOf (firstOf text wanted)
      | "substr" => do
          let text ← term fuel counts
          let place ← term fuel counts
          let length ← term fuel counts
          return part text (number? place) (number? length)
      | "(" => do
          let value ← level fuel counts levels
          let last := (← get).last
          match ← next? with
          | none => throw (.unclosed last)
          | some word =>
              if word == [')'] then
                discard take
                return value
              else
                throw (.unclosed last)
      | ")" => throw .unexpectedClosing
      | _ => return word

end

/-- The value of a whole expression. -/
def whole : Calculation Octets := do
  let fuel := 16 * ((← get).rest.length + 2)
  let value ← level fuel true levels
  match ← next? with
  | none => return value
  | some word => throw (.unexpected word)

end Calculation

/-- Print the value of an expression. -/
def expr : Utility := fun _ arguments => do
  let words := if arguments.head? == some "--".toList then arguments.tail else arguments
  if words.isEmpty then
    missingOperand 2
  else
    match (Calculation.whole.run { rest := words }).map Prod.fst with
    | .ok value => do
        Act.printLine value
        return if Calculation.isNothing value then 1 else 0
    | .error problem => Act.fail problem.words 2

end Provision.Utilities
