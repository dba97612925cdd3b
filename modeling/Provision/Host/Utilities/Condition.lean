import Provision.Host.Programs.System
import Provision.Host.Utilities.Numerals

namespace Provision.Utilities

open Programs

/-!
# Conditions

Conditions are written as arguments: operators, operands and signs that join
them. How an argument is understood depends on how many there are. The programs
that test conditions differ in what they make of arguments that are no condition.
-/

/-- Who tests. -/
inductive Tester where
  /-- The builtin of the small shell. -/
  | plain
  /-- The builtin of the large shell. -/
  | rich
  /-- The program of the system. -/
  | system
  deriving Repr, DecidableEq

/-- Why arguments are no condition. -/
inductive ConditionProblem where
  | bracketMissing
  | unexpectedOperator (word : Octets)
  | argumentExpected (operator : Octets)
  | closingExpected (found : Option Octets)
  | noNumber (word : Octets)
  | unaryExpected (word : Octets)
  | binaryExpected (word : Octets)
  | tooMany (word : Octets)
  deriving Repr, DecidableEq

namespace ConditionProblem

/-- A word between single quotes. -/
def quoted (word : Octets) : Octets :=
  '\'' :: word ++ ['\'']

/-- The words for a problem. -/
def message (tester : Tester) (problem : ConditionProblem) : Octets :=
  let with_ (word : Octets) (text : String) : Octets :=
    if word.isEmpty then text.toList else word ++ (": " ++ text).toList
  match tester, problem with
  | .plain, bracketMissing => "missing ]".toList
  | .rich, bracketMissing => "missing \x60]'".toList
  | .system, bracketMissing => "missing ']'".toList
  | _, unexpectedOperator word => with_ word "unexpected operator"
  | .plain, argumentExpected word => with_ word "argument expected"
  | .rich, argumentExpected _ => "argument expected".toList
  | .system, argumentExpected word => "missing argument after ".toList ++ quoted word
  | .plain, closingExpected _ => "closing paren expected".toList
  | .rich, closingExpected none => "\x60)' expected".toList
  | .rich, closingExpected (some word) => "\x60)' expected, found ".toList ++ word
  | .system, closingExpected none => "')' expected".toList
  | .system, closingExpected (some word) => "')' expected, found ".toList ++ word
  | .plain, noNumber word => "Illegal number: ".toList ++ word
  | .rich, noNumber word => word ++ ": integer expression expected".toList
  | .system, noNumber word => "invalid integer ".toList ++ quoted word
  | .system, unaryExpected word => quoted word ++ ": unary operator expected".toList
  | _, unaryExpected word => word ++ ": unary operator expected".toList
  | .system, binaryExpected word => quoted word ++ ": binary operator expected".toList
  | _, binaryExpected word => word ++ ": binary operator expected".toList
  | .system, tooMany word => "extra argument ".toList ++ quoted word
  | _, tooMany _ => "too many arguments".toList

end ConditionProblem

/-- The files that conditions are about. -/
structure TestedFiles where
  disk : Disk
  process : Process

namespace TestedFiles

/-- What stands at a path, links followed or not. -/
def node? (files : TestedFiles) (last : Disk.LastLink) (path : Octets) : Option Node :=
  match files.disk.locate last files.process.directory (pathOf path) with
  | .ok location => files.disk.node? location
  | .error _ => none

/-- Whether a file is as a letter asks. -/
def holds (files : TestedFiles) (letter : Char) (path : Octets) : Bool :=
  let followed := files.node? .followed path
  let bit (bits : Nat) : Bool := (followed.map fun node => node.mode &&& bits != 0).getD false
  match letter with
  | 'e' | 'a' | 'r' | 'w' | 'O' | 'G' => followed.isSome
  | 'f' => (followed matches some (.file ..))
  | 'd' => (followed matches some .directory)
  | 'c' => (followed matches some (.device _))
  | 'h' | 'L' => (files.node? .kept path matches some (.link _))
  | 's' =>
      match followed with
      | some (.file content _) => !content.isEmpty
      | some .directory => true
      | _ => false
  | 'x' => (followed matches some .directory) || bit executeBits
  | 'u' => bit 0o4000
  | 'g' => bit 0o2000
  | 'k' => bit 0o1000
  | _ => false

/-- Whether two paths lead to the same file. -/
def areSame (files : TestedFiles) (left right : Octets) : Bool :=
  let place (path : Octets) : Option Location :=
    (files.disk.locate .followed files.process.directory (pathOf path)).toOption.filter
      fun location => (files.disk.node? location).isSome
  match place left, place right with
  | some left, some right => left == right
  | _, _ => false

end TestedFiles

/-- Operators with one operand, each a letter behind a dash. -/
def unaryLetters : Tester → List Char
  | .plain => "bcdefghknprstuwxzLSOG".toList
  | .rich => "abcdefghknoprstuvwxzLSOGNR".toList
  | .system => "bcdefghknprstuwxzLSOGN".toList

/-- Operators between two operands. -/
def binaryOperators : Tester → List String
  | .plain => ["=", "!=", "<", ">", "-eq", "-ne", "-ge", "-gt", "-le", "-lt", "-nt", "-ot", "-ef"]
  | .rich => ["=", "==", "!=", "<", ">", "-eq", "-ne", "-ge", "-gt", "-le", "-lt", "-nt", "-ot",
      "-ef"]
  | .system => ["=", "==", "!=", "<", ">", "-eq", "-ne", "-ge", "-gt", "-le", "-lt", "-nt", "-ot",
      "-ef"]

/-- Whether a word is an operator with one operand. -/
def isUnary (tester : Tester) : Octets → Bool
  | ['-', letter] => (unaryLetters tester).contains letter
  | _ => false

/-- Whether a word is an operator between two operands. -/
def isBinary (tester : Tester) (word : Octets) : Bool :=
  (binaryOperators tester).any fun operator => operator.toList == word

/-- What conditions are tested with. -/
structure TestSetting where
  tester : Tester
  files : TestedFiles
  /-- Whether a variable or an option is set. -/
  isSet : Char → Octets → Bool := fun _ _ => false

/-- The truth of a condition, or why it is none. -/
abbrev Tested := Except ConditionProblem Bool

namespace TestSetting

/-- Test an operand. -/
def unary (setting : TestSetting) (operator operand : Octets) : Tested :=
  match operator with
  | [_, 'z'] => .ok operand.isEmpty
  | [_, 'n'] => .ok !operand.isEmpty
  | [_, 't'] =>
      match wholeNumber? operand with
      | some _ => .ok false
      | none => if setting.tester == .rich then .ok false else .error (.noNumber operand)
  | [_, 'v'] => .ok (setting.isSet 'v' operand)
  | [_, 'o'] => .ok (setting.isSet 'o' operand)
  | [_, letter] => .ok (setting.files.holds letter operand)
  | _ => .ok false

/-- Compare two operands as numbers. -/
def compareNumbers (left right : Octets) (compare : Int → Int → Bool) : Tested :=
  match wholeNumber? left, wholeNumber? right with
  | some left, some right => .ok (compare left right)
  | none, _ => .error (.noNumber left)
  | _, none => .error (.noNumber right)

/-- Compare two operands. -/
def binary (setting : TestSetting) (left operator right : Octets) : Tested :=
  let isThere (path : Octets) : Bool := setting.files.holds 'e' path
  match String.ofList operator with
  | "=" | "==" => .ok (left == right)
  | "!=" => .ok (left != right)
  | "<" => .ok (Octets.isBefore left right)
  | ">" => .ok (Octets.isBefore right left)
  | "-eq" => compareNumbers left right fun left right => left == right
  | "-ne" => compareNumbers left right fun left right => left != right
  | "-ge" => compareNumbers left right fun left right => left ≥ right
  | "-gt" => compareNumbers left right fun left right => left > right
  | "-le" => compareNumbers left right fun left right => left ≤ right
  | "-lt" => compareNumbers left right fun left right => left < right
  | "-nt" => .ok (isThere left && !isThere right)
  | "-ot" => .ok (isThere right && !isThere left)
  | _ => .ok (setting.files.areSame left right)

end TestSetting

namespace PlainTest

/-- What an argument is understood as. -/
inductive Token where
  | finish
  | operand
  | unary
  | binary
  | not
  | and
  | or
  | opening
  | closing
  deriving Repr, DecidableEq

/-- The operator that a word is, if it is one. -/
def operator? (word : Octets) : Option Token :=
  if word == ['!'] then some .not
  else if word == "-a".toList then some .and
  else if word == "-o".toList then some .or
  else if word == ['('] then some .opening
  else if word == [')'] then some .closing
  else if isUnary .plain word then some .unary
  else if isBinary .plain word then some .binary
  else none

/-- Whether the operator in front of some words is an operand after all. -/
def isOperand : List Octets → Bool
  | [] => true
  | [_] => false
  | word :: _ => operator? word == some .binary

/-- What the first of some words is understood as. -/
def token : List Octets → Token
  | [] => .finish
  | word :: rest =>
      match operator? word with
      | none => .operand
      | some .unary => if isOperand rest then .operand else .unary
      | some .opening => if rest.isEmpty then .operand else .opening
      | some token => token

mutual

/-- Test conditions of which one must hold. Answers the place of the last word used. -/
def testOr (setting : TestSetting) : (fuel : Nat) → Token → List Octets →
    Except ConditionProblem (Bool × List Octets)
  | 0, _, words => .ok (false, words)
  | fuel + 1, found, words => do
      let (left, words) ← testAnd setting fuel found words
      if token (words.drop 1) == .or then
        let words := words.drop 2
        let (right, words) ← testOr setting fuel (token words) words
        return (left || right, words)
      else
        return (left, words)

/-- Test conditions that all must hold. -/
def testAnd (setting : TestSetting) : (fuel : Nat) → Token → List Octets →
    Except ConditionProblem (Bool × List Octets)
  | 0, _, words => .ok (false, words)
  | fuel + 1, found, words => do
      let (left, words) ← testNot setting fuel found words
      if token (words.drop 1) == .and then
        let words := words.drop 2
        let (right, words) ← testAnd setting fuel (token words) words
        return (left && right, words)
      else
        return (left, words)

/-- Test a condition that may be negated. -/
def testNot (setting : TestSetting) : (fuel : Nat) → Token → List Octets →
    Except ConditionProblem (Bool × List Octets)
  | 0, _, words => .ok (false, words)
  | fuel + 1, found, words =>
      if found == .not then do
        let next := token (words.drop 1)
        let words := if next == .finish then words else words.drop 1
        let (truth, words) ← testNot setting fuel next words
        return (!truth, words)
      else
        testSingle setting fuel found words

/-- Test a single condition. -/
def testSingle (setting : TestSetting) : (fuel : Nat) → Token → List Octets →
    Except ConditionProblem (Bool × List Octets)
  | 0, _, words => .ok (false, words)
  | fuel + 1, found, words =>
      match found, words with
      | .finish, words => .ok (false, words)
      | .opening, _ :: rest =>
          if token rest == .closing then
            .ok (false, rest)
          else do
            let (truth, words) ← testOr setting fuel (token rest) rest
            if token (words.drop 1) == .closing then
              return (truth, words.drop 1)
            else
              .error (.closingExpected none)
      | .unary, operator :: rest =>
          match rest with
          | [] => .error (.argumentExpected operator)
          | operand :: _ => do return (← setting.unary operator operand, rest)
      | _, word :: rest =>
          if token rest == .binary then
            match rest with
            | [operator] => .error (.argumentExpected operator)
            | operator :: right :: more => do
                return (← setting.binary word operator right, right :: more)
            | [] => .ok (!word.isEmpty, words)
          else
            .ok (!word.isEmpty, words)
      | _, [] => .ok (false, [])

end

/-- Test a condition that all words write. -/
def testWhole (setting : TestSetting) (found : Token) (words : List Octets) : Tested := do
  let (truth, rest) ← testOr setting (4 * words.length + 8) found words
  match rest with
  | _ :: _ :: _ => .error (.unexpectedOperator (rest.head?.getD []))
  | _ => return truth

/-- Test words as their number demands. -/
def test (setting : TestSetting) : (fuel : Nat) → List Octets → Tested
  | 0, _ => .ok false
  | _ + 1, [] => .ok false
  | fuel + 1, words =>
      let isShort := words.length == 3 || words.length == 4
      match words with
      | [_, operator, _] =>
          if operator? operator == some .binary then
            testWhole setting .operand words
          else if words.head? == some ['('] && words.getLast? == some [')'] then
            let inner := words.tail.dropLast
            testWhole setting (token inner) inner
          else if words.head? == some ['!'] then
            (test setting fuel words.tail).map not
          else
            testWhole setting (token words) words
      | words =>
          if isShort && words.head? == some ['('] && words.getLast? == some [')'] then
            let inner := words.tail.dropLast
            testWhole setting (token inner) inner
          else if isShort && words.head? == some ['!'] then
            (test setting fuel words.tail).map not
          else
            testWhole setting (token words) words

end PlainTest

namespace RichTest

mutual

/-- Test conditions of which one must hold. -/
def testOr (setting : TestSetting) (last : Octets) : (fuel : Nat) → List Octets →
    Except ConditionProblem (Bool × List Octets)
  | 0, words => .ok (false, words)
  | fuel + 1, words => do
      let (left, rest) ← testAnd setting last fuel words
      match rest with
      | ['-', 'o'] :: more =>
          let (right, rest) ← testOr setting "-o".toList fuel more
          return (left || right, rest)
      | rest => return (left, rest)

/-- Test conditions that all must hold. -/
def testAnd (setting : TestSetting) (last : Octets) : (fuel : Nat) → List Octets →
    Except ConditionProblem (Bool × List Octets)
  | 0, words => .ok (false, words)
  | fuel + 1, words => do
      let (left, rest) ← testTerm setting last fuel words
      match rest with
      | ['-', 'a'] :: more =>
          let (right, rest) ← testAnd setting "-a".toList fuel more
          return (left && right, rest)
      | rest => return (left, rest)

/-- Test a single condition. -/
def testTerm (setting : TestSetting) (last : Octets) : (fuel : Nat) → List Octets →
    Except ConditionProblem (Bool × List Octets)
  | 0, words => .ok (false, words)
  | fuel + 1, words =>
      match words with
      | [] => .error (.argumentExpected last)
      | ['!'] :: rest => do
          let (truth, rest) ← testTerm setting ['!'] fuel rest
          return (!truth, rest)
      | ['('] :: rest => do
          let (truth, rest) ← testOr setting ['('] fuel rest
          match rest with
          | [')'] :: rest => return (truth, rest)
          | [] => .error (.closingExpected none)
          | word :: _ => .error (.closingExpected (some word))
      | word :: rest =>
          match rest with
          | operator :: right :: more =>
              if isBinary setting.tester operator then do
                return (← setting.binary word operator right, more)
              else if isUnary setting.tester word then do
                return (← setting.unary word operator, right :: more)
              else
                .ok (!word.isEmpty, rest)
          | [operand] =>
              if isUnary setting.tester word then do
                return (← setting.unary word operand, [])
              else
                .ok (!word.isEmpty, rest)
          | [] =>
              if isUnary setting.tester word then
                .error (.argumentExpected word)
              else
                .ok (!word.isEmpty, [])

end

/-- Test all words as one condition. -/
def testWhole (setting : TestSetting) (words : List Octets) : Tested := do
  let (truth, rest) ← testOr setting [] (4 * words.length + 8) words
  match rest with
  | [] => return truth
  | word :: _ => .error (.tooMany word)

/-- Test two words. -/
def testTwo (setting : TestSetting) (first second : Octets) : Tested :=
  if first == ['!'] then .ok second.isEmpty
  else if isUnary setting.tester first then setting.unary first second
  else .error (.unaryExpected first)

/-- Test three words. -/
def testThree (setting : TestSetting) (first second third : Octets) : Tested :=
  if isBinary setting.tester second then setting.binary first second third
  else if second == "-a".toList then .ok (!first.isEmpty && !third.isEmpty)
  else if second == "-o".toList then .ok (!first.isEmpty || !third.isEmpty)
  else if first == ['!'] then (testTwo setting second third).map not
  else if first == ['('] && third == [')'] then .ok !second.isEmpty
  else .error (.binaryExpected second)

/-- Test words as their number demands. -/
def test (setting : TestSetting) : List Octets → Tested
  | [] => .ok false
  | [word] => .ok !word.isEmpty
  | [first, second] => testTwo setting first second
  | [first, second, third] => testThree setting first second third
  | [first, second, third, fourth] =>
      if first == ['!'] then (testThree setting second third fourth).map not
      else if first == ['('] && fourth == [')'] then testTwo setting second third
      else testWhole setting [first, second, third, fourth]
  | words => testWhole setting words

end RichTest

/-- Test the condition that words write. -/
def testCondition (setting : TestSetting) (words : List Octets) : Tested :=
  match setting.tester with
  | .plain => PlainTest.test setting 10 words
  | _ => RichTest.test setting words

/-- Test the condition of a call by name; a bracket asks for another one at the end. -/
def testCall (setting : TestSetting) (name : Octets) (arguments : List Octets) : Tested :=
  if name.getLast? == some '[' then
    if arguments.getLast? == some [']'] then
      testCondition setting arguments.dropLast
    else
      .error .bracketMissing
  else
    testCondition setting arguments

end Provision.Utilities
