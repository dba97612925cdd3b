import Provision.Host.Matching.CharacterClass
import Provision.Host.Shell.Variables

namespace Provision.Shell

open Programs

/-!
# Calculations

Expressions over whole numbers of sixty-four bits, which wrap around. Variables
are numbers, or texts that are calculated in turn where the dialect does so.
-/

/-- The number of sixty-four bits that a number wraps to. -/
def wrapped (number : Int) : Int :=
  Int.bmod number (Nat.pow 2 64)

/-- The greatest number. -/
def greatestNumber : Int := Int.pow 2 63 - 1

/-- The least number. -/
def leastNumber : Int := -Int.pow 2 63

/-- A number moved to the nearest that can be held. -/
def clamped (number : Int) : Int :=
  min greatestNumber (max leastNumber number)

/-- An operator between two numbers. -/
inductive BinaryOperator where
  | add | subtract | multiply | divide | remainder | power
  | shiftLeft | shiftRight
  | less | lessEqual | greater | greaterEqual | equal | different
  | bitAnd | bitXor | bitOr
  deriving Repr, DecidableEq

/-- An expression. -/
inductive Expression where
  | number (number : Int)
  | reference (name : Octets) (index : Option Octets)
  | negate (operand : Expression)
  | complement (operand : Expression)
  | not (operand : Expression)
  /-- The text from the right operand on is told if it must not be zero. -/
  | binary (operator : BinaryOperator) (left right : Expression) (behind : Octets)
  | both (left right : Expression)
  | either (left right : Expression)
  | choose (condition yes no : Expression)
  | assign (name : Octets) (index : Option Octets) (operator : Option BinaryOperator)
      (value : Expression) (behind : Octets)
  /-- Changes a variable by one, and is its value before or after that. -/
  | step (name : Octets) (index : Option Octets) (change : Int) (before : Bool)
  | sequence (left right : Expression)
  deriving Repr

/-- Why an expression cannot be calculated. -/
inductive ArithmeticCause where
  | operandExpected
  | closingExpected
  | colonExpected
  | expressionExpected
  | endExpected
  | badOperator
  | divisionByZero
  | negativeExponent
  | notAssignable
  | badDigit
  | badBase
  | tooDeep
  deriving Repr, DecidableEq

namespace ArithmeticCause

/-- The words for a cause. -/
def words : Dialect → ArithmeticCause → String
  | .dash, operandExpected => "expecting primary"
  | .dash, closingExpected => "expecting ')'"
  | .dash, colonExpected => "expecting ':'"
  | .dash, divisionByZero => "division by zero"
  | .dash, expressionExpected => "expecting primary"
  | .dash, _ => "expecting EOF"
  | .bash, operandExpected => "syntax error: operand expected"
  | .bash, closingExpected => "missing \x60)'"
  | .bash, colonExpected => "\x60:' expected for conditional expression"
  | .bash, expressionExpected => "expression expected"
  | .bash, endExpected => "syntax error in expression"
  | .bash, badOperator => "syntax error: invalid arithmetic operator"
  | .bash, divisionByZero => "division by 0"
  | .bash, negativeExponent => "exponent less than 0"
  | .bash, notAssignable => "attempted assignment to non-variable"
  | .bash, badDigit => "value too great for base"
  | .bash, badBase => "invalid arithmetic base"
  | .bash, tooDeep => "expression recursion level exceeded"

end ArithmeticCause

/-- A problem, with the text from where it was found. -/
structure ArithmeticProblem where
  cause : ArithmeticCause
  behind : Octets
  deriving Repr, DecidableEq

/-- A piece of an expression. -/
inductive ArithmeticToken where
  | number (number : Int)
  | name (name : Octets) (index : Option Octets)
  | sign (sign : String)
  | bad
  deriving Repr, DecidableEq

/-- Tokens, each with the text from it on. -/
abbrev ArithmeticTokens := List (ArithmeticToken × Octets)

namespace Expression

/-- Signs of expressions, the longest first. -/
def signs : Dialect → List String
  | .dash => ["<<=", ">>=", "&&", "||", "==", "!=", "<=", ">=", "<<", ">>", "+=", "-=", "*=", "/=",
      "%=", "&=", "|=", "^=", "=", "+", "-", "*", "/", "%", "<", ">", "&", "|", "^", "~", "!",
      "?", ":", "(", ")"]
  | .bash => ["<<=", ">>=", "&&", "||", "==", "!=", "<=", ">=", "<<", ">>", "+=", "-=", "*=", "/=",
      "%=", "&=", "|=", "^=", "++", "--", "**", "=", "+", "-", "*", "/", "%", "<", ">", "&", "|",
      "^", "~", "!", "?", ":", "(", ")", ","]

/-- The value of a digit, where lower letters count before capitals. -/
def digitValue? (base : Nat) (c : Char) : Option Nat :=
  let value :=
    if c.isDigit then some (c.toNat - '0'.toNat)
    else if c.isLower then some (c.toNat - 'a'.toNat + 10)
    else if c.isUpper then some (c.toNat - 'A'.toNat + (if base ≤ 36 then 10 else 36))
    else if c == '@' then some 62
    else if c == '_' then some 63
    else none
  value.filter (· < base)

/-- The number that digits write in a base. -/
def inBase (base : Nat) (digits : Octets) : Option Nat :=
  digits.foldl (fun number c => do return (← number) * base + (← digitValue? base c)) (some 0)

/-- Read a number in front of a text. Answers what is left of it. -/
def spanPlainNumber (text : Octets) : Int × Octets :=
  match text with
  | '0' :: x :: c :: rest =>
      if (x == 'x' || x == 'X') && isHexDigit c then
        let digits := (c :: rest).takeWhile isHexDigit
        (clamped (numberOfDigits 16 digits), (c :: rest).drop digits.length)
      else
        let digits := text.takeWhile isOctalDigit
        (clamped (numberOfDigits 8 digits), text.drop digits.length)
  | '0' :: _ =>
      let digits := text.takeWhile isOctalDigit
      (clamped (numberOfDigits 8 digits), text.drop digits.length)
  | _ =>
      let digits := text.takeWhile Char.isDigit
      (clamped (numberOfDigits 10 digits), text.drop digits.length)

/-- Read a number that may name its base. -/
def richNumber (word : Octets) : Except ArithmeticCause Int :=
  let number (base : Nat) (digits : Octets) : Except ArithmeticCause Int :=
    match inBase base digits with
    | some found => .ok (wrapped found)
    | none => .error .badDigit
  match splitAtSign '#' word with
  | some (base, digits) =>
      match inBase 10 base with
      | some base => if 2 ≤ base && base ≤ 64 then number base digits else .error .badBase
      | none => .error .badDigit
  | none =>
      match word with
      | '0' :: 'x' :: digits => number 16 (digits.map Char.toLower)
      | '0' :: 'X' :: digits => number 16 (digits.map Char.toLower)
      | '0' :: digits => number 8 digits
      | digits => number 10 digits

/-- The text up to the closing bracket, other brackets in between. -/
def spanIndex : (depth : Nat) → Octets → Option (Octets × Octets)
  | _, [] => none
  | depth, c :: rest =>
      if c == ']' then
        match depth with
        | 0 => some ([], rest)
        | depth + 1 => (spanIndex depth rest).map fun (text, rest) => (c :: text, rest)
      else
        let depth := if c == '[' then depth + 1 else depth
        (spanIndex depth rest).map fun (text, rest) => (c :: text, rest)

/-- Cut a text into tokens. -/
def tokens (dialect : Dialect) : (fuel : Nat) → Octets →
    Except ArithmeticProblem ArithmeticTokens
  | 0, _ => .ok []
  | _ + 1, [] => .ok []
  | fuel + 1, c :: rest =>
      let text := c :: rest
      if c == ' ' || c == '\t' || c == '\n' then
        tokens dialect fuel rest
      else if c.isDigit then
        match dialect with
        | .dash => do
            let (found, rest) := spanPlainNumber text
            return (.number found, text) :: (← tokens dialect fuel rest)
        | .bash => do
            let word := text.takeWhile fun c => continuesName c || c == '#' || c == '@'
            match richNumber word with
            | .ok found =>
                return (.number found, text) ::
                  (← tokens dialect fuel (text.drop word.length))
            | .error cause => .error ⟨cause, text⟩
      else if startsName c then do
        let name := text.takeWhile continuesName
        let behind := text.drop name.length
        match dialect, behind with
        | .bash, '[' :: behind =>
            match spanIndex 0 behind with
            | some (index, rest) =>
                return (.name name (some index), text) :: (← tokens dialect fuel rest)
            | none => return [(.bad, text)]
        | _, _ => return (.name name none, text) :: (← tokens dialect fuel behind)
      else
        match (signs dialect).find? fun sign => sign.toList.isPrefixOf text with
        | some sign => do
            return (.sign sign, text) :: (← tokens dialect fuel (text.drop sign.length))
        | none => .ok [(.bad, text)]

/-- The operator that a sign with an equals sign behind it assigns with. -/
def assigningOperator? : String → Option (Option BinaryOperator)
  | "=" => some none
  | "+=" => some (some .add)
  | "-=" => some (some .subtract)
  | "*=" => some (some .multiply)
  | "/=" => some (some .divide)
  | "%=" => some (some .remainder)
  | "<<=" => some (some .shiftLeft)
  | ">>=" => some (some .shiftRight)
  | "&=" => some (some .bitAnd)
  | "|=" => some (some .bitOr)
  | "^=" => some (some .bitXor)
  | _ => none

/-- How an operator binds, and what it makes of its operands. -/
inductive Binding where
  | operator (operator : BinaryOperator)
  | both
  | either

/-- The operators between two operands with their strengths. -/
def binding? : String → Option (Nat × Binding)
  | "||" => some (1, .either)
  | "&&" => some (2, .both)
  | "|" => some (3, .operator .bitOr)
  | "^" => some (4, .operator .bitXor)
  | "&" => some (5, .operator .bitAnd)
  | "==" => some (6, .operator .equal)
  | "!=" => some (6, .operator .different)
  | "<" => some (7, .operator .less)
  | "<=" => some (7, .operator .lessEqual)
  | ">" => some (7, .operator .greater)
  | ">=" => some (7, .operator .greaterEqual)
  | "<<" => some (8, .operator .shiftLeft)
  | ">>" => some (8, .operator .shiftRight)
  | "+" => some (9, .operator .add)
  | "-" => some (9, .operator .subtract)
  | "*" => some (10, .operator .multiply)
  | "/" => some (10, .operator .divide)
  | "%" => some (10, .operator .remainder)
  | _ => none

/-- What is left to be read, with the text from the latest token on. -/
structure Place where
  rest : ArithmeticTokens
  latest : Octets := []

namespace Place

/-- Move behind the next token. -/
def next (place : Place) : Place :=
  match place.rest with
  | [] => place
  | (_, behind) :: rest => ⟨rest, behind⟩

/-- The text from which a problem is told. -/
def behind (place : Place) : Octets :=
  match place.rest with
  | [] => place.latest
  | (_, behind) :: _ => behind

/-- Whether a sign comes next. -/
def isAt (place : Place) (sign : String) : Bool :=
  match place.rest with
  | (.sign found, _) :: _ => found == sign
  | _ => false

end Place

/-- A part of an expression with what is left behind it. -/
abbrev Reading := Except ArithmeticProblem (Expression × Place)

/-- Report a problem at a place. -/
def problem (cause : ArithmeticCause) (place : Place) : Reading :=
  .error ⟨cause, place.behind⟩

/-- Join two expressions as a binding tells. -/
def Binding.join (binding : Binding) (left right : Expression) (behind : Octets) : Expression :=
  match binding with
  | .operator found => .binary found left right behind
  | .both => .both left right
  | .either => .either left right

mutual

/-- Read an operand with the signs in front of it. -/
def readOperand (dialect : Dialect) : (fuel : Nat) → Place → Reading
  | 0, place => problem .tooDeep place
  | fuel + 1, place =>
      match place.rest with
      | (.number found, _) :: _ => .ok (.number found, place.next)
      | (.name name index, _) :: _ =>
          let behind := place.next
          if behind.isAt "++" then
            .ok (.step name index 1 true, behind.next)
          else if behind.isAt "--" then
            .ok (.step name index (-1) true, behind.next)
          else
            .ok (.reference name index, behind)
      | (.sign "(", _) :: _ => do
          let (inner, place) ← readSequence dialect fuel place.next
          if place.isAt ")" then return (inner, place.next) else problem .closingExpected place
      | (.sign "-", _) :: _ => do
          let (operand, place) ← readOperand dialect fuel place.next
          return (.negate operand, place)
      | (.sign "+", _) :: _ => readOperand dialect fuel place.next
      | (.sign "!", _) :: _ => do
          let (operand, place) ← readOperand dialect fuel place.next
          return (.not operand, place)
      | (.sign "~", _) :: _ => do
          let (operand, place) ← readOperand dialect fuel place.next
          return (.complement operand, place)
      | (.sign "++", _) :: _ => readStep dialect fuel 1 place.next
      | (.sign "--", _) :: _ => readStep dialect fuel (-1) place.next
      | (.bad, _) :: _ => problem .operandExpected place
      | _ => problem .operandExpected place

/-- Read what stands behind a doubled sign. -/
def readStep (dialect : Dialect) : (fuel : Nat) → Int → Place → Reading
  | 0, _, place => problem .tooDeep place
  | fuel + 1, change, place =>
      match place.rest with
      | (.name name index, _) :: _ => .ok (.step name index change false, place.next)
      | _ => do
          let (operand, place) ← readOperand dialect fuel place
          return (if change < 0 then .negate (.negate operand) else operand, place)

/-- Read an operand that may be raised to a power. -/
def readPower (dialect : Dialect) : (fuel : Nat) → Place → Reading
  | 0, place => problem .tooDeep place
  | fuel + 1, place => do
      let (base, place) ← readOperand dialect fuel place
      if place.isAt "**" then
        let (exponent, place) ← readPower dialect fuel place.next
        return (.binary .power base exponent place.latest, place)
      else
        return (base, place)

/-- Read operators of at least a strength. -/
def readBinary (dialect : Dialect) : (fuel : Nat) → (strength : Nat) → Place → Reading
  | 0, _, place => problem .tooDeep place
  | fuel + 1, strength, place => do
      let (left, place) ← readPower dialect fuel place
      readBinaryRest dialect fuel strength left place

/-- Read operators behind a left operand. -/
def readBinaryRest (dialect : Dialect) :
    (fuel : Nat) → (strength : Nat) → Expression → Place → Reading
  | 0, _, left, place => .ok (left, place)
  | fuel + 1, strength, left, place =>
      match place.rest with
      | (.sign sign, _) :: _ =>
          match binding? sign with
          | some (found, binding) =>
              if found < strength then
                .ok (left, place)
              else do
                let behind := place.next.behind
                let (right, place) ← readBinary dialect fuel (found + 1) place.next
                readBinaryRest dialect fuel strength (binding.join left right behind) place
          | none => .ok (left, place)
      | _ => .ok (left, place)

/-- Read an expression that may be a choice. -/
def readChoice (dialect : Dialect) : (fuel : Nat) → Place → Reading
  | 0, place => problem .tooDeep place
  | fuel + 1, place => do
      let (condition, place) ← readBinary dialect fuel 1 place
      if place.isAt "?" then
        let behind := place.next
        if dialect == .bash && behind.isAt ":" then
          problem .expressionExpected behind
        else
          let (yes, place) ← readAssignment dialect fuel behind
          if place.isAt ":" then
            let (no, place) ← readChoice dialect fuel place.next
            return (.choose condition yes no, place)
          else
            problem .colonExpected place
      else
        return (condition, place)

/-- Read an expression that may be an assignment. -/
def readAssignment (dialect : Dialect) : (fuel : Nat) → Place → Reading
  | 0, place => problem .tooDeep place
  | fuel + 1, place => do
      let (left, behind) ← readChoice dialect fuel place
      match behind.rest with
      | (.sign sign, _) :: _ =>
          match assigningOperator? sign, left with
          | some operator, .reference name index =>
              let text := behind.next.behind
              let (value, place) ← readAssignment dialect fuel behind.next
              return (.assign name index operator value text, place)
          | some _, _ =>
              if dialect == .bash then problem .notAssignable behind else return (left, behind)
          | none, _ => return (left, behind)
      | _ => return (left, behind)

/-- Read expressions with commas between them. -/
def readSequence (dialect : Dialect) : (fuel : Nat) → Place → Reading
  | 0, place => problem .tooDeep place
  | fuel + 1, place => do
      let (left, place) ← readAssignment dialect fuel place
      if place.isAt "," then
        let (right, place) ← readSequence dialect fuel place.next
        return (.sequence left right, place)
      else
        return (left, place)

end

/-- Read a whole text as an expression. -/
def ofText (dialect : Dialect) (text : Octets) : Except ArithmeticProblem Expression := do
  let tokens ← tokens dialect (text.length + 1) text
  match tokens, dialect with
  | [], .bash => return .number 0
  | tokens, _ =>
      let (expression, place) ← readSequence dialect (20 * tokens.length + 30) ⟨tokens, []⟩
      match place.rest with
      | [] => return expression
      | (.bad, behind) :: _ => .error ⟨.badOperator, behind⟩
      | _ => .error ⟨.endExpected, place.behind⟩

/-- The number of sixty-four bits without a sign that has the bits of a number. -/
def bitsOf (number : Int) : Nat :=
  (Int.emod number (Int.pow 2 64)).toNat

/-- The number that stands for truth. -/
def ofTruth (truth : Bool) : Int :=
  if truth then 1 else 0

/-- Raise a number to a power. -/
def power (base : Int) (exponent : Nat) : Int :=
  ((List.range exponent).foldl (fun number _ => wrapped (number * base)) 1)

/-- What an operator makes of two numbers. -/
def BinaryOperator.apply? (operator : BinaryOperator) (left right : Int) :
    Except ArithmeticCause Int :=
  match operator with
  | .add => .ok (wrapped (left + right))
  | .subtract => .ok (wrapped (left - right))
  | .multiply => .ok (wrapped (left * right))
  | .divide => if right == 0 then .error .divisionByZero else .ok (wrapped (Int.tdiv left right))
  | .remainder =>
      if right == 0 then .error .divisionByZero else .ok (wrapped (Int.tmod left right))
  | .power =>
      if right < 0 then .error .negativeExponent
      else if left == 0 || left == 1 then .ok (if right == 0 then 1 else left)
      else if left == -1 then .ok (if right % 2 == 0 then 1 else -1)
      else .ok (power left (min right.toNat 64))
  | .shiftLeft => .ok (wrapped ((bitsOf left <<< (bitsOf right % 64) : Nat) : Int))
  | .shiftRight => .ok (Int.fdiv left (Int.pow 2 (bitsOf right % 64)))
  | .less => .ok (ofTruth (left < right))
  | .lessEqual => .ok (ofTruth (left ≤ right))
  | .greater => .ok (ofTruth (left > right))
  | .greaterEqual => .ok (ofTruth (left ≥ right))
  | .equal => .ok (ofTruth (left == right))
  | .different => .ok (ofTruth (left != right))
  | .bitAnd => .ok (wrapped ((bitsOf left &&& bitsOf right : Nat) : Int))
  | .bitXor => .ok (wrapped ((bitsOf left ^^^ bitsOf right : Nat) : Int))
  | .bitOr => .ok (wrapped ((bitsOf left ||| bitsOf right : Nat) : Int))

end Expression

/-- The number that a whole text writes for utilities and builtins, if it writes one. -/
def plainNumber? (text : Octets) : Option Int :=
  let text := text.dropWhile Matching.CharacterClass.isSpace
  let (negative, digits) :=
    match text with
    | '-' :: rest => (true, rest)
    | '+' :: rest => (false, rest)
    | rest => (false, rest)
  if !digits.isEmpty && digits.all Char.isDigit then
    let number : Int := numberOfDigits 10 digits
    some (if negative then -number else number)
  else
    none

/-- The number that a text writes, whose base its beginning tells. -/
def variableNumber? (text : Octets) : Option Int :=
  let isSpace := Matching.CharacterClass.isSpace
  let text := text.dropWhile isSpace
  let (negative, digits) :=
    match text with
    | '-' :: rest => (true, rest)
    | '+' :: rest => (false, rest)
    | rest => (false, rest)
  if text.isEmpty then
    some 0
  else if (digits.head?.map Char.isDigit).getD false then
    let (number, rest) := Expression.spanPlainNumber digits
    if rest.all isSpace then some (if negative then -number else number) else none
  else
    none

namespace Sh

/-- Complain about a calculation. -/
def failArithmetic (whole : Octets) (problem : ArithmeticProblem) : Sh α := do
  let dialect ← dialect
  let words := (problem.cause.words dialect).toList
  match dialect with
  | .dash => fail ("arithmetic expression: ".toList ++ words ++ ": \"".toList ++ whole ++ ['"'])
  | .bash =>
      let shown := whole.dropWhile fun c => c == ' ' || c == '\t' || c == '\n'
      let token := " (error token is \"".toList ++ problem.behind ++ "\")".toList
      fail (shown ++ ": ".toList ++ words ++ token)

/-- Give an element of an array a text. -/
def assignElement (name : Octets) (index : Nat) (text : Octets) : Sh Unit := do
  let name ← target name referenceLimit
  refuseReadOnly name
  changeVariable name fun held =>
    { held with value := .list (insertElement index text held.value.numbered) }

/-- Give a key of an array a text. -/
def assignKey (name key text : Octets) : Sh Unit := do
  let name ← target name referenceLimit
  refuseReadOnly name
  changeVariable name fun held =>
    let entries :=
      match held.value with
      | .table entries => entries
      | _ => []
    { held with value := .table (setEntry key text entries) }

/-- Whether a variable has keys that are texts. -/
def isTable (name : Octets) : Sh Bool := do
  let name ← target name referenceLimit
  return match ((← get).bindings.lookup name).map Variable.value with
  | some (.table _) => true
  | _ => false

/-- The number that an index counts from the end of an array, if it is negative. -/
def elementIndex (name : Octets) (index : Int) : Sh (Option Nat) := do
  if 0 ≤ index then
    return some index.toNat
  else
    let name ← target name referenceLimit
    let elements := (((← get).bindings.lookup name).map fun held => held.value.numbered).getD []
    let size : Int := (elements.getLast?.map fun entry => (entry.1 : Int) + 1).getD 0
    return if 0 ≤ size + index then some (size + index).toNat else none

mutual

/-- Calculate the number that a text writes. -/
def calculate : (fuel : Nat) → Octets → Sh Int
  | 0, text => failArithmetic text ⟨.tooDeep, text⟩
  | fuel + 1, text => do
      match Expression.ofText (← dialect) text with
      | .ok expression => calculated fuel text expression
      | .error problem => failArithmetic text problem

/-- The number that a variable or an element of an array holds. -/
def numberOf : (fuel : Nat) → Octets → Option Octets → Sh Int
  | 0, name, _ => failArithmetic name ⟨.tooDeep, name⟩
  | fuel + 1, name, index => do
      let text? ←
        match index with
        | none => value? name
        | some index =>
            if ← isTable name then do
              let name ← target name referenceLimit
              pure (match ((← get).bindings.lookup name).map Variable.value with
                | some (.table entries) => entries.lookup index
                | _ => none)
            else do
              let number ← calculate fuel index
              let name ← target name referenceLimit
              let elements :=
                (((← get).bindings.lookup name).map fun held => held.value.numbered).getD []
              match ← elementIndex name number with
              | some number => pure (elements.lookup number)
              | none => pure none
      match text?, ← dialect with
      | none, .dash =>
          if ← hasFlag 'u' then
            fail (name ++ ": parameter not set".toList)
          else
            return 0
      | none, .bash =>
          if ← hasFlag 'u' then
            complain (name ++ ": unbound variable".toList)
            jump (.exit 1)
          else
            return 0
      | some text, .dash =>
          match variableNumber? text with
          | some number =>
              if clamped number == number then
                return number
              else
                fail ("Illegal number: ".toList ++ text)
          | none => fail ("Illegal number: ".toList ++ text)
      | some text, .bash => calculate fuel text

/-- Give a variable or an element of an array a number. -/
def putNumber : (fuel : Nat) → Octets → Option Octets → Int → Sh Unit
  | 0, name, _, _ => failArithmetic name ⟨.tooDeep, name⟩
  | fuel + 1, name, index, number => do
      match index with
      | none => assign name (decimal number)
      | some index =>
          if ← isTable name then
            assignKey name index (decimal number)
          else
            match ← elementIndex name (← calculate fuel index) with
            | some index => assignElement name index (decimal number)
            | none => return ()

/-- The number that an expression stands for. -/
def calculated : (fuel : Nat) → (whole : Octets) → Expression → Sh Int
  | 0, whole, _ => failArithmetic whole ⟨.tooDeep, whole⟩
  | fuel + 1, whole, expression => do
      let join (operator : BinaryOperator) (left right : Int) (behind : Octets) : Sh Int := do
        match Expression.BinaryOperator.apply? operator left right with
        | .ok number => return number
        | .error cause => failArithmetic whole ⟨cause, behind⟩
      match expression with
      | .number number => return wrapped number
      | .reference name index => numberOf fuel name index
      | .negate operand => return wrapped (-(← calculated fuel whole operand))
      | .complement operand => return -1 - (← calculated fuel whole operand)
      | .not operand => return Expression.ofTruth ((← calculated fuel whole operand) == 0)
      | .binary operator left right behind =>
          let left ← calculated fuel whole left
          let right ← calculated fuel whole right
          join operator left right behind
      | .both left right =>
          if (← calculated fuel whole left) == 0 then
            return 0
          else
            return Expression.ofTruth ((← calculated fuel whole right) != 0)
      | .either left right =>
          if (← calculated fuel whole left) != 0 then
            return 1
          else
            return Expression.ofTruth ((← calculated fuel whole right) != 0)
      | .choose condition yes no =>
          if (← calculated fuel whole condition) != 0 then
            calculated fuel whole yes
          else
            calculated fuel whole no
      | .assign name index operator value behind =>
          let number ←
            match operator with
            | none => calculated fuel whole value
            | some operator => do
                let old ← numberOf fuel name index
                let value ← calculated fuel whole value
                join operator old value behind
          putNumber fuel name index number
          return number
      | .step name index change before =>
          let old ← numberOf fuel name index
          let new := wrapped (old + change)
          putNumber fuel name index new
          return if before then old else new
      | .sequence left right =>
          discard (calculated fuel whole left)
          calculated fuel whole right

end

/-- How deep the texts of variables are calculated in turn. -/
def calculationDepth : Nat := 1024

/-- The number that the text of an expression stands for. -/
def evaluate (text : Octets) : Sh Int :=
  calculate calculationDepth text

end Sh

end Provision.Shell
