import Provision.Host.Matching.Regex

namespace Provision.Matching.Regex

/-!
# Reading regular expressions

Expressions are written in two ways: in the basic one, most signs stand for
themselves unless a backslash is in front of them; in the extended one it is the
other way round. The extended way can be read so that signs which have no
meaning where they stand are no errors.
-/

/-- How expressions are written. -/
inductive Flavor where
  | basic
  | extended
  /-- As the extended way, without errors for signs that have no meaning. -/
  | lenient
  deriving Repr, DecidableEq

/-- Why an expression cannot be read. -/
inductive Problem where
  /-- The expression ends where a set begins. -/
  | missingSet
  | openBracket
  | openGroup
  | closedGroup
  | openBrace
  | nothingRepeated
  | badCount
  | tooBig
  | trailingBackslash
  | badReference
  | badRange
  | badClass
  deriving Repr, DecidableEq

/-- The words for a problem. -/
def Problem.words : Problem → String
  | missingSet => "Invalid regular expression"
  | openBracket => "Unmatched [, [^, [:, [., or [="
  | openGroup => "Unmatched ( or \\("
  | closedGroup => "Unmatched ) or \\)"
  | openBrace => "Unmatched \\\x7b"
  | nothingRepeated => "Invalid preceding regular expression"
  | badCount => "Invalid content of \\\x7b\\\x7d"
  | tooBig => "Regular expression too big"
  | trailingBackslash => "Trailing backslash"
  | badReference => "Invalid back reference"
  | badRange => "Invalid range end"
  | badClass => "Invalid character class name"

/-- The groups that were read. -/
structure Groups where
  /-- The number of the latest group. -/
  latest : Nat := 0
  /-- Groups that can be referred to. -/
  closed : List Nat := []
  deriving Repr, DecidableEq

/-- What is read, with the text behind it and the groups that were read. -/
structure Fragment where
  value : Regex
  rest : Octets
  groups : Groups

/-- The text up to a sign between a colon, dot or equals sign and a bracket. -/
def spanNamed (sign : Char) : Octets → Option (Octets × Octets)
  | [] => none
  | c :: rest =>
      if c == sign && rest.head? == some ']' then
        some ([], rest.drop 1)
      else
        (spanNamed sign rest).map fun (name, rest) => (c :: name, rest)

/-- Read a character of a set, which may be written between brackets of its own. -/
def readSetChar (text : Octets) : Except Problem (Char × Octets) :=
  match text with
  | '[' :: '.' :: rest =>
      match spanNamed '.' rest with
      | some ([c], rest) => .ok (c, rest)
      | _ => .error .openBracket
  | '[' :: '=' :: rest =>
      match spanNamed '=' rest with
      | some ([c], rest) => .ok (c, rest)
      | _ => .error .openBracket
  | c :: rest => .ok (c, rest)
  | [] => .error .openBracket

/-- Read the members of a set up to its closing bracket. -/
def readMembers : (fuel : Nat) → (isFirst : Bool) → Octets →
    Except Problem (List SetMember × Octets)
  | 0, _, _ => .error .openBracket
  | fuel + 1, isFirst, text =>
      match text with
      | [] => .error .openBracket
      | ']' :: rest =>
          if isFirst then do
            let (members, rest) ← readMembers fuel false rest
            return (.single ']' :: members, rest)
          else
            .ok ([], rest)
      | '[' :: ':' :: rest =>
          match spanNamed ':' rest with
          | none => .error .openBracket
          | some (name, rest) =>
              match CharacterClass.names.lookup name with
              | none => .error .badClass
              | some found => do
                  let (members, rest) ← readMembers fuel false rest
                  return (.class found :: members, rest)
      | text => do
          let (first, rest) ← readSetChar text
          if text.head? == some '-' && !isFirst && rest.head? != some ']' then
            .error .badRange
          match rest with
          | '-' :: next :: more =>
              if next == ']' then do
                let (members, rest) ← readMembers fuel false rest
                return (.single first :: members, rest)
              else do
                let (last, rest) ← readSetChar (next :: more)
                if last < first then
                  .error .badRange
                let (members, rest) ← readMembers fuel false rest
                return (.range first last :: members, rest)
          | rest => do
              let (members, rest) ← readMembers fuel false rest
              return (.single first :: members, rest)

/-- Read a set behind its opening bracket. -/
def readSet (text : Octets) : Except Problem (Regex × Octets) := do
  match text with
  | [] | ['^'] => .error .missingSet
  | '^' :: rest =>
      let (members, rest) ← readMembers (rest.length + 1) true rest
      return (.set ⟨true, members⟩, rest)
  | text =>
      let (members, rest) ← readMembers (text.length + 1) true text
      return (.set ⟨false, members⟩, rest)

/-- The number that digits write. -/
def numberOf (digits : Octets) : Nat :=
  digits.foldl (fun number c => number * 10 + (c.toNat - '0'.toNat)) 0

/-- The most that may be counted. -/
def countLimit : Nat := 32767

/-- Text up to a comma or the closing brace, with what follows; nothing if neither comes. -/
def spanCount (flavor : Flavor) : Octets → Option (Octets × Octets)
  | [] => none
  | ',' :: rest => some ([], ',' :: rest)
  | '}' :: rest =>
      if flavor == .basic then (spanCount flavor rest).map fun (text, rest) => ('}' :: text, rest)
      else some ([], '}' :: rest)
  | '\\' :: '}' :: rest =>
      if flavor == .basic then some ([], '}' :: rest)
      else (spanCount flavor rest).map fun (text, rest) => ('\\' :: text, rest)
  | c :: rest => (spanCount flavor rest).map fun (text, rest) => (c :: text, rest)

/-- How often something is repeated at least and at most, as it is written between braces. -/
def readCounts (flavor : Flavor) (text : Octets) :
    Except Problem (Nat × Option Nat × Octets) := do
  match spanCount flavor text with
  | none => .error .openBrace
  | some (least, rest) =>
      if !least.all Char.isDigit then
        .error .badCount
      let isOpen := rest.head? == some ','
      if least.isEmpty && !isOpen then
        .error .badCount
      let (most, rest) ←
        if isOpen then
          match spanCount flavor (rest.drop 1) with
          | none => .error .openBrace
          | some (most, rest) => pure (most, rest)
        else
          pure (least, rest)
      if !most.all Char.isDigit || rest.head? != some '}' then
        .error .badCount
      let most := if most.isEmpty then none else some (numberOf most)
      return (numberOf least, most, rest.drop 1)

/-- A sign in an expression, whichever way it is written. -/
inductive Sign where
  | star
  | plus
  | optional
  | counts (least : Nat) (most : Option Nat)
  deriving Repr, DecidableEq

/-- Read the counts behind an opening brace. -/
def readBraces (flavor : Flavor) (text : Octets) : Except Problem (Sign × Octets) := do
  let (least, most, rest) ← readCounts flavor text
  if most.any (· < least) then
    .error .badCount
  if countLimit < most.getD least then
    .error .tooBig
  return (.counts least most, rest)

/-- The sign that says how often what is in front of it is repeated, if there is one. -/
def readSign? (flavor : Flavor) (text : Octets) : Except Problem (Option (Sign × Octets)) :=
  match flavor, text with
  | _, '*' :: rest => .ok (some (.star, rest))
  | .basic, '\\' :: '+' :: rest => .ok (some (.plus, rest))
  | .basic, '\\' :: '?' :: rest => .ok (some (.optional, rest))
  | .basic, '\\' :: '{' :: rest => (readBraces .basic rest).map some
  | .basic, _ => .ok none
  | _, '+' :: rest => .ok (some (.plus, rest))
  | _, '?' :: rest => .ok (some (.optional, rest))
  | .extended, '{' :: rest => (readBraces .extended rest).map some
  | .lenient, '{' :: rest =>
      match readCounts .lenient rest with
      | .ok _ => (readBraces .lenient rest).map some
      | .error _ => .ok none
  | _, _ => .ok none

/-- An expression, repeated as a sign says. -/
def Sign.apply (sign : Sign) (body : Regex) : Regex :=
  match sign with
  | star => .repeated body 0 none
  | plus => .repeated body 1 none
  | optional => .repeated body 0 (some 1)
  | counts least most => .repeated body least most

/-- Read signs that say how often an expression is repeated. -/
def readRepeats (flavor : Flavor) : (fuel : Nat) → Regex → Octets →
    Except Problem (Regex × Octets)
  | 0, body, rest => .ok (body, rest)
  | fuel + 1, body, rest => do
      match ← readSign? flavor rest with
      | some (sign, rest) => readRepeats flavor fuel (sign.apply body) rest
      | none => return (body, rest)

/-- Characters of a class behind a backslash. -/
def classOfLetter? : Char → Option OctetSet
  | 'w' => some ⟨false, [.class .word]⟩
  | 'W' => some ⟨true, [.class .word]⟩
  | 's' => some ⟨false, [.class .space]⟩
  | 'S' => some ⟨true, [.class .space]⟩
  | _ => none

/-- Read what stands behind a backslash and is no sign of repetition. -/
def readEscaped (groups : Groups) (c : Char) : Except Problem Regex :=
  match classOfLetter? c with
  | some found => .ok (.set found)
  | none =>
      match c with
      | '<' => .ok .wordStart
      | '>' => .ok .wordEnd
      | 'b' => .ok .wordBorder
      | 'B' => .ok .noBorder
      | '\x60' => .ok .lineStart
      | '\'' => .ok .lineEnd
      | 'n' => .ok (.single '\n')
      | c =>
          if '1' ≤ c && c ≤ '9' then
            let number := c.toNat - '0'.toNat
            if groups.closed.contains number then .ok (.again number) else .error .badReference
          else
            .ok (.single c)

/-- Whether the text begins with what closes a group. -/
def closesGroup (flavor : Flavor) (text : Octets) : Bool :=
  match flavor with
  | .basic => "\\)".toList.isPrefixOf text
  | .extended | .lenient => text.head? == some ')'

/-- Whether the text begins with what stands between choices. -/
def separatesChoices (flavor : Flavor) (text : Octets) : Bool :=
  match flavor with
  | .basic => "\\|".toList.isPrefixOf text
  | .extended | .lenient => text.head? == some '|'

/-- The text behind a sign that a basic expression writes with a backslash. -/
def behindSign (flavor : Flavor) (text : Octets) : Octets :=
  match flavor with
  | .basic => text.drop 2
  | .extended | .lenient => text.drop 1

mutual

/-- Read choices up to the end or the close of a group. -/
def readChoices (flavor : Flavor) : (fuel : Nat) → (depth : Nat) → Octets → (groups : Groups) →
    Except Problem Fragment
  | 0, _, text, groups => .ok ⟨.empty, text, groups⟩
  | fuel + 1, depth, text, groups => do
      let first ← readBranch flavor fuel depth true text groups
      if separatesChoices flavor first.rest then
        let second ← readChoices flavor fuel depth (behindSign flavor first.rest)
          { first.groups with closed := groups.closed }
        return { second with
          value := .either first.value second.value
          groups := { second.groups with
            closed := first.groups.closed ++ second.groups.closed } }
      else
        return first

/-- Read the parts of a choice; `isFirst` tells whether nothing stands before them. -/
def readBranch (flavor : Flavor) : (fuel : Nat) → (depth : Nat) → (isFirst : Bool) → Octets →
    (groups : Groups) → Except Problem Fragment
  | 0, _, _, text, groups => .ok ⟨.empty, text, groups⟩
  | fuel + 1, depth, isFirst, text, groups => do
      let ends := text.isEmpty || separatesChoices flavor text ||
        (closesGroup flavor text && (0 < depth || flavor != .lenient))
      if ends then
        if closesGroup flavor text && depth == 0 then
          .error .closedGroup
        return ⟨.empty, text, groups⟩
      else
        let part ← readPart flavor fuel depth isFirst text groups
        let anchors := part.value == .lineStart
        let (value, rest) ←
          if anchors then pure (part.value, part.rest)
          else readRepeats flavor fuel part.value part.rest
        let others ← readBranch flavor fuel depth anchors rest part.groups
        let whole := if others.value == .empty then value else .sequence value others.value
        return { others with value := whole }

/-- Read one part of an expression. -/
def readPart (flavor : Flavor) : (fuel : Nat) → (depth : Nat) → (isFirst : Bool) → Octets →
    (groups : Groups) → Except Problem Fragment
  | 0, _, _, text, groups => .ok ⟨.empty, text, groups⟩
  | fuel + 1, depth, isFirst, text, groups => do
      let group (rest : Octets) : Except Problem Fragment := do
        let number := groups.latest + 1
        let body ← readChoices flavor fuel (depth + 1) rest { groups with latest := number }
        if closesGroup flavor body.rest then
          return {
            value := .group number body.value
            rest := behindSign flavor body.rest
            groups := { body.groups with closed := number :: body.groups.closed } }
        else
          .error .openGroup
      match text with
      | [] => .ok ⟨.empty, [], groups⟩
      | '\\' :: rest =>
          match rest with
          | [] => .error .trailingBackslash
          | '(' :: rest =>
              if flavor == .basic then group rest else .ok ⟨.single '(', rest, groups⟩
          | '{' :: rest =>
              if flavor == .basic && isFirst then
                .error .nothingRepeated
              else
                .ok ⟨.single '{', rest, groups⟩
          | c :: rest => return ⟨← readEscaped groups c, rest, groups⟩
      | '[' :: rest =>
          let (found, rest) ← readSet rest
          return ⟨found, rest, groups⟩
      | '.' :: rest => .ok ⟨.anything, rest, groups⟩
      | '(' :: rest => if flavor == .basic then .ok ⟨.single '(', rest, groups⟩ else group rest
      | '^' :: rest =>
          if flavor != .basic || isFirst then
            .ok ⟨.lineStart, rest, groups⟩
          else
            .ok ⟨.single '^', rest, groups⟩
      | '$' :: rest =>
          let isLast := rest.isEmpty || separatesChoices flavor rest || closesGroup flavor rest
          if flavor != .basic || isLast then
            .ok ⟨.lineEnd, rest, groups⟩
          else
            .ok ⟨.single '$', rest, groups⟩
      | c :: rest =>
          let repeats := c == '*' || (flavor != .basic && (c == '+' || c == '?'))
          let opens := flavor == .extended && c == '{'
          if !isFirst || !(repeats || opens) || flavor == .basic then .ok ⟨.single c, rest, groups⟩
          else if flavor == .extended then .error .nothingRepeated
          else .ok ⟨.empty, rest, groups⟩

end

/-- Read a whole expression. -/
def ofText (flavor : Flavor) (text : Octets) : Except Problem Regex := do
  let found ← readChoices flavor (8 * text.length + 20) 0 text {}
  if closesGroup flavor found.rest then
    .error .closedGroup
  return found.value

/-- The expression that matches a text and nothing else. -/
def ofLiteral (text : Octets) : Regex :=
  ofList (text.map .single)

end Provision.Matching.Regex
