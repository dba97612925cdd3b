import Provision.Host.Matching.CharacterClass

namespace Provision.Matching

/-!
# Regular expressions

An expression matches the longest text that begins as early as possible. Of the
ways to match that text, the one counts in which the parts on the left are as
long as they can be.
-/

/-- A regular expression. -/
inductive Regex where
  | empty
  | anything
  | set (set : OctetSet)
  | lineStart
  | lineEnd
  | wordStart
  | wordEnd
  /-- The beginning or the end of a word. -/
  | wordBorder
  /-- No beginning or end of a word. -/
  | noBorder
  /-- No word stands right in front. -/
  | notBehindWord
  /-- No word stands right behind. -/
  | notBeforeWord
  | sequence (first second : Regex)
  | either (first second : Regex)
  | repeated (body : Regex) (least : Nat) (most : Option Nat)
  /-- What its body matches can be referred to by a number. -/
  | group (number : Nat) (body : Regex)
  /-- What a group has matched, once more. -/
  | again (number : Nat)
  deriving Repr, DecidableEq, Inhabited

namespace Regex

/-- The expression for one character. -/
def single (c : Char) : Regex :=
  .set { members := [.single c] }

/-- Expressions one behind the other. -/
def ofList : List Regex → Regex
  | [] => .empty
  | [last] => last
  | first :: rest => .sequence first (ofList rest)

/-- Whether an expression refers to what a group has matched. -/
def refers : Regex → Bool
  | .again _ => true
  | .sequence first second | .either first second => first.refers || second.refers
  | .repeated body .. | .group _ body => body.refers
  | _ => false

/-- How many groups an expression has. -/
def groups : Regex → Nat
  | .sequence first second | .either first second => first.groups + second.groups
  | .repeated body .. => body.groups
  | .group _ body => body.groups + 1
  | _ => 0

/-- How texts are matched. -/
structure Style where
  /-- Whether the case of letters does not count. -/
  folds : Bool := false
  /-- Whether lines begin and end inside a text. -/
  manyLines : Bool := false
  deriving Repr, DecidableEq

/-- A part of a text, from one offset up to another. -/
structure Span where
  start : Nat
  stop : Nat
  deriving Repr, DecidableEq

/-- How far a match has come. -/
structure Progress where
  /-- What stands before, the nearest character first. -/
  before : Octets
  rest : Octets
  offset : Nat
  groups : List (Nat × Span)
  deriving Repr, DecidableEq

namespace Progress

/-- Move behind the next character, if it is as wanted. -/
def step (progress : Progress) (isWanted : Char → Bool) : List Progress :=
  match progress.rest with
  | c :: rest =>
      if isWanted c then
        [{ progress with
          before := c :: progress.before
          rest := rest
          offset := progress.offset + 1 }]
      else
        []
  | [] => []

/-- Move behind a text, if it stands there. -/
def skip (style : Style) (progress : Progress) : Octets → List Progress
  | [] => [progress]
  | c :: text =>
      let isSame (d : Char) : Bool := c == d || (style.folds && c == otherCase d)
      (progress.step isSame).flatMap fun progress => skip style progress text

/-- Stay where the match is, if a condition holds. -/
def stay (progress : Progress) (holds : Bool) : List Progress :=
  if holds then [progress] else []

/-- Whether a word stands before the place. -/
def isBehindWord (progress : Progress) : Bool :=
  progress.before.head?.any CharacterClass.word.contains

/-- Whether a word stands behind the place. -/
def isBeforeWord (progress : Progress) : Bool :=
  progress.rest.head?.any CharacterClass.word.contains

/-- Keep one way to each place, and the farthest places first. -/
def best (refers : Bool) (found : List Progress) : List Progress :=
  let isSame (left right : Progress) : Bool :=
    left.offset == right.offset && (!refers || left.groups == right.groups)
  let kept := found.foldl (fun (kept : List Progress) progress =>
    if kept.any (isSame progress) then kept else progress :: kept) []
  kept.reverse.mergeSort fun left right => right.offset ≤ left.offset

/-- The text that a group has matched. -/
def groupText? (progress : Progress) (number : Nat) : Option Octets :=
  (progress.groups.lookup number).map fun span =>
    ((progress.before.drop (progress.offset - span.stop)).take (span.stop - span.start)).reverse

end Progress

/--
Repeat a step from several places. The places are those that were reached in the
latest round; `least` and `most` say how many rounds there must and may be.
-/
def rounds (refers : Bool) (step : Progress → List Progress) :
    (fuel : Nat) → (least : Nat) → (most : Option Nat) → List Progress → List Progress
  | 0, _, _, places => places
  | fuel + 1, least, most, places =>
      if most == some 0 || places.isEmpty then
        places
      else
        let reached := Progress.best refers (places.flatMap fun place =>
          (step place).filter fun next => 0 < least || place.offset < next.offset)
        let behind := rounds refers step fuel (least - 1) (most.map (· - 1)) reached
        if 0 < least then behind else behind ++ places

/-- The places to which an expression matches, the farthest first. -/
def ends (style : Style) (refers : Bool) : Regex → Progress → List Progress
  | .empty, place => [place]
  | .anything, place => place.step fun c => !(style.manyLines && c == '\n')
  | .set found, place =>
      place.step (if style.folds then found.containsFolded else found.contains)
  | .lineStart, place =>
      place.stay (place.before.isEmpty || (style.manyLines && place.before.head? == some '\n'))
  | .lineEnd, place =>
      place.stay (place.rest.isEmpty || (style.manyLines && place.rest.head? == some '\n'))
  | .wordStart, place => place.stay (!place.isBehindWord && place.isBeforeWord)
  | .wordEnd, place => place.stay (place.isBehindWord && !place.isBeforeWord)
  | .wordBorder, place => place.stay (place.isBehindWord != place.isBeforeWord)
  | .noBorder, place => place.stay (place.isBehindWord == place.isBeforeWord)
  | .notBehindWord, place => place.stay (!place.isBehindWord)
  | .notBeforeWord, place => place.stay (!place.isBeforeWord)
  | .sequence first second, place =>
      let middle := ends style refers first place
      Progress.best refers (middle.flatMap fun place => ends style refers second place)
  | .either first second, place =>
      Progress.best refers (ends style refers first place ++ ends style refers second place)
  | .repeated body least most, place =>
      let step := fun place => ends style refers body place
      Progress.best refers (rounds refers step (place.rest.length + least + 1) least most [place])
  | .group number body, place =>
      (ends style refers body place).map fun reached =>
        { reached with groups := (number, ⟨place.offset, reached.offset⟩) :: reached.groups }
  | .again number, place =>
      match place.groupText? number with
      | some text => place.skip style text
      | none => []

/-- A match, with the parts that groups have matched. -/
structure Match where
  whole : Span
  groups : List (Nat × Span)
  deriving Repr, DecidableEq

/-- Search from a place on. -/
def searchFrom (style : Style) (regex : Regex) (refers : Bool) :
    (before rest : Octets) → (offset : Nat) → Option Match
  | before, [], offset =>
      (ends style refers regex ⟨before, [], offset, []⟩).head?.map fun found =>
        ⟨⟨offset, found.offset⟩, found.groups⟩
  | before, c :: rest, offset =>
      match (ends style refers regex ⟨before, c :: rest, offset, []⟩).head? with
      | some found => some ⟨⟨offset, found.offset⟩, found.groups⟩
      | none => searchFrom style regex refers (c :: before) rest (offset + 1)

/-- The first match that begins at an offset or behind it. -/
def search? (style : Style) (regex : Regex) (text : Octets) (offset : Nat) : Option Match :=
  searchFrom style regex regex.refers (text.take offset).reverse (text.drop offset) offset

/-- The longest match at the beginning of a text. -/
def matchStart? (style : Style) (regex : Regex) (text : Octets) : Option Match :=
  (ends style regex.refers regex ⟨[], text, 0, []⟩).head?.map fun found =>
    ⟨⟨0, found.offset⟩, found.groups⟩

/-- Whether an expression matches somewhere in a text. -/
def isFoundIn (style : Style) (regex : Regex) (text : Octets) : Bool :=
  (search? style regex text 0).isSome

/-- The part of a text that a span covers. -/
def Span.of (span : Span) (text : Octets) : Octets :=
  (text.take span.stop).drop span.start

/-- The text that a group has matched; the whole match has the number zero. -/
def Match.group? (found : Match) (text : Octets) (number : Nat) : Option Octets :=
  if number == 0 then
    some (found.whole.of text)
  else
    (found.groups.lookup number).map fun span => span.of text

end Regex

end Provision.Matching
