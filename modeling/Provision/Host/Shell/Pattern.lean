import Provision.Host.Matching.CharacterClass
import Provision.Host.Shell.Syntax

namespace Provision.Shell

open Matching

/-!
# Patterns

A pattern is matched against a whole text. Only characters that are not quoted
have a special meaning in it; a backslash that is not quoted takes it from the
character behind it.
-/

/-- A character of a pattern, and whether it may have a special meaning. -/
structure Glyph where
  char : Char
  active : Bool
  deriving Repr, DecidableEq

/-- A part of a pattern. -/
inductive PatternItem where
  | char (c : Char)
  | anyChar
  | anything
  | set (set : OctetSet)
  /-- A choice of patterns, repeated or refused as the sign says. -/
  | group (sign : Char) (choices : List (List PatternItem))

/-- How patterns are read and matched. -/
structure PatternStyle where
  /-- Whether a circumflex negates a set, and sets know equal characters. -/
  extendedSets : Bool := false
  /-- Whether there are groups. -/
  groups : Bool := false
  /-- Whether the case of letters does not count. -/
  folds : Bool := false
  deriving Repr, DecidableEq

namespace Pattern

/-- Glyphs that stand for themselves. -/
def quotedGlyphs (text : Octets) : List Glyph :=
  text.map fun c => ⟨c, false⟩

/-- Glyphs that may be special. -/
def activeGlyphs (text : Octets) : List Glyph :=
  text.map fun c => ⟨c, true⟩

/-- The characters of glyphs. -/
def text (glyphs : List Glyph) : Octets :=
  glyphs.map Glyph.char

/-- Whether a character is this one and may be special. -/
def isActive (c : Char) (glyph : Glyph) : Bool :=
  glyph.active && glyph.char == c

/-- Read what stands between signs in brackets, such as the name of a class. -/
def spanNamed (sign : Char) : List Glyph → Option (Octets × List Glyph)
  | [] => none
  | [_] => none
  | first :: second :: rest =>
      if isActive sign first && isActive ']' second then
        some ([], rest)
      else
        (spanNamed sign (second :: rest)).map fun (name, rest) => (first.char :: name, rest)

/-- The class or the equal characters that open with a bracket. -/
def namedMember? (style : PatternStyle) (glyphs : List Glyph) :
    Option (SetMember × List Glyph) :=
  match glyphs with
  | bracket :: sign :: rest =>
      if !isActive '[' bracket || !sign.active then
        none
      else
        match sign.char with
        | ':' => do
            let (name, rest) ← spanNamed ':' rest
            return (.class (← CharacterClass.names.lookup name), rest)
        | '=' | '.' => do
            if !style.extendedSets then
              none
            else
              let (name, rest) ← spanNamed sign.char rest
              match name with
              | [c] => some (.single c, rest)
              | _ => none
        | _ => none
  | _ => none

/-- A character of a set, which a backslash may quote. -/
def setChar? (glyphs : List Glyph) : Option (Char × List Glyph) :=
  match glyphs with
  | [] => none
  | glyph :: rest =>
      if isActive '\\' glyph then
        match rest with
        | next :: rest => some (next.char, rest)
        | [] => some ('\\', [])
      else
        some (glyph.char, rest)

/-- Read the members of a set up to its closing bracket. -/
def readMembers (style : PatternStyle) :
    (fuel : Nat) → (isFirst : Bool) → List Glyph → Option (List SetMember × List Glyph)
  | 0, _, _ => none
  | fuel + 1, isFirst, glyphs =>
      match glyphs with
      | [] => none
      | glyph :: rest =>
          if isActive ']' glyph && !isFirst then
            some ([], rest)
          else
            match namedMember? style glyphs with
            | some (member, rest) => do
                let (members, rest) ← readMembers style fuel false rest
                return (member :: members, rest)
            | none => do
                let (first, rest) ← setChar? glyphs
                let (member, rest) ←
                  match rest with
                  | dash :: next :: more =>
                      if isActive '-' dash && !isActive ']' next then do
                        let (last, rest) ← setChar? (next :: more)
                        pure (SetMember.range first last, rest)
                      else
                        pure (.single first, rest)
                  | _ => pure (.single first, rest)
                let (members, rest) ← readMembers style fuel false rest
                return (member :: members, rest)

/-- Read a set behind its opening bracket. -/
def readSet? (style : PatternStyle) (glyphs : List Glyph) : Option (OctetSet × List Glyph) :=
  let fuel := glyphs.length + 1
  match glyphs with
  | sign :: rest =>
      if isActive '!' sign || (style.extendedSets && isActive '^' sign) then
        (readMembers style fuel true rest).map fun (members, rest) => (⟨true, members⟩, rest)
      else
        (readMembers style fuel true glyphs).map fun (members, rest) => (⟨false, members⟩, rest)
  | [] => none

/-- Signs that stand before a group. -/
def groupSigns : List Char := ['?', '*', '+', '@', '!']

/-- Cut glyphs at the bars and the closing parenthesis of a group. -/
def splitChoices : (depth : Nat) → List Glyph → List Glyph →
    Option (List (List Glyph) × List Glyph)
  | _, _, [] => none
  | depth, choice, glyph :: rest =>
      if isActive '\\' glyph then
        match rest with
        | next :: rest => splitChoices depth (next :: glyph :: choice) rest
        | [] => none
      else if isActive '(' glyph then
        splitChoices (depth + 1) (glyph :: choice) rest
      else if isActive ')' glyph then
        match depth with
        | 0 => some ([choice.reverse], rest)
        | depth + 1 => splitChoices depth (glyph :: choice) rest
      else if isActive '|' glyph && depth == 0 then
        (splitChoices 0 [] rest).map fun (choices, rest) => (choice.reverse :: choices, rest)
      else
        splitChoices depth (glyph :: choice) rest

/-- Read a pattern. -/
def read (style : PatternStyle) : (fuel : Nat) → List Glyph → List PatternItem
  | 0, _ => []
  | _ + 1, [] => []
  | fuel + 1, glyph :: rest =>
      let group? : Option (List (List Glyph) × List Glyph) :=
        match rest with
        | next :: more =>
            if style.groups && glyph.active && groupSigns.contains glyph.char &&
                isActive '(' next then
              splitChoices 0 [] more
            else
              none
        | [] => none
      match group? with
      | some (choices, rest) =>
          .group glyph.char (choices.map (read style fuel)) :: read style fuel rest
      | none =>
          if isActive '\\' glyph then
            match rest with
            | next :: rest => .char next.char :: read style fuel rest
            | [] => [.char '\\']
          else if isActive '*' glyph then
            .anything :: read style fuel rest
          else if isActive '?' glyph then
            .anyChar :: read style fuel rest
          else if isActive '[' glyph then
            match readSet? style rest with
            | some (set, rest) => .set set :: read style fuel rest
            | none => .char '[' :: read style fuel rest
          else
            .char glyph.char :: read style fuel rest

/-- Read a whole pattern. -/
def ofGlyphs (style : PatternStyle) (glyphs : List Glyph) : List PatternItem :=
  read style (glyphs.length + 1) glyphs

/-- The ends of a text, the whole text first. -/
def tails : Octets → List Octets
  | [] => [[]]
  | c :: rest => (c :: rest) :: tails rest

/-- Match a pattern at the front of a text; `next` decides about what is left. -/
def matchFrom (style : PatternStyle) :
    (fuel : Nat) → List PatternItem → Octets → (Octets → Bool) → Bool
  | 0, _, _, _ => false
  | _ + 1, [], text, next => next text
  | fuel + 1, item :: rest, text, next =>
      let go (text : Octets) : Bool := matchFrom style fuel rest text next
      match item with
      | .anything => (tails text).any go
      | .group sign choices =>
          let once (after : Octets → Bool) : Bool :=
            choices.any fun choice => matchFrom style fuel choice text after
          let again (left : Octets) : Bool :=
            left.length < text.length &&
              matchFrom style fuel (.group '*' choices :: rest) left next
          match sign with
          | '@' => once go
          | '?' => go text || once go
          | '+' => once fun left => go left || again left
          | '*' => go text || once again
          | _ => (tails text).any fun left =>
              let front := text.take (text.length - left.length)
              !(choices.any fun choice => matchFrom style fuel choice front List.isEmpty) &&
                go left
      | .char c =>
          match text with
          | d :: text => (c == d || (style.folds && c.toLower == d.toLower)) && go text
          | [] => false
      | .anyChar =>
          match text with
          | _ :: text => go text
          | [] => false
      | .set set =>
          match text with
          | d :: text =>
              (if style.folds then set.containsFolded d else set.contains d) && go text
          | [] => false

/-- Whether a whole text matches a pattern. -/
def «matches» (style : PatternStyle) (pattern : List PatternItem) (text : Octets) : Bool :=
  matchFrom style (pattern.length + 2 * text.length + 64) pattern text List.isEmpty

/-- Whether glyphs hold a sign that makes them a pattern. -/
def isSpecial (style : PatternStyle) : List Glyph → Bool
  | [] => false
  | [glyph] => isActive '*' glyph || isActive '?' glyph
  | glyph :: next :: rest =>
      if isActive '\\' glyph then
        isSpecial style rest
      else
        isActive '*' glyph || isActive '?' glyph ||
          (isActive '[' glyph && (next :: rest).any (isActive ']')) ||
          (style.groups && glyph.active && groupSigns.contains glyph.char &&
            isActive '(' next) ||
          isSpecial style (next :: rest)

/-- The lengths of the beginnings of a text that match, in ascending order. -/
def beginnings (style : PatternStyle) (pattern : List PatternItem) (text : Octets) : List Nat :=
  (List.range (text.length + 1)).filter fun count =>
    «matches» style pattern (text.take count)

/-- The places from which the rest of a text matches, in ascending order. -/
def endings (style : PatternStyle) (pattern : List PatternItem) (text : Octets) : List Nat :=
  (List.range (text.length + 1)).filter fun count =>
    «matches» style pattern (text.drop count)

end Pattern

end Provision.Shell
