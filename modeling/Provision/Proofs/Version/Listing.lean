import Provision.Proofs.Text.Cuts
import Provision.VersionList

namespace Provision.Version

/-!
# What a listing lists

A token of a release line is the number of the line, a point, digits, a point
and digits. Every token that is found stands between word boundaries. Of the
tokens that do, one can only be missed where it begins inside another one.
-/

/-- The written form of the versions of a release line; digits of any script count. -/
def IsToken (major token : Text) : Prop :=
  ∃ minor patch,
    token = major ++ '.' :: (minor ++ '.' :: patch) ∧
      minor ≠ [] ∧ (∀ c ∈ minor, Unicode.isDecimalDigit c = true) ∧
      patch ≠ [] ∧ (∀ c ∈ patch, Unicode.isDecimalDigit c = true)

theorem isWordChar_of_isDecimalDigit
    {c : Char}
    (digit : Unicode.isDecimalDigit c = true) :
    Unicode.isWordChar c = true := by
  rw [Unicode.isDecimalDigit] at digit
  rw [Unicode.isWordChar]
  split
  · rename_i ascii
    rw [if_pos ascii] at digit
    simp [Char.isAlphanum, digit]
  · rename_i notAscii
    rw [if_neg notAscii] at digit
    simp [digit]

/-- A run of digits is split off whole. -/
theorem spanDigits_append
    {digits rest : Text}
    (allDigits : ∀ c ∈ digits, Unicode.isDecimalDigit c = true)
    (endsHere : ∀ c, rest.head? = some c → Unicode.isDecimalDigit c = false) :
    spanDigits (digits ++ rest) = (digits, rest) := by
  rw [spanDigits, List.takeWhile_append_of_pos allDigits,
    List.dropWhile_append_of_pos allDigits]
  cases rest with
  | nil =>
      simp
  | cons c rest =>
      have notDigit : ¬ Unicode.isDecimalDigit c = true := by
        simp [endsHere c rfl]
      rw [List.takeWhile_cons_of_neg notDigit, List.dropWhile_cons_of_neg notDigit,
        List.append_nil]

theorem exists_spanDigits
    (text : Text) :
    ∃ digits rest,
      spanDigits text = (digits, rest) ∧
        text = digits ++ rest ∧
        (∀ c ∈ digits, Unicode.isDecimalDigit c = true) ∧
        (∀ c, rest.head? = some c → Unicode.isDecimalDigit c = false) := by
  refine ⟨_, _, rfl, List.takeWhile_append_dropWhile.symm, ?_, ?_⟩
  · exact fun c member => List.all_eq_true.mp List.all_takeWhile c member
  · intro c first
    have notDigit := List.head?_dropWhile_not Unicode.isDecimalDigit text
    rwa [first] at notDigit

/-- A point and all digits behind it are a number. -/
theorem pointNumber?_eq_some_iff
    {text digits rest : Text} :
    pointNumber? text = some (digits, rest) ↔
      text = '.' :: (digits ++ rest) ∧
        digits ≠ [] ∧
        (∀ c ∈ digits, Unicode.isDecimalDigit c = true) ∧
        (∀ c, rest.head? = some c → Unicode.isDecimalDigit c = false) := by
  constructor
  · intro found
    rw [pointNumber?.eq_def] at found
    split at found
    · rename_i behind
      obtain ⟨span, remaining, spanShape, rfl, allDigits, endsHere⟩ :=
        exists_spanDigits behind
      simp only [spanShape] at found
      split at found
      · cases found
      · rename_i nonempty
        obtain ⟨rfl, rfl⟩ := Prod.mk.inj (Option.some.inj found)
        exact ⟨rfl, by simpa using nonempty, allDigits, endsHere⟩
    · cases found
  · rintro ⟨rfl, nonempty, allDigits, endsHere⟩
    simp [pointNumber?, spanDigits_append allDigits endsHere, nonempty]

/-- Both numbers of a token are read whole: a point ends one, a word boundary the other. -/
private theorem tokenAt?_of_isToken
    {major token after : Text}
    {before : Option Char}
    (starts : endsWord before = true)
    (isToken : IsToken major token)
    (ends : endsWord after.head? = true) :
    tokenAt? major before (token ++ after) = some token := by
  obtain ⟨minor, patch, rfl, minorNonempty, minorDigits, patchNonempty, patchDigits⟩ :=
    isToken
  have minorEnds :
      ∀ c, ('.' :: (patch ++ after)).head? = some c →
        Unicode.isDecimalDigit c = false := by
    intro c first
    rw [List.head?_cons, Option.some.injEq] at first
    subst first
    decide
  have patchEnds :
      ∀ c, after.head? = some c → Unicode.isDecimalDigit c = false := by
    intro c first
    rw [← Bool.not_eq_true]
    intro digit
    simp [endsWord, first, isWordChar_of_isDecimalDigit digit] at ends
  have minorFound :
      pointNumber? ('.' :: (minor ++ '.' :: (patch ++ after))) =
        some (minor, '.' :: (patch ++ after)) :=
    pointNumber?_eq_some_iff.mpr ⟨rfl, minorNonempty, minorDigits, minorEnds⟩
  have patchFound :
      pointNumber? ('.' :: (patch ++ after)) = some (patch, after) :=
    pointNumber?_eq_some_iff.mpr ⟨rfl, patchNonempty, patchDigits, patchEnds⟩
  simp [tokenAt?, starts, List.isPrefixOf_iff_prefix, minorFound, patchFound, ends]

/-- A token is found at the front of a text where it stands between word boundaries. -/
theorem tokenAt?_eq_some_iff
    {major text token : Text}
    {before : Option Char} :
    tokenAt? major before text = some token ↔
      endsWord before = true ∧
        IsToken major token ∧
        ∃ after, text = token ++ after ∧ endsWord after.head? = true := by
  constructor
  · intro found
    rw [tokenAt?] at found
    split at found
    · rename_i starts
      rw [Bool.and_eq_true] at starts
      obtain ⟨behindMajor, rfl⟩ := List.isPrefixOf_iff_prefix.mp starts.2
      rw [List.drop_left] at found
      simp only [Option.bind_eq_bind, Option.bind_eq_some_iff, Prod.exists,
        pointNumber?_eq_some_iff] at found
      obtain ⟨minor, _, ⟨rfl, minorNonempty, minorDigits, -⟩,
        patch, after, ⟨rfl, patchNonempty, patchDigits, -⟩, isToken⟩ := found
      split at isToken
      · rename_i ends
        obtain rfl := Option.some.inj isToken
        refine ⟨starts.1,
          ⟨minor, patch, by simp, minorNonempty, minorDigits, patchNonempty,
            patchDigits⟩,
          after, by simp, ends⟩
      · cases isToken
    · cases found
  · rintro ⟨starts, isToken, after, rfl, ends⟩
    exact tokenAt?_of_isToken starts isToken ends

/-- What is found stands somewhere in the text as a token. -/
theorem exists_of_mem_tokensFrom
    {major text token : Text}
    {before : Option Char}
    {skipped : Nat}
    (found : token ∈ tokensFrom major before skipped text) :
    ∃ front rest,
      text = front ++ rest ∧
        tokenAt? major (front.getLast?.or before) rest = some token := by
  induction text generalizing before skipped with
  | nil =>
      cases found
  | cons c rest inductionHypothesis =>
      have later
          {skip : Nat}
          (inRest : token ∈ tokensFrom major (some c) skip rest) :
          ∃ front behind,
            c :: rest = front ++ behind ∧
              tokenAt? major (front.getLast?.or before) behind = some token := by
        obtain ⟨front, behind, rfl, tokenHere⟩ := inductionHypothesis inRest
        refine ⟨c :: front, behind, rfl, ?_⟩
        rwa [Text.getLast?_cons_or]
      cases skipped with
      | succ skipped =>
          exact later found
      | zero =>
          rw [tokensFrom] at found
          split at found
          · rename_i other otherHere
            rcases List.mem_cons.mp found with rfl | inRest
            · exact ⟨[], c :: rest, rfl, otherHere⟩
            · exact later inRest
          · exact later found

/--
A token is found unless it begins inside another one: what is skipped ends before
it, and so does every token that stands further left.
-/
theorem mem_tokensFrom
    {major front rest token : Text}
    {before : Option Char}
    {skipped : Nat}
    (skips : skipped ≤ front.length)
    (clear :
      ∀ earlier between other,
        front = earlier ++ between →
          between ≠ [] →
          tokenAt? major (earlier.getLast?.or before) (between ++ rest) = some other →
          other.length ≤ between.length)
    (tokenHere : tokenAt? major (front.getLast?.or before) rest = some token) :
    token ∈ tokensFrom major before skipped (front ++ rest) := by
  induction front generalizing before skipped with
  | nil =>
      obtain rfl : skipped = 0 := Nat.le_zero.mp skips
      cases rest with
      | nil =>
          obtain ⟨-, ⟨minor, patch, tokenShape, -⟩, after, shape, -⟩ :=
            tokenAt?_eq_some_iff.mp tokenHere
          simp [tokenShape] at shape
      | cons c rest =>
          rw [List.getLast?_nil, Option.none_or] at tokenHere
          rw [List.nil_append, tokensFrom, tokenHere]
          exact List.mem_cons_self
  | cons c front inductionHypothesis =>
      have laterClear :
          ∀ earlier between other,
            front = earlier ++ between →
              between ≠ [] →
              tokenAt? major (earlier.getLast?.or (some c)) (between ++ rest) =
                some other →
              other.length ≤ between.length := by
        intro earlier between other shape nonempty otherHere
        refine clear (c :: earlier) between other (by rw [shape]; rfl) nonempty ?_
        rwa [Text.getLast?_cons_or]
      rw [Text.getLast?_cons_or] at tokenHere
      rw [List.cons_append]
      cases skipped with
      | succ skipped =>
          rw [tokensFrom]
          exact inductionHypothesis (Nat.le_of_succ_le_succ skips) laterClear tokenHere
      | zero =>
          rw [tokensFrom]
          split
          · rename_i other otherHere
            have ends : other.length ≤ (c :: front).length :=
              clear [] (c :: front) other rfl (by simp)
                (by simpa using otherHere)
            rw [List.length_cons] at ends
            exact List.mem_cons_of_mem other
              (inductionHypothesis (by omega) laterClear tokenHere)
          · exact inductionHypothesis (Nat.zero_le _) laterClear tokenHere

/-- A token stands between word boundaries in a line, behind `front`. -/
def StandsIn
    (major line front token : Text) :
    Prop :=
  IsToken major token ∧
    endsWord front.getLast? = true ∧
    ∃ after, line = front ++ (token ++ after) ∧ endsWord after.head? = true

/-- A version that a token of a line of the listing writes. -/
def IsWritten
    (listing : Text)
    (major : Nat)
    (version : Version) :
    Prop :=
  ∃ line ∈ listing.lines, ∃ front token,
    StandsIn (toString major).toList line front token ∧
      parse? (String.ofList token) = some version

/--
A version that a token writes which does not begin inside another one. In
`6.6.1.2` the token `6.1.2` begins inside `6.6.1`.
-/
def IsWrittenClearly
    (listing : Text)
    (major : Nat)
    (version : Version) :
    Prop :=
  ∃ line ∈ listing.lines, ∃ front token,
    StandsIn (toString major).toList line front token ∧
      (∀ earlier other,
        StandsIn (toString major).toList line earlier other →
          earlier.length < front.length →
          earlier.length + other.length ≤ front.length) ∧
      parse? (String.ofList token) = some version

/-- What is listed is written in a line, between word boundaries. -/
theorem isWritten_of_mem_listed
    {listing : Text}
    {major : Nat}
    {version : Version}
    (isListed : version ∈ listed listing major) :
    IsWritten listing major version := by
  simp only [listed, List.mem_flatMap, List.mem_filterMap] at isListed
  obtain ⟨line, lineMember, token, found, isVersion⟩ := isListed
  obtain ⟨front, rest, rfl, tokenHere⟩ := exists_of_mem_tokensFrom found
  obtain ⟨starts, isToken, after, rfl, ends⟩ := tokenAt?_eq_some_iff.mp tokenHere
  rw [Option.or_none] at starts
  exact ⟨_, lineMember, front, token, ⟨isToken, starts, after, rfl, ends⟩, isVersion⟩

theorem mem_listed_of_isWrittenClearly
    {listing : Text}
    {major : Nat}
    {version : Version}
    (written : IsWrittenClearly listing major version) :
    version ∈ listed listing major := by
  obtain ⟨line, lineMember, front, token, ⟨isToken, starts, after, rfl, ends⟩, clear,
    isVersion⟩ := written
  simp only [listed, List.mem_flatMap, List.mem_filterMap]
  refine ⟨_, lineMember, token, mem_tokensFrom (Nat.zero_le _) ?_ ?_, isVersion⟩
  · intro earlier between other shape nonempty otherHere
    rw [Option.or_none] at otherHere
    obtain ⟨otherStarts, otherToken, behind, restShape, otherEnds⟩ :=
      tokenAt?_eq_some_iff.mp otherHere
    have reaches :=
      clear earlier other
        ⟨otherToken, otherStarts, behind,
          by rw [shape, List.append_assoc, restShape], otherEnds⟩
    have longer := List.length_pos_iff.mpr nonempty
    rw [shape, List.length_append] at reaches
    omega
  · rw [Option.or_none]
    exact tokenAt?_eq_some_iff.mpr ⟨starts, isToken, after, rfl, ends⟩

end Provision.Version
