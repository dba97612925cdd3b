import Provision.Proofs.Version.Listing
import Provision.Proofs.Version.Newest
import Provision.Proofs.Version.Reading

namespace Provision.Version

/-!
# Listings of written versions

A token holds digits and points only, so white space parts a listing: what is
listed is what is listed before it and then what is listed behind it, and lines
count no more than blanks do. Between blanks stands one written version, in
which the only token is the version itself.
-/

/-- White space between the versions of a listing. -/
def isGap (c : Char) : Bool :=
  c == ' ' || c == '\t' || c == '\n'

/-- Versions in their written form, in any layout with white space between them. -/
inductive LaysOut : List Version → Text → Prop where
  | nothing
      {gap : Text}
      (blank : gap.all isGap = true) :
      LaysOut [] gap
  | next
      {gap rest : Text}
      {version : Version}
      {versions : List Version}
      (blank : gap.all isGap = true)
      (apart : rest.head?.all isGap = true)
      (more : LaysOut versions rest) :
      LaysOut (version :: versions) (gap ++ (version.shown.toList ++ rest))

/-- A character that no token holds and that ends every word. -/
structure Parts (c : Char) : Prop where
  noPoint : c ≠ '.'
  noDigit : Unicode.isDecimalDigit c = false
  noWord : Unicode.isWordChar c = false

theorem parts_of_isGap
    {c : Char}
    (gap : isGap c = true) :
    Parts c := by
  simp only [isGap, Bool.or_eq_true, beq_iff_eq, or_assoc] at gap
  rcases gap with rfl | rfl | rfl <;> exact ⟨by decide, by decide, by decide⟩

section Tokens

variable {major front rest text : Text} {c : Char}

/-- What stands before a text matters only by whether it ends a word. -/
theorem tokensFrom_congr_before
    {before other : Option Char}
    (same : endsWord before = endsWord other)
    (skipped : Nat)
    (text : Text) :
    tokensFrom major before skipped text = tokensFrom major other skipped text := by
  cases text with
  | nil =>
      rfl
  | cons c rest =>
      cases skipped with
      | succ skipped =>
          rfl
      | zero =>
          rw [tokensFrom, tokensFrom, tokenAt?, tokenAt?, same]

theorem Parts.notMem_token
    {token : Text}
    (parts : Parts c)
    (digits : ∀ d ∈ major, Unicode.isDecimalDigit d = true)
    (isToken : IsToken major token) :
    c ∉ token := by
  obtain ⟨minor, patch, rfl, -, minorDigits, -, patchDigits⟩ := isToken
  have notAmong
      {run : Text}
      (runDigits : ∀ d ∈ run, Unicode.isDecimalDigit d = true) :
      c ∉ run := by
    intro member
    have digit := runDigits c member
    rw [parts.noDigit] at digit
    cases digit
  simp [parts.noPoint, notAmong digits, notAmong minorDigits, notAmong patchDigits]

/-- A token before a parting character is a token of the text up to there. -/
theorem Parts.tokenAt?_append
    (parts : Parts c)
    (digits : ∀ d ∈ major, Unicode.isDecimalDigit d = true)
    (before : Option Char)
    (text rest : Text) :
    tokenAt? major before (text ++ c :: rest) = tokenAt? major before text := by
  have endsHere : endsWord (some c) = true := by
    simp [endsWord, parts.noWord]
  apply Option.ext
  intro token
  rw [tokenAt?_eq_some_iff, tokenAt?_eq_some_iff]
  refine and_congr_right fun _ => and_congr_right fun isToken => ?_
  constructor
  · rintro ⟨after, shape, ends⟩
    rcases List.append_eq_append_iff.mp shape with
        ⟨middle, tokenShape, restShape⟩ | ⟨middle, textShape, afterShape⟩
    · cases middle with
      | nil =>
          exact ⟨[], by simpa using tokenShape.symm, rfl⟩
      | cons d middle =>
          obtain ⟨rfl, -⟩ := List.cons.inj restShape
          refine (parts.notMem_token digits isToken ?_).elim
          rw [tokenShape]
          exact List.mem_append_right text List.mem_cons_self
    · refine ⟨middle, textShape, ?_⟩
      cases middle with
      | nil => rfl
      | cons d middle => simpa [afterShape] using ends
  · rintro ⟨after, rfl, ends⟩
    refine ⟨after ++ c :: rest, List.append_assoc _ _ _, ?_⟩
    cases after with
    | nil => exact endsHere
    | cons d after => exact ends

/-- The tokens of a text with a parting character are those before it and those behind it. -/
theorem Parts.tokensFrom_append
    {before : Option Char}
    {skipped : Nat}
    (parts : Parts c)
    (digits : ∀ d ∈ major, Unicode.isDecimalDigit d = true)
    (skips : skipped ≤ front.length) :
    tokensFrom major before skipped (front ++ c :: rest) =
      tokensFrom major before skipped front ++ tokensFrom major none 0 rest := by
  induction front generalizing before skipped with
  | nil =>
      obtain rfl : skipped = 0 := Nat.le_zero.mp skips
      have noToken : tokenAt? major before (c :: rest) = none := by
        rw [← List.nil_append (c :: rest), parts.tokenAt?_append digits]
        simp [tokenAt?, pointNumber?]
      simp only [List.nil_append, tokensFrom, noToken]
      exact tokensFrom_congr_before (by simp [endsWord, parts.noWord]) 0 rest
  | cons d front inductionHypothesis =>
      cases skipped with
      | succ skipped =>
          exact inductionHypothesis (Nat.le_of_succ_le_succ skips)
      | zero =>
          simp only [List.cons_append, tokensFrom]
          rw [← List.cons_append, parts.tokenAt?_append digits]
          split
          · rename_i token found
            have within : token.length - 1 ≤ front.length := by
              obtain ⟨-, -, after, shape, -⟩ := tokenAt?_eq_some_iff.mp found
              have lengths := congrArg List.length shape
              simp only [List.length_cons, List.length_append] at lengths
              omega
            rw [inductionHypothesis within, List.cons_append]
          · exact inductionHypothesis (Nat.zero_le _)

end Tokens

theorem isDecimalDigit_of_isDigit
    {c : Char}
    (digit : c.isDigit = true) :
    Unicode.isDecimalDigit c = true := by
  have ascii : c.toNat < 0x80 := by
    have high : c.toNat ≤ 0x39 := (Char.isDigit_iff_toNat.mp digit).2
    omega
  rw [Unicode.isDecimalDigit, if_pos ascii]
  exact digit

theorem isDecimalDigit_of_mem_toDigits
    {number : Nat}
    {c : Char}
    (member : c ∈ Nat.toDigits 10 number) :
    Unicode.isDecimalDigit c = true :=
  isDecimalDigit_of_isDigit
    (Nat.isDigit_of_mem_toDigits (by decide) (by decide) member)

/-- The versions of a release line in a text, whatever lines it has. -/
def versionsIn (major : Nat) (text : Text) : List Version :=
  (tokensFrom (Nat.toDigits 10 major) none 0 text).filterMap
    fun token => parse? (String.ofList token)

section Lines

variable {c : Char} (major : Nat)

/-- Everything about listings follows from this equation. -/
theorem Parts.versionsIn_append
    (parts : Parts c)
    (front rest : Text) :
    versionsIn major (front ++ c :: rest) =
      versionsIn major front ++ versionsIn major rest := by
  have digits : ∀ d ∈ Nat.toDigits 10 major, Unicode.isDecimalDigit d = true :=
    fun d => isDecimalDigit_of_mem_toDigits
  rw [versionsIn, parts.tokensFrom_append digits (Nat.zero_le _), List.filterMap_append]
  rfl

theorem versionsIn_dropReturn
    (line : Text) :
    versionsIn major (Text.dropReturn line) = versionsIn major line := by
  rw [Text.dropReturn]
  split
  · rename_i ends
    obtain ⟨front, rfl⟩ := List.getLast?_eq_some_iff.mp ends
    have parts : Parts '\r' := ⟨by decide, by decide, by decide⟩
    rw [List.dropLast_concat, parts.versionsIn_append]
    exact (List.append_nil _).symm
  · rfl

/-- Lines make no difference to what is listed. -/
theorem listed_eq_versionsIn
    (listing : Text) :
    listed listing major = versionsIn major listing := by
  have perLine (text : Text) :
      listed text major = text.lines.flatMap (versionsIn major) := by
    simp only [listed, Nat.toString_eq_ofList_toDigits, String.toList_ofList]
    rfl
  induction size : listing.length using Nat.strong_induction_on generalizing listing with
  | _ size inductionHypothesis =>
      subst size
      by_cases broken : '\n' ∈ listing
      · obtain ⟨line, rest, rfl, unbroken⟩ := List.eq_append_cons_of_mem broken
        have restListed := inductionHypothesis rest.length (by simp; omega) rest rfl
        have parts : Parts '\n' := parts_of_isGap rfl
        rw [perLine, Text.lines_append_cons rest unbroken, List.flatMap_cons,
          versionsIn_dropReturn, ← perLine, restListed, parts.versionsIn_append]
      · rw [perLine, Text.lines_of_notMem broken]
        split
        · rename_i empty
          obtain rfl := List.isEmpty_iff.mp empty
          rfl
        · exact List.flatMap_singleton _ _

end Lines

section Written

variable {major : Nat} {version : Version}

private theorem point_notMem_toDigits
    (number : Nat) :
    '.' ∉ Nat.toDigits 10 number :=
  fun member => absurd (isDecimalDigit_of_mem_toDigits member) (by decide)

theorem isToken_shown
    (version : Version) :
    IsToken (Nat.toDigits 10 version.major) version.shown.toList :=
  ⟨_, _, toList_shown version, Nat.toDigits_ne_nil,
    fun _ => isDecimalDigit_of_mem_toDigits, Nat.toDigits_ne_nil,
    fun _ => isDecimalDigit_of_mem_toDigits⟩

/-- A token in a written version takes both its points, so it has its first component whole. -/
theorem major_eq_of_standsIn_shown
    {front token : Text}
    (stands :
      StandsIn (Nat.toDigits 10 major) version.shown.toList front token) :
    version.major = major := by
  obtain ⟨⟨minor, patch, rfl, -⟩, starts, after, shape, -⟩ := stands
  rw [toList_shown] at shape
  have noPoint : '.' ∉ front := by
    have points := congrArg (List.count '.') shape
    simp [List.count_append,
      List.count_eq_zero_of_not_mem (point_notMem_toDigits _)] at points
    exact List.count_eq_zero.mp (by omega)
  have regrouped :
      front ++ (Nat.toDigits 10 major ++ '.' :: (minor ++ '.' :: patch) ++ after) =
        front ++ Nat.toDigits 10 major ++ '.' :: (minor ++ '.' :: patch ++ after) := by
    simp
  have noPointBefore : '.' ∉ front ++ Nat.toDigits 10 major := by
    simp [noPoint, point_notMem_toDigits]
  have sameFront := congrArg (Text.splitOnce? ['.']) (shape.trans regrouped)
  rw [Text.splitOnce?_append_cons _ (point_notMem_toDigits _),
    Text.splitOnce?_append_cons _ noPointBefore] at sameFront
  have sameDigits := (Prod.mk.inj (Option.some.inj sameFront)).1
  cases last : front.getLast? with
  | none =>
      rw [List.getLast?_eq_none_iff.mp last, List.nil_append] at sameDigits
      have sameValue := congrArg (Nat.ofDigitChars 10 · 0) sameDigits
      simpa using sameValue
  | some d =>
      -- The digit before the token would belong to the same word.
      have member : d ∈ Nat.toDigits 10 version.major := by
        rw [sameDigits]
        exact List.mem_append_left _ (List.mem_of_getLast? last)
      have isWord :=
        isWordChar_of_isDecimalDigit (isDecimalDigit_of_mem_toDigits member)
      simp [last, endsWord, isWord] at starts

/-- What belongs to a token is passed over. -/
private theorem tokensFrom_length
    {digits : Text}
    (before : Option Char)
    (text : Text) :
    tokensFrom digits before text.length text = [] := by
  induction text generalizing before with
  | nil =>
      rfl
  | cons c rest inductionHypothesis =>
      exact inductionHypothesis (some c)

/-- The only token in a written version is the version itself. -/
theorem tokensFrom_shown
    (major : Nat)
    (version : Version) :
    tokensFrom (Nat.toDigits 10 major) none 0 version.shown.toList =
      if version.major = major then [version.shown.toList] else [] := by
  split
  · rename_i same
    subst same
    have whole :
        tokenAt? (Nat.toDigits 10 version.major) none version.shown.toList =
          some version.shown.toList :=
      tokenAt?_eq_some_iff.mpr
        ⟨rfl, isToken_shown version, [], (List.append_nil _).symm, rfl⟩
    cases shape : version.shown.toList with
    | nil =>
        simp [toList_shown] at shape
    | cons c rest =>
        rw [shape] at whole
        simp only [tokensFrom, whole, List.length_cons, Nat.add_sub_cancel]
        rw [tokensFrom_length]
  · rename_i other
    rw [List.eq_nil_iff_forall_not_mem]
    intro token found
    obtain ⟨front, rest, shape, tokenHere⟩ := exists_of_mem_tokensFrom found
    obtain ⟨starts, isToken, after, rfl, ends⟩ := tokenAt?_eq_some_iff.mp tokenHere
    rw [Option.or_none] at starts
    exact other
      (major_eq_of_standsIn_shown ⟨isToken, starts, after, shape, ends⟩)

theorem versionsIn_shown
    (major : Nat)
    (fits : version.Fits) :
    versionsIn major version.shown.toList =
      if version.major = major then [version] else [] := by
  have read : parse? (String.ofList version.shown.toList) = some version := by
    rw [String.ofList_toList, parse?, parse_shown fits]
    rfl
  rw [versionsIn, tokensFrom_shown]
  by_cases same : version.major = major
  · rw [if_pos same, if_pos same]
    exact List.filterMap_cons_some read
  · rw [if_neg same, if_neg same]
    rfl

end Written

section Layouts

variable {versions : List Version} {listing gap : Text}

/-- Gaps at the front hold no version. -/
theorem versionsIn_gap_append
    (major : Nat)
    (blank : gap.all isGap = true)
    (text : Text) :
    versionsIn major (gap ++ text) = versionsIn major text := by
  induction gap with
  | nil =>
      rfl
  | cons c gap inductionHypothesis =>
      rw [List.all_cons, Bool.and_eq_true] at blank
      have parts := parts_of_isGap blank.1
      rw [List.cons_append, ← List.nil_append (c :: (gap ++ text)),
        parts.versionsIn_append, inductionHypothesis blank.2]
      rfl

/-- A version is listed if it is of the release line, and then come those behind it. -/
theorem LaysOut.versionsIn_eq
    (laysOut : LaysOut versions listing)
    (fit : ∀ version ∈ versions, version.Fits)
    (major : Nat) :
    versionsIn major listing =
      versions.filter fun version => version.major = major := by
  induction laysOut with
  | @nothing gap blank =>
      rw [← List.append_nil gap, versionsIn_gap_append major blank]
      rfl
  | @next gap rest version versions blank apart more inductionHypothesis =>
      have restListed := inductionHypothesis fun other member =>
        fit other (List.mem_cons_of_mem version member)
      have own := versionsIn_shown major (fit version List.mem_cons_self)
      have split :
          versionsIn major (version.shown.toList ++ rest) =
            versionsIn major version.shown.toList ++ versionsIn major rest := by
        cases rest with
        | nil =>
            rw [List.append_nil]
            exact (List.append_nil _).symm
        | cons c rest =>
            have gapHere : isGap c = true := apart
            have behind : versionsIn major ([c] ++ rest) = versionsIn major rest :=
              versionsIn_gap_append major (by simpa using gapHere) rest
            rw [(parts_of_isGap gapHere).versionsIn_append, ← behind]
            rfl
      rw [versionsIn_gap_append major blank, split, own, restListed]
      by_cases same : version.major = major
      · simp [same]
      · simp [same]

/-- The newest version of the release line is one of those that are laid out. -/
theorem LaysOut.newestListed?_eq_some_iff
    {version : Version}
    (laysOut : LaysOut versions listing)
    (fit : ∀ version ∈ versions, version.Fits)
    (major : Nat) :
    newestListed? listing major = some version ↔
      version ∈ versions ∧
        version.major = major ∧
        ∀ other ∈ versions,
          other.major = major →
            other.minor < version.minor ∨
              (other.minor = version.minor ∧ other.patch ≤ version.patch) := by
  rw [newestListed?, listed_eq_versionsIn, laysOut.versionsIn_eq fit, newest?_eq_some_iff,
    IsNewest]
  simp only [List.mem_filter, decide_eq_true_eq, and_assoc, and_imp, ← Bool.not_eq_true,
    isOlder_iff]
  refine and_congr_right fun _ => and_congr_right fun sameMajor => ?_
  refine forall₃_congr fun other _ otherMajor => ?_
  omega

/--
Of written versions in any layout, those of a release line are listed, in their
order and as often as they are written. The newest one is the greatest of them;
it depends on neither the order nor the layout.
-/
theorem listed_of_laysOut
    (laysOut : LaysOut versions listing)
    (fit : ∀ version ∈ versions, version.Fits)
    (major : Nat) :
    listed listing major =
        versions.filter (fun version => version.major = major) ∧
      (newestListed? listing major = none ↔
        ∀ version ∈ versions, version.major ≠ major) ∧
      (∀ version,
        newestListed? listing major = some version ↔
          version ∈ versions ∧
            version.major = major ∧
            ∀ other ∈ versions,
              other.major = major →
                other.minor < version.minor ∨
                  (other.minor = version.minor ∧ other.patch ≤ version.patch)) ∧
      (∀ others otherListing,
        LaysOut others otherListing →
          others.Perm versions →
            newestListed? otherListing major = newestListed? listing major) := by
  have isListed := (listed_eq_versionsIn major listing).trans (laysOut.versionsIn_eq fit major)
  refine ⟨isListed, ?none, fun version => laysOut.newestListed?_eq_some_iff fit major,
    ?layout⟩
  case none =>
    rw [newestListed?, newest?_eq_none_iff, isListed]
    simp
  case layout =>
    intro others otherListing otherLaysOut order
    have othersFit : ∀ version ∈ others, version.Fits :=
      fun version member => fit version (order.mem_iff.mp member)
    apply Option.ext
    intro version
    rw [otherLaysOut.newestListed?_eq_some_iff othersFit,
      laysOut.newestListed?_eq_some_iff fit]
    simp only [order.mem_iff]

end Layouts

/-- Versions of several release lines that look alike, one of them twice. -/
def mixedVersions : List Version :=
  [⟨6, 9, 0⟩, ⟨16, 0, 0⟩, ⟨6, 10, 0⟩, ⟨1, 6, 6⟩, ⟨6, 9, 0⟩, ⟨5, 6, 18446744073709551615⟩]

/-- The versions on several lines, with blanks of all kinds. -/
def mixedListing : Text :=
  "\n6.9.0\t16.0.0  6.10.0\n\n1.6.6 6.9.0\n \t5.6.18446744073709551615 ".toList

/-- Each release line is told from the others. -/
theorem mixedListing_listed :
    LaysOut mixedVersions mixedListing ∧
      listed mixedListing 6 = [⟨6, 9, 0⟩, ⟨6, 10, 0⟩, ⟨6, 9, 0⟩] ∧
      newestListed? mixedListing 6 = some ⟨6, 10, 0⟩ ∧
      newestListed? mixedListing 9 = none := by
  have written :
      mixedListing =
        "\n".toList ++ ((Version.mk 6 9 0).shown.toList ++
        ("\t".toList ++ ((Version.mk 16 0 0).shown.toList ++
        ("  ".toList ++ ((Version.mk 6 10 0).shown.toList ++
        ("\n\n".toList ++ ((Version.mk 1 6 6).shown.toList ++
        (" ".toList ++ ((Version.mk 6 9 0).shown.toList ++
        ("\n \t".toList ++ ((Version.mk 5 6 18446744073709551615).shown.toList ++
          " ".toList))))))))))) := by
    decide +kernel
  have laysOut : LaysOut mixedVersions mixedListing := by
    rw [written]
    refine .next (by decide) (by decide) (.next (by decide) (by decide) ?_)
    refine .next (by decide) (by decide) (.next (by decide) (by decide) ?_)
    refine .next (by decide) (by decide) (.next (by decide) (by decide) ?_)
    exact .nothing (by decide)
  have fit : ∀ version ∈ mixedVersions, version.Fits := by
    intro version member
    simp only [mixedVersions, List.mem_cons, List.not_mem_nil, or_false] at member
    rcases member with rfl | rfl | rfl | rfl | rfl | rfl <;>
      exact ⟨by decide, by decide, by decide⟩
  obtain ⟨isListed, -, newest, -⟩ := listed_of_laysOut laysOut fit 6
  obtain ⟨-, noneNewest, -, -⟩ := listed_of_laysOut laysOut fit 9
  refine ⟨laysOut, isListed, (newest _).mpr ?_, noneNewest.mpr ?_⟩
  · decide
  · decide

end Provision.Version
