import Provision.Proofs.Text.Pieces
import Provision.Version

namespace Provision.Version

/-!
# What is read as a version

A version is three numbers with points between them and white space around. The
numbers are runs of ASCII digits. Each may have a plus sign in front, which no
written version has; without signs, exactly the written versions are read.
-/

/-- A run of ASCII digits and its value, which fits a component. -/
structure IsNumber (value : Nat) (digits : Text) : Prop where
  nonempty : digits ≠ []
  ascii : ∀ c ∈ digits, c.isDigit = true
  value_eq : Nat.ofDigitChars 10 digits 0 = value
  fits : value < UInt64.size

/-- A number, or a number behind a plus sign. -/
def IsSignedNumber (value : Nat) (piece : Text) : Prop :=
  IsNumber value piece ∨
    ∃ digits, piece = '+' :: digits ∧ IsNumber value digits

/-- Three components with points between them, and white space around. -/
def Writes
    (component : Nat → Text → Prop)
    (source : Text)
    (version : Version) :
    Prop :=
  ∃ before major minor patch after,
    source = before ++ ((major ++ '.' :: (minor ++ '.' :: patch)) ++ after) ∧
      (∀ c ∈ before, Unicode.isWhitespace c = true) ∧
      (∀ c ∈ after, Unicode.isWhitespace c = true) ∧
      component version.major major ∧
      component version.minor minor ∧
      component version.patch patch

section Components

variable {value : Nat} {digits piece : Text}

theorem numberValue_eq_ofDigitChars
    (digits : Text) :
    numberValue digits = Nat.ofDigitChars 10 digits 0 := by
  rw [numberValue, Nat.ofDigitChars_eq_foldl]
  simp only [digitValue, Nat.mul_comm]

theorem digitsComponent?_eq_some_iff :
    digitsComponent? digits = some value ↔ IsNumber value digits := by
  rw [digitsComponent?, numberValue_eq_ofDigitChars]
  constructor
  · intro read
    split at read
    · cases read
    · rename_i solid
      split at read
      · rename_i fits
        obtain rfl := Option.some.inj read
        simp only [Bool.or_eq_true, not_or, List.isEmpty_iff, Bool.not_eq_true',
          Bool.not_eq_false, List.all_eq_true] at solid
        exact ⟨solid.1, solid.2, rfl, fits⟩
      · cases read
  · rintro ⟨nonempty, ascii, rfl, fits⟩
    have solid : ¬ (digits.isEmpty || !digits.all Char.isDigit) = true := by
      simp only [Bool.or_eq_true, not_or, List.isEmpty_iff, Bool.not_eq_true',
        Bool.not_eq_false, List.all_eq_true]
      exact ⟨nonempty, ascii⟩
    have fitsBound : Nat.ofDigitChars 10 digits 0 < componentBound := fits
    rw [if_neg solid, if_pos fitsBound]

/-- No digit is a plus sign, a point or white space. -/
theorem not_sign_of_isDigit
    {c : Char}
    (digit : c.isDigit = true) :
    c ≠ '+' ∧ c ≠ '.' ∧ Unicode.isWhitespace c = false := by
  refine ⟨?_, ?_, ?_⟩
  · rintro rfl
    exact absurd digit (by decide)
  · rintro rfl
    exact absurd digit (by decide)
  · have low : 0x30 ≤ c.toNat := (Char.isDigit_iff_toNat.mp digit).1
    have high : c.toNat ≤ 0x39 := (Char.isDigit_iff_toNat.mp digit).2
    simp only [Unicode.isWhitespace, Bool.or_eq_false_iff, Bool.and_eq_false_iff,
      decide_eq_false_iff_not, beq_eq_false_iff_ne]
    omega

theorem IsNumber.plus_notMem
    (number : IsNumber value digits) :
    '+' ∉ digits :=
  fun member => (not_sign_of_isDigit (number.ascii _ member)).1 rfl

theorem component?_eq_some_iff :
    component? piece = some value ↔ IsSignedNumber value piece := by
  rw [component?.eq_def]
  split
  · rename_i digits
    rw [digitsComponent?_eq_some_iff]
    constructor
    · intro number
      exact .inr ⟨digits, rfl, number⟩
    · rintro (number | ⟨others, same, number⟩)
      · exact (number.plus_notMem List.mem_cons_self).elim
      · obtain ⟨-, rfl⟩ := List.cons.inj same
        exact number
  · rename_i unsigned
    rw [digitsComponent?_eq_some_iff]
    constructor
    · exact .inl
    · rintro (number | ⟨digits, rfl, -⟩)
      · exact number
      · exact (unsigned digits rfl).elim

/-- A component holds no point, and neither begins nor ends with white space. -/
theorem IsSignedNumber.solid
    (signed : IsSignedNumber value piece) :
    piece ≠ [] ∧ ∀ c ∈ piece, c ≠ '.' ∧ Unicode.isWhitespace c = false := by
  rcases signed with number | ⟨digits, rfl, number⟩
  · exact ⟨number.nonempty, fun c member => (not_sign_of_isDigit (number.ascii c member)).2⟩
  · refine ⟨List.cons_ne_nil _ _, ?_⟩
    intro c member
    rcases List.mem_cons.mp member with rfl | inDigits
    · exact ⟨by decide, by decide⟩
    · exact (not_sign_of_isDigit (number.ascii c inDigits)).2

end Components

section Sources

variable {source : String} {version : Version}

/-- What succeeds behind a component read it off the first piece. -/
private theorem takeComponent_bind_eq_ok_iff
    {β : Type}
    {component : Component}
    {pieces : List Text}
    {next : Nat × List Text → Except ParseError β}
    {result : β} :
    (takeComponent source component pieces >>= next) = .ok result ↔
      ∃ piece rest value,
        pieces = piece :: rest ∧
          component? piece = some value ∧
          next (value, rest) = .ok result := by
  constructor
  · intro succeeds
    cases pieces with
    | nil =>
        cases succeeds
    | cons piece rest =>
        rw [takeComponent] at succeeds
        cases read : component? piece with
        | none =>
            rw [read] at succeeds
            cases succeeds
        | some value =>
            rw [read] at succeeds
            exact ⟨piece, rest, value, rfl, read, succeeds⟩
  · rintro ⟨piece, rest, value, rfl, read, succeeds⟩
    rw [takeComponent, read]
    exact succeeds

/-- A version is read off three pieces, each of which is a component. -/
private theorem parse_eq_ok_iff_pieces :
    parse source = .ok version ↔
      ∃ major minor patch,
        Text.splitOn '.' (Text.trimBy Unicode.isWhitespace source.toList) =
            [major, minor, patch] ∧
          IsSignedNumber version.major major ∧
          IsSignedNumber version.minor minor ∧
          IsSignedNumber version.patch patch := by
  simp only [parse, takeComponent_bind_eq_ok_iff, ← component?_eq_some_iff]
  constructor
  · rintro ⟨major, _, majorValue, shape, majorRead, minor, _, minorValue, rfl, minorRead,
      patch, rest, patchValue, rfl, patchRead, ends⟩
    split at ends
    · rename_i nothingLeft
      obtain rfl := List.isEmpty_iff.mp nothingLeft
      obtain rfl := Except.ok.inj ends
      exact ⟨major, minor, patch, shape, majorRead, minorRead, patchRead⟩
    · cases ends
  · rintro ⟨major, minor, patch, shape, majorRead, minorRead, patchRead⟩
    exact ⟨major, _, _, shape, majorRead, minor, _, _, rfl, minorRead,
      patch, _, _, rfl, patchRead, rfl⟩

/-- Exactly what writes a version, with or without signs, is read as this version. -/
theorem parse_eq_ok_iff :
    parse source = .ok version ↔ Writes IsSignedNumber source.toList version := by
  rw [parse_eq_ok_iff_pieces]
  constructor
  · rintro ⟨major, minor, patch, pieces, isMajor, isMinor, isPatch⟩
    obtain ⟨before, after, shape, blankBefore, blankAfter⟩ :=
      Text.exists_margins Unicode.isWhitespace source.toList
    have joined :=
      Text.intercalate_splitOn '.' (Text.trimBy Unicode.isWhitespace source.toList)
    rw [pieces] at joined
    refine ⟨before, major, minor, patch, after, ?_, blankBefore, blankAfter,
      isMajor, isMinor, isPatch⟩
    rw [shape, ← joined]
    simp
  · rintro ⟨before, major, minor, patch, after, shape, blankBefore, blankAfter,
      isMajor, isMinor, isPatch⟩
    obtain ⟨majorNonempty, majorSolid⟩ := isMajor.solid
    obtain ⟨minorNonempty, minorSolid⟩ := isMinor.solid
    obtain ⟨patchNonempty, patchSolid⟩ := isPatch.solid
    have trimmed :
        Text.trimBy Unicode.isWhitespace source.toList =
          major ++ '.' :: (minor ++ '.' :: patch) := by
      rw [shape]
      refine Text.trimBy_margins ?_ ?_ blankBefore blankAfter
      · intro c first
        rw [List.head?_append_of_ne_nil major majorNonempty] at first
        exact (majorSolid c (List.mem_of_head? first)).2
      · intro c last
        have regrouped :
            major ++ '.' :: (minor ++ '.' :: patch) =
              major ++ '.' :: (minor ++ ['.']) ++ patch := by
          simp
        rw [regrouped, List.getLast?_append_of_ne_nil _ patchNonempty] at last
        exact (patchSolid c (List.mem_of_getLast? last)).2
    refine ⟨major, minor, patch, ?_, isMajor, isMinor, isPatch⟩
    rw [trimmed, Text.splitOn_append_cons, Text.splitOn_append_cons,
      Text.splitOn_of_notMem fun member => (majorSolid _ member).1 rfl,
      Text.splitOn_of_notMem fun member => (minorSolid _ member).1 rfl,
      Text.splitOn_of_notMem fun member => (patchSolid _ member).1 rfl]
    rfl

/-- The written form of a number is a number. -/
theorem isNumber_toDigits
    {value : Nat}
    (fits : value < UInt64.size) :
    IsNumber value (Nat.toDigits 10 value) where
  nonempty := Nat.toDigits_ne_nil
  ascii _ member := Nat.isDigit_of_mem_toDigits (by decide) (by decide) member
  value_eq := Nat.ofDigitChars_toDigits (by decide) (by decide)
  fits := fits

theorem toList_shown
    (version : Version) :
    version.shown.toList =
      Nat.toDigits 10 version.major ++
        '.' :: (Nat.toDigits 10 version.minor ++
          '.' :: Nat.toDigits 10 version.patch) := by
  have point : ".".toList = ['.'] := rfl
  simp only [shown, String.toList_append, Nat.toString_eq_ofList_toDigits,
    String.toList_ofList, point, List.append_assoc, List.cons_append, List.nil_append]

/-- All components of a version are below the bound. -/
structure Fits (version : Version) : Prop where
  major : version.major < UInt64.size
  minor : version.minor < UInt64.size
  patch : version.patch < UInt64.size

/-- What is written of a version is read as this version. -/
theorem parse_shown
    (fits : version.Fits) :
    parse version.shown = .ok version := by
  rw [parse_eq_ok_iff]
  refine ⟨[], _, _, _, [], ?_, by simp, by simp, .inl (isNumber_toDigits fits.major),
    .inl (isNumber_toDigits fits.minor), .inl (isNumber_toDigits fits.patch)⟩
  rw [toList_shown, List.nil_append, List.append_nil]

theorem Writes.imp
    {first second : Nat → Text → Prop}
    {text : Text}
    (writes : Writes first text version)
    (implies :
      ∀ value piece, piece ⊆ text → first value piece → second value piece) :
    Writes second text version := by
  obtain ⟨before, major, minor, patch, after, rfl, blankBefore, blankAfter,
    isMajor, isMinor, isPatch⟩ := writes
  refine ⟨before, major, minor, patch, after, rfl, blankBefore, blankAfter,
    implies _ _ ?_ isMajor, implies _ _ ?_ isMinor, implies _ _ ?_ isPatch⟩
  all_goals
    intro c member
    simp [member]

/-- Without a plus sign, what is read writes the version without signs. -/
theorem Writes.unsigned
    {text : Text}
    (writes : Writes IsSignedNumber text version)
    (noPlus : '+' ∉ text) :
    Writes IsNumber text version := by
  refine writes.imp ?_
  intro value piece within signed
  rcases signed with number | ⟨digits, rfl, -⟩
  · exact number
  · exact (noPlus (within List.mem_cons_self)).elim

/-- There is no plus sign among numbers, points and white space. -/
theorem Writes.plus_notMem
    {text : Text}
    (writes : Writes IsNumber text version) :
    '+' ∉ text := by
  obtain ⟨before, major, minor, patch, after, rfl, blankBefore, blankAfter,
    isMajor, isMinor, isPatch⟩ := writes
  have noBlank
      {margin : Text}
      (blank : ∀ c ∈ margin, Unicode.isWhitespace c = true) :
      '+' ∉ margin :=
    fun member => absurd (blank _ member) (by decide)
  simp [noBlank blankBefore, noBlank blankAfter, isMajor.plus_notMem,
    isMinor.plus_notMem, isPatch.plus_notMem]

end Sources

/-- A text is read as the version that it writes without signs, and as no other. -/
def ReadsUnsigned (source : String) : Prop :=
  ∀ version,
    parse source = .ok version ↔ Writes IsNumber source.toList version

/--
A text is read as it should be unless it writes a version and holds a plus sign,
for a sign in front of a component is passed over. Every version is read back
from its written form.
-/
theorem readsUnsigned_iff
    (source : String) :
    (ReadsUnsigned source ↔
      ∀ version,
        Writes IsSignedNumber source.toList version → '+' ∉ source.toList) ∧
    (∀ version,
      parse source = .ok version ↔
        Writes IsSignedNumber source.toList version) ∧
    (∀ version : Version,
      version.Fits → parse version.shown = .ok version) := by
  refine ⟨?_, fun version => parse_eq_ok_iff, fun version => parse_shown⟩
  constructor
  · intro reads version writes
    have unsigned := (reads version).mp (parse_eq_ok_iff.mpr writes)
    exact unsigned.plus_notMem
  · intro noPlus version
    rw [parse_eq_ok_iff]
    constructor
    · intro writes
      exact writes.unsigned (noPlus version writes)
    · intro writes
      exact writes.imp fun value piece _ number => .inl number

/-- Zeros in front, white space around, and the largest component. -/
def paddedVersion : String :=
  "\t06.5.018446744073709551615\u3000"

/-- None of these is in the way. -/
theorem paddedVersion_parsed :
    ReadsUnsigned paddedVersion ∧
      parse paddedVersion = .ok ⟨6, 5, 18446744073709551615⟩ ∧
      parse (Version.mk 6 5 18446744073709551615).shown =
        .ok ⟨6, 5, 18446744073709551615⟩ := by
  obtain ⟨unsigned, accepted, back⟩ := readsUnsigned_iff paddedVersion
  refine ⟨unsigned.mpr ?_, (accepted _).mpr ?_, back _ ⟨by decide, by decide, by decide⟩⟩
  · intro version _
    decide
  · refine ⟨"\t".toList, "06".toList, "5".toList, "018446744073709551615".toList,
      "\u3000".toList, by decide, List.all_eq_true.mp (by decide),
      List.all_eq_true.mp (by decide), .inl ?_, .inl ?_, .inl ?_⟩
    all_goals
      exact ⟨by decide, List.all_eq_true.mp (by decide), by decide, by decide⟩

/-- A plus sign in front of a component is passed over. -/
theorem signedVersion_parsed :
    parse "+6.5.3" = .ok ⟨6, 5, 3⟩ ∧ ¬ ReadsUnsigned "+6.5.3" := by
  have read : parse "+6.5.3" = .ok ⟨6, 5, 3⟩ := by
    decide
  refine ⟨read, ?_⟩
  intro unsigned
  exact absurd ((unsigned _).mp read).plus_notMem (by decide)

end Provision.Version
