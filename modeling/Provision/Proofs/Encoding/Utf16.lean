import Provision.Encoding.Utf16
import Provision.Proofs.Encoding.Utf8

namespace Provision.Utf16

/-!
# UTF-16 read and written

As for UTF-8, the reader takes exactly what the writer produces, in either
order of the bytes. Bytes are compared with units first, then units with
characters, each of which has one unit or a pair of surrogates.
-/

/-- Every number below 0x10000 is that of a unit. -/
private theorem exists_unit
    (number : Nat)
    (small : number < 0x10000) :
    ∃ unit : UInt16, unit.toNat = number := by
  refine ⟨UInt16.ofNat number, ?_⟩
  rw [UInt16.toNat_ofNat']
  exact Nat.mod_eq_of_lt small

private theorem ofNat_eq
    {number : Nat}
    {unit : UInt16}
    (same : unit.toNat = number) :
    UInt16.ofNat number = unit := by
  rw [← same]
  exact UInt16.ofNat_toNat

/-- The high and the low byte of a unit. -/
private theorem exists_halves
    (unit : UInt16) :
    ∃ high low : UInt8,
      unit.toNat = high.toNat * 0x100 + low.toNat ∧
        unitBytes .bigEndian unit = [high, low] ∧
        unitBytes .littleEndian unit = [low, high] := by
  have small := unit.toNat_lt
  obtain ⟨high, highValue⟩ :=
    Utf8.exists_byte (unit.toNat / 0x100) (by omega)
  obtain ⟨low, lowValue⟩ :=
    Utf8.exists_byte (unit.toNat % 0x100) (by omega)
  refine ⟨high, low, by omega, ?_, ?_⟩ <;>
    simp [unitBytes, ← highValue, ← lowValue]

/-- The unit of two bytes. -/
private theorem exists_unit_of_halves
    (high low : UInt8) :
    ∃ unit : UInt16,
      unit.toNat = high.toNat * 0x100 + low.toNat ∧
        unitBytes .bigEndian unit = [high, low] ∧
        unitBytes .littleEndian unit = [low, high] := by
  have highSmall := high.toNat_lt
  have lowSmall := low.toNat_lt
  obtain ⟨unit, value⟩ :=
    exists_unit (high.toNat * 0x100 + low.toNat) (by omega)
  have highValue : unit.toNat / 0x100 = high.toNat := by omega
  have lowValue : unit.toNat % 0x100 = low.toNat := by omega
  refine ⟨unit, value, ?_, ?_⟩ <;> simp [unitBytes, highValue, lowValue]

/-- The two bytes of a unit are read as that unit. -/
theorem unitsOfBytes?_unitBytes_append
    (order : ByteOrder)
    (unit : UInt16)
    (rest : Bytes) :
    unitsOfBytes? order (unitBytes order unit ++ rest) =
      (unitsOfBytes? order rest).map (unit :: ·) := by
  obtain ⟨high, low, value, bigEndian, littleEndian⟩ := exists_halves unit
  cases order with
  | bigEndian =>
      rw [bigEndian, List.cons_append, List.singleton_append]
      simp only [unitsOfBytes?, ofNat_eq value]
  | littleEndian =>
      rw [littleEndian, List.cons_append, List.singleton_append]
      simp only [unitsOfBytes?, ofNat_eq value]

/-- Two bytes are those of a unit. -/
theorem exists_unitBytes
    (order : ByteOrder)
    (first second : UInt8) :
    ∃ unit, unitBytes order unit = [first, second] := by
  cases order with
  | bigEndian =>
      obtain ⟨unit, -, bigEndian, -⟩ := exists_unit_of_halves first second
      exact ⟨unit, bigEndian⟩
  | littleEndian =>
      obtain ⟨unit, -, -, littleEndian⟩ := exists_unit_of_halves second first
      exact ⟨unit, littleEndian⟩

/-- Bytes are read as units exactly if they are the bytes of these units. -/
theorem unitsOfBytes?_eq_some_iff
    {order : ByteOrder}
    {bytes : Bytes}
    {list : List UInt16} :
    unitsOfBytes? order bytes = some list ↔
      bytes = list.flatMap (unitBytes order) := by
  constructor
  · intro reads
    induction bytes using unitsOfBytes?.induct order generalizing list with
    | case1 =>
        simp only [unitsOfBytes?, Option.some.injEq] at reads
        rw [← reads, List.flatMap_nil]
    | case2 =>
        simp [unitsOfBytes?] at reads
    | case3 first second rest inductionHypothesis =>
        obtain ⟨unit, shape⟩ := exists_unitBytes order first second
        have bytesShape :
            first :: second :: rest = unitBytes order unit ++ rest := by
          rw [shape, List.cons_append, List.singleton_append]
        rw [bytesShape, unitsOfBytes?_unitBytes_append,
          Option.map_eq_some_iff] at reads
        obtain ⟨more, restReads, rfl⟩ := reads
        rw [bytesShape, inductionHypothesis restReads, List.flatMap_cons]
  · rintro rfl
    induction list with
    | nil =>
        rfl
    | cons unit more inductionHypothesis =>
        rw [List.flatMap_cons, unitsOfBytes?_unitBytes_append,
          inductionHypothesis, Option.map_some]

/-- A unit that is no surrogate is a character of its own. -/
private theorem textOfUnits?_plain
    {unit : UInt16}
    (rest : List UInt16)
    (plain : unit.toNat < 0xD800 ∨ 0xE000 ≤ unit.toNat) :
    textOfUnits? (unit :: rest) =
      (textOfUnits? rest).map (Char.ofNat unit.toNat :: ·) := by
  have notLow : isLowSurrogate unit = false := by
    simp only [isLowSurrogate, Bool.and_eq_false_iff, decide_eq_false_iff_not]
    omega
  have notHigh : isHighSurrogate unit = false := by
    simp only [isHighSurrogate, Bool.and_eq_false_iff, decide_eq_false_iff_not]
    omega
  rw [textOfUnits?.eq_def]
  simp only [notLow, notHigh, Bool.false_eq_true, ↓reduceIte]

/-- Two surrogates in order are one character. -/
private theorem textOfUnits?_pair
    {high low : UInt16}
    (rest : List UInt16)
    (isHigh : 0xD800 ≤ high.toNat ∧ high.toNat < 0xDC00)
    (isLow : 0xDC00 ≤ low.toNat ∧ low.toNat < 0xE000) :
    textOfUnits? (high :: low :: rest) =
      (textOfUnits? rest).map
        (Char.ofNat
          (0x10000 + (high.toNat - 0xD800) * 0x400 + (low.toNat - 0xDC00)) ::
            ·) := by
  have highNotLow : isLowSurrogate high = false := by
    simp only [isLowSurrogate, Bool.and_eq_false_iff, decide_eq_false_iff_not]
    omega
  have highHigh : isHighSurrogate high = true := by
    simpa [isHighSurrogate] using isHigh
  have lowLow : isLowSurrogate low = true := by
    simpa [isLowSurrogate] using isLow
  rw [textOfUnits?]
  simp only [highNotLow, highHigh, lowLow, Bool.false_eq_true, ↓reduceIte]

private theorem encodeChar_one
    {c : Char}
    {unit : UInt16}
    (small : c.toNat < 0x10000)
    (value : unit.toNat = c.toNat) :
    encodeChar c = [unit] := by
  simp [encodeChar, small, ofNat_eq value]

private theorem encodeChar_two
    {c : Char}
    {high low : UInt16}
    (large : 0x10000 ≤ c.toNat)
    (highValue : high.toNat = 0xD800 + (c.toNat - 0x10000) / 0x400)
    (lowValue : low.toNat = 0xDC00 + (c.toNat - 0x10000) % 0x400) :
    encodeChar c = [high, low] := by
  have notSmall : ¬ c.toNat < 0x10000 := by omega
  simp [encodeChar, notSmall, ofNat_eq highValue, ofNat_eq lowValue]

/-- The units of a character are read as that character. -/
theorem textOfUnits?_encodeChar_append
    (c : Char)
    (rest : List UInt16) :
    textOfUnits? (encodeChar c ++ rest) =
      (textOfUnits? rest).map (c :: ·) := by
  have valid := Utf8.toNat_cases c
  by_cases one : c.toNat < 0x10000
  · obtain ⟨unit, value⟩ := exists_unit c.toNat one
    rw [encodeChar_one one value, List.singleton_append,
      textOfUnits?_plain rest (by omega), value, Char.ofNat_toNat]
  · obtain ⟨high, highValue⟩ :=
      exists_unit (0xD800 + (c.toNat - 0x10000) / 0x400) (by omega)
    obtain ⟨low, lowValue⟩ :=
      exists_unit (0xDC00 + (c.toNat - 0x10000) % 0x400) (by omega)
    have point :
        0x10000 + (high.toNat - 0xD800) * 0x400 + (low.toNat - 0xDC00) =
          c.toNat := by
      omega
    rw [encodeChar_two (by omega) highValue lowValue, List.cons_append,
      List.singleton_append, textOfUnits?_pair rest (by omega) (by omega),
      point, Char.ofNat_toNat]

/-- Units are read as a text exactly if they are the units of this text. -/
theorem textOfUnits?_eq_some_iff
    {list : List UInt16}
    {text : Text} :
    textOfUnits? list = some text ↔ list = units text := by
  constructor
  · intro reads
    induction list using textOfUnits?.induct generalizing text with
    | case1 =>
        simp only [textOfUnits?, Option.some.injEq] at reads
        rw [← reads]
        rfl
    | case2 unit rest isLow =>
        simp [textOfUnits?.eq_def, isLow] at reads
    | case3 high notLow isHigh low rest isLow inductionHypothesis =>
        simp only [isHighSurrogate, isLowSurrogate, Bool.and_eq_true,
          decide_eq_true_eq] at isHigh isLow
        rw [textOfUnits?_pair rest isHigh isLow,
          Option.map_eq_some_iff] at reads
        obtain ⟨more, restReads, rfl⟩ := reads
        generalize pointShape :
          0x10000 + (high.toNat - 0xD800) * 0x400 + (low.toNat - 0xDC00) =
            point
        have value : (Char.ofNat point).toNat = point :=
          Utf8.toNat_ofNat_of_valid (show point < 0xD800 ∨ _ by omega)
        have written : encodeChar (Char.ofNat point) = [high, low] :=
          encodeChar_two (by omega) (by omega) (by omega)
        rw [units, List.flatMap_cons, written, inductionHypothesis restReads]
        rfl
    | case4 high notLow isHigh low rest isPlain =>
        simp [textOfUnits?.eq_def, notLow, isHigh, isPlain] at reads
    | case5 unit notLow isHigh =>
        simp [textOfUnits?.eq_def, notLow, isHigh] at reads
    | case6 unit rest notLow notHigh inductionHypothesis =>
        simp only [isHighSurrogate, isLowSurrogate, Bool.and_eq_true,
          decide_eq_true_eq] at notHigh notLow
        have plain : unit.toNat < 0xD800 ∨ 0xE000 ≤ unit.toNat := by omega
        have small := unit.toNat_lt
        rw [textOfUnits?_plain rest plain, Option.map_eq_some_iff] at reads
        obtain ⟨more, restReads, rfl⟩ := reads
        have value : (Char.ofNat unit.toNat).toNat = unit.toNat :=
          Utf8.toNat_ofNat_of_valid (show unit.toNat < 0xD800 ∨ _ by omega)
        rw [units, List.flatMap_cons, encodeChar_one (by omega) value.symm,
          inductionHypothesis restReads]
        rfl
  · rintro rfl
    induction text with
    | nil =>
        rfl
    | cons c text inductionHypothesis =>
        rw [units] at inductionHypothesis
        rw [units, List.flatMap_cons, textOfUnits?_encodeChar_append,
          inductionHypothesis, Option.map_some]

/-- The reader takes exactly what the writer produces. -/
theorem decode?_eq_some_iff
    {order : ByteOrder}
    {bytes : Bytes}
    {text : Text} :
    decode? order bytes = some text ↔ bytes = encode order text := by
  rw [decode?, Option.bind_eq_some_iff, encode]
  constructor
  · rintro ⟨list, bytesRead, unitsRead⟩
    rw [unitsOfBytes?_eq_some_iff.mp bytesRead,
      textOfUnits?_eq_some_iff.mp unitsRead]
  · intro shape
    exact ⟨units text, unitsOfBytes?_eq_some_iff.mpr shape,
      textOfUnits?_eq_some_iff.mpr rfl⟩

end Provision.Utf16
