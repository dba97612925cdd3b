import Provision.Descriptor.Decoding
import Provision.Proofs.Encoding.Utf16

namespace Provision.Descriptor

/-!
# Reading what was written in some encoding

Each reader takes exactly the texts that its encoding writes, with or without a
byte order mark, less those that its guard refuses: NUL in UTF-8, characters
that no text file holds in UTF-16. From that it follows which reader a written
text meets first.
-/

/-- A mark is taken off exactly where the bytes start with it. -/
theorem afterMark?_eq_some_iff
    {mark bytes body : Bytes} :
    afterMark? mark bytes = some body ↔ bytes = mark ++ body := by
  rw [afterMark?]
  split
  · rename_i starts
    obtain ⟨rest, rfl⟩ := List.isPrefixOf_iff_prefix.mp starts
    rw [List.drop_left, Option.some.injEq, List.append_cancel_left_eq]
  · rename_i startsNot
    constructor
    · intro impossible
      cases impossible
    · rintro rfl
      exact (startsNot
        (List.isPrefixOf_iff_prefix.mpr (List.prefix_append mark body))).elim

theorem afterMark?_eq_none_iff
    {mark bytes : Bytes} :
    afterMark? mark bytes = none ↔ ¬ mark <+: bytes := by
  rw [afterMark?, ← List.isPrefixOf_iff_prefix]
  split <;> simp_all

/-- The mark of UTF-8 is the written form of U+FEFF. -/
theorem byteOrderMark_utf8 :
    Encoding.utf8.byteOrderMark = Utf8.encodeChar '\uFEFF' := by
  decide

/-- The UTF-8 reader takes the text of the bytes behind a mark, unless it holds NUL. -/
theorem readUtf8?_eq_some_iff_body
    {bytes : Bytes}
    {text : Text} :
    readUtf8? bytes = some text ↔
      (afterMark? Encoding.utf8.byteOrderMark bytes).getD bytes =
          Utf8.encode text ∧
        '\x00' ∉ text := by
  simp only [readUtf8?, Option.bind_eq_bind, Option.bind_eq_some_iff,
    Utf8.decode?_eq_some_iff]
  constructor
  · rintro ⟨read, shape, accepted⟩
    split at accepted
    · cases accepted
    · rename_i noNul
      obtain rfl := Option.some.inj accepted
      exact ⟨shape, by simpa using noNul⟩
  · rintro ⟨shape, noNul⟩
    exact ⟨text, shape, by simp [noNul]⟩

/--
The UTF-8 reader takes what is written with a mark, and what is written without
one unless it looks as if it had one; it refuses NUL.
-/
theorem readUtf8?_eq_some_iff
    {bytes : Bytes}
    {text : Text} :
    readUtf8? bytes = some text ↔
      (bytes = Encoding.utf8.byteOrderMark ++ Utf8.encode text ∨
          (bytes = Utf8.encode text ∧ text.head? ≠ some '\uFEFF')) ∧
        '\x00' ∉ text := by
  rw [readUtf8?_eq_some_iff_body]
  refine and_congr_left fun _ => ?_
  have headIff :
      Encoding.utf8.byteOrderMark <+: Utf8.encode text ↔
        text.head? = some '\uFEFF' := by
    rw [byteOrderMark_utf8, Utf8.encodeChar_prefix_encode_iff]
  cases marked : afterMark? Encoding.utf8.byteOrderMark bytes with
  | some body =>
      rw [afterMark?_eq_some_iff] at marked
      rw [Option.getD_some, marked, List.append_cancel_left_eq]
      constructor
      · exact Or.inl
      · rintro (same | ⟨unmarked, notFirst⟩)
        · exact same
        · have starts := headIff.mp ⟨body, unmarked⟩
          exact (notFirst starts).elim
  | none =>
      rw [afterMark?_eq_none_iff] at marked
      rw [Option.getD_none]
      constructor
      · rintro rfl
        exact Or.inr ⟨rfl, fun starts => marked (headIff.mpr starts)⟩
      · rintro (withMark | ⟨same, -⟩)
        · exact (marked ⟨_, withMark.symm⟩).elim
        · exact same

/-- Every second byte of little-endian units is the high byte of a unit. -/
theorem highBytes_flatMap_unitBytes
    (list : List UInt16) :
    highBytes (list.flatMap (Utf16.unitBytes .littleEndian)) =
      list.map fun unit => UInt8.ofNat (unit.toNat / 0x100) := by
  induction list with
  | nil =>
      rfl
  | cons unit list inductionHypothesis =>
      rw [List.flatMap_cons, List.map_cons, ← inductionHypothesis]
      rfl

/-- A unit has a NUL as high byte exactly if it is below 0x100. -/
theorem highByte_eq_zero_iff
    (unit : UInt16) :
    UInt8.ofNat (unit.toNat / 0x100) = 0 ↔ unit.toNat < 0x100 := by
  have small := unit.toNat_lt
  rw [← UInt8.toNat_inj, UInt8.toNat_ofNat']
  change unit.toNat / 0x100 % 2 ^ 8 = 0 ↔ _
  omega

/-- A text looks like what it is if at least half of its units are below 0x100. -/
theorem looksLittleEndian_encode_iff
    (text : Text) :
    looksLittleEndian (Utf16.encode .littleEndian text) = true ↔
      Utf16.units text ≠ [] ∧
        (Utf16.units text).length ≤
          2 * (Utf16.units text).countP fun unit => unit.toNat < 0x100 := by
  have zeros :
      ((Utf16.units text).map fun unit =>
          UInt8.ofNat (unit.toNat / 0x100)).count 0 =
        (Utf16.units text).countP fun unit => unit.toNat < 0x100 := by
    rw [List.count, List.countP_map]
    refine List.countP_congr fun unit _ => ?_
    simp [highByte_eq_zero_iff]
  simp only [looksLittleEndian, Utf16.encode, highBytes_flatMap_unitBytes,
    zeros, List.length_map, Bool.and_eq_true, decide_eq_true_eq,
    Bool.not_eq_true', List.isEmpty_eq_false_iff, ne_eq, List.map_eq_nil_iff]

/-- Characters that a UTF-16 text file may hold. -/
theorem isPlausible_iff
    {c : Char} :
    isPlausible c = true ↔
      (Unicode.isControl c = true → c = '\n' ∨ c = '\r' ∨ c = '\t') := by
  simp only [isPlausible, isTextControl, Bool.or_eq_true, Bool.not_eq_true',
    beq_iff_eq, or_assoc]
  cases Unicode.isControl c <;> simp

/-- The marks of the two orders begin differently. -/
private theorem order_eq_of_marked
    {first second : Utf16.ByteOrder}
    {body other : Bytes}
    (same :
      (Encoding.utf16 first).byteOrderMark ++ body =
        (Encoding.utf16 second).byteOrderMark ++ other) :
    first = second ∧ body = other := by
  cases first <;> cases second <;>
    simp_all [Encoding.byteOrderMark]

/-- The body of UTF-16 bytes, and what tells its order. -/
theorem utf16Body?_eq_some_iff
    {bytes body : Bytes}
    {order : Utf16.ByteOrder} :
    utf16Body? bytes = some (order, body) ↔
      bytes = (Encoding.utf16 order).byteOrderMark ++ body ∨
        ((∀ other, ¬ (Encoding.utf16 other).byteOrderMark <+: bytes) ∧
          looksLittleEndian bytes = true ∧
          order = .littleEndian ∧ body = bytes) := by
  have ofMark
      (marked : Utf16.ByteOrder)
      (rest : Bytes)
      (shape : bytes = (Encoding.utf16 marked).byteOrderMark ++ rest) :
      some (marked, rest) = some (order, body) ↔
        bytes = (Encoding.utf16 order).byteOrderMark ++ body ∨
          ((∀ other, ¬ (Encoding.utf16 other).byteOrderMark <+: bytes) ∧
            looksLittleEndian bytes = true ∧
            order = .littleEndian ∧ body = bytes) := by
    constructor
    · intro same
      obtain ⟨rfl, rfl⟩ := Prod.mk.inj (Option.some.inj same)
      exact Or.inl shape
    · rintro (same | ⟨unmarked, -⟩)
      · obtain ⟨rfl, rfl⟩ := order_eq_of_marked (shape.symm.trans same)
        rfl
      · exact (unmarked marked ⟨rest, shape.symm⟩).elim
  rw [utf16Body?]
  split
  · rename_i rest marked
    exact ofMark .littleEndian rest (afterMark?_eq_some_iff.mp marked)
  · rename_i notLittle
    split
    · rename_i rest marked
      exact ofMark .bigEndian rest (afterMark?_eq_some_iff.mp marked)
    · rename_i notBig
      rw [afterMark?_eq_none_iff] at notLittle notBig
      have unmarked :
          ∀ other, ¬ (Encoding.utf16 other).byteOrderMark <+: bytes := by
        intro other
        cases other with
        | littleEndian => exact notLittle
        | bigEndian => exact notBig
      have noMark :
          ¬ bytes = (Encoding.utf16 order).byteOrderMark ++ body :=
        fun shape => unmarked order ⟨body, shape.symm⟩
      cases looksLittleEndian bytes with
      | true =>
          simp [unmarked, noMark, eq_comm]
      | false =>
          simp [noMark]

/--
The UTF-16 reader takes what is written with a mark, and little-endian text
without one that looks like it; it refuses control characters.
-/
theorem readUtf16?_eq_some_iff
    {bytes : Bytes}
    {text : Text}
    {order : Utf16.ByteOrder} :
    readUtf16? bytes = some (text, order) ↔
      (∀ c ∈ text, isPlausible c = true) ∧
        utf16Body? bytes = some (order, Utf16.encode order text) := by
  simp only [readUtf16?, Option.bind_eq_bind, Option.bind_eq_some_iff,
    Prod.exists, Utf16.decode?_eq_some_iff]
  constructor
  · rintro ⟨readOrder, body, located, read, shape, accepted⟩
    split at accepted
    · rename_i allPlausible
      obtain ⟨rfl, rfl⟩ := Prod.mk.inj (Option.some.inj accepted)
      exact ⟨List.all_eq_true.mp allPlausible, by rw [located, shape]⟩
    · cases accepted
  · rintro ⟨allPlausible, located⟩
    exact ⟨order, _, located, text, rfl,
      by rw [if_pos (List.all_eq_true.mpr allPlausible)]⟩

/-- A zero byte keeps the UTF-8 reader off. -/
theorem readUtf8?_eq_none_of_zero
    {bytes : Bytes}
    (zero : 0 ∈ bytes) :
    readUtf8? bytes = none := by
  cases read : readUtf8? bytes with
  | none =>
      rfl
  | some text =>
      obtain ⟨shape, noNul⟩ := readUtf8?_eq_some_iff.mp read
      have inText : 0 ∈ Utf8.encode text := by
        rcases shape with rfl | ⟨rfl, -⟩
        · rcases List.mem_append.mp zero with inMark | inText
          · exact absurd inMark (by decide)
          · exact inText
        · exact zero
      exact (noNul (Utf8.zero_mem_encode_iff.mp inText)).elim

/-- No UTF-8 text starts with a mark of UTF-16. -/
theorem readUtf8?_utf16Mark
    (order : Utf16.ByteOrder)
    (body : Bytes) :
    readUtf8? ((Encoding.utf16 order).byteOrderMark ++ body) = none := by
  cases order <;> rfl

theorem decode_of_readUtf8?
    {bytes : Bytes}
    {text : Text}
    (read : readUtf8? bytes = some text) :
    decode bytes = (text, .utf8) := by
  rw [decode, read]

theorem decode_of_readUtf16?
    {bytes : Bytes}
    {text : Text}
    {order : Utf16.ByteOrder}
    (notUtf8 : readUtf8? bytes = none)
    (read : readUtf16? bytes = some (text, order)) :
    decode bytes = (text, .utf16 order) := by
  rw [decode, notUtf8, read]

theorem decode_of_unread
    {bytes : Bytes}
    (notUtf8 : readUtf8? bytes = none)
    (notUtf16 : readUtf16? bytes = none) :
    decode bytes = (Latin1.decode bytes, .latin1) := by
  rw [decode, notUtf8, notUtf16]

/-- The marks of UTF-16 are units of little-endian bytes, of U+FEFF and of U+FFFE. -/
private theorem exists_mark_unit
    (order : Utf16.ByteOrder) :
    ∃ unit, (unit = 0xFEFF ∨ unit = 0xFFFE) ∧
      (Encoding.utf16 order).byteOrderMark =
        Utf16.unitBytes .littleEndian unit := by
  cases order with
  | littleEndian => exact ⟨0xFEFF, Or.inl rfl, by decide⟩
  | bigEndian => exact ⟨0xFFFE, Or.inr rfl, by decide⟩

/-- Units in little-endian order start with a mark only if their first one is a mark. -/
theorem not_mark_prefix_encode
    {text : Text}
    (notMark : (Utf16.units text).head? ≠ some 0xFEFF)
    (notSwapped : (Utf16.units text).head? ≠ some 0xFFFE)
    (order : Utf16.ByteOrder) :
    ¬ (Encoding.utf16 order).byteOrderMark <+:
        Utf16.encode .littleEndian text := by
  rintro ⟨rest, shape⟩
  obtain ⟨mark, isMark, markShape⟩ := exists_mark_unit order
  have reads :
      Utf16.unitsOfBytes? .littleEndian
          (Utf16.unitBytes .littleEndian mark ++ rest) =
        some (Utf16.units text) :=
    Utf16.unitsOfBytes?_eq_some_iff.mpr
      (by rw [← markShape, shape, Utf16.encode])
  rw [Utf16.unitsOfBytes?_unitBytes_append, Option.map_eq_some_iff] at reads
  obtain ⟨more, -, unitsShape⟩ := reads
  rw [← unitsShape, List.head?_cons] at notMark notSwapped
  rcases isMark with rfl | rfl
  · exact notMark rfl
  · exact notSwapped rfl

theorem mem_of_mem_highBytes
    {byte : UInt8}
    {bytes : Bytes}
    (member : byte ∈ highBytes bytes) :
    byte ∈ bytes := by
  induction bytes using highBytes.induct with
  | case1 =>
      cases member
  | case2 low =>
      cases member
  | case3 low high rest inductionHypothesis =>
      rw [highBytes, List.mem_cons] at member
      rcases member with rfl | inRest
      · exact List.mem_cons_of_mem _ List.mem_cons_self
      · exact List.mem_cons_of_mem _
          (List.mem_cons_of_mem _ (inductionHypothesis inRest))

/-- Bytes that look like UTF-16 have a zero among them. -/
theorem zero_mem_of_looksLittleEndian
    {bytes : Bytes}
    (looks : looksLittleEndian bytes = true) :
    0 ∈ bytes := by
  simp only [looksLittleEndian, Bool.and_eq_true, decide_eq_true_eq,
    Bool.not_eq_true', List.isEmpty_eq_false_iff] at looks
  obtain ⟨nonempty, half⟩ := looks
  have positive := List.length_pos_iff.mpr nonempty
  exact mem_of_mem_highBytes
    (List.count_pos_iff.mp (show 0 < (highBytes bytes).count 0 by omega))

/-- Every byte is the code point of one character. -/
theorem map_toNat_latin1
    (bytes : Bytes) :
    (Latin1.decode bytes).map Char.toNat = bytes.map UInt8.toNat := by
  rw [Latin1.decode, List.map_map]
  refine List.map_congr_left fun byte _ => ?_
  have small := byte.toNat_lt
  exact Utf8.toNat_ofNat_of_valid (Or.inl (by omega))

/-- UTF-16 with a mark is read in the order that the mark tells. -/
theorem decode_marked_utf16
    {text : Text}
    (order : Utf16.ByteOrder)
    (allPlausible : ∀ c ∈ text, isPlausible c = true) :
    decode ((Encoding.utf16 order).byteOrderMark ++ Utf16.encode order text) =
      (text, .utf16 order) :=
  decode_of_readUtf16? (readUtf8?_utf16Mark order _)
    (readUtf16?_eq_some_iff.mpr
      ⟨allPlausible, utf16Body?_eq_some_iff.mpr (Or.inl rfl)⟩)

/-- UTF-16 without a mark is read as little-endian if half of it is below U+0100. -/
theorem decode_unmarked_utf16
    {text : Text}
    (allPlausible : ∀ c ∈ text, isPlausible c = true)
    (nonempty : text ≠ [])
    (half :
      (Utf16.units text).length ≤
        2 * (Utf16.units text).countP fun unit => unit.toNat < 0x100)
    (notMark : (Utf16.units text).head? ≠ some 0xFEFF)
    (notSwapped : (Utf16.units text).head? ≠ some 0xFFFE) :
    decode (Utf16.encode .littleEndian text) =
      (text, .utf16 .littleEndian) := by
  have someUnits : Utf16.units text ≠ [] := by
    intro none
    have empty := Utf16.textOfUnits?_eq_some_iff.mpr (Eq.refl (Utf16.units text))
    rw [none, Utf16.textOfUnits?, Option.some.injEq] at empty
    exact nonempty empty.symm
  have looks := (looksLittleEndian_encode_iff text).mpr ⟨someUnits, half⟩
  refine decode_of_readUtf16?
    (readUtf8?_eq_none_of_zero (zero_mem_of_looksLittleEndian looks))
    (readUtf16?_eq_some_iff.mpr
      ⟨allPlausible, utf16Body?_eq_some_iff.mpr (Or.inr ?_)⟩)
  exact ⟨not_mark_prefix_encode notMark notSwapped, looks, rfl, rfl⟩

/-- Without zeros and marks, bytes that are not UTF-8 are read one by one. -/
theorem decode_latin1
    {bytes : Bytes}
    (noZero : 0 ∉ bytes)
    (unmarked : ∀ order, ¬ (Encoding.utf16 order).byteOrderMark <+: bytes)
    (notUtf8 :
      ∀ text,
        (afterMark? Encoding.utf8.byteOrderMark bytes).getD bytes ≠
          Utf8.encode text) :
    decode bytes = (Latin1.decode bytes, .latin1) := by
  apply decode_of_unread
  · rw [Option.eq_none_iff_forall_ne_some]
    intro text read
    exact notUtf8 text (readUtf8?_eq_some_iff_body.mp read).1
  · rw [Option.eq_none_iff_forall_ne_some]
    rintro ⟨text, order⟩ read
    obtain ⟨-, located⟩ := readUtf16?_eq_some_iff.mp read
    rcases utf16Body?_eq_some_iff.mp located with shape | ⟨-, looks, -⟩
    · exact unmarked order ⟨_, shape.symm⟩
    · exact noZero (zero_mem_of_looksLittleEndian looks)

/--
Decoding undoes encoding. UTF-8 is read back with a mark and, unless it starts
like one, without. UTF-16 is read back with a mark in either order, and without
one in little-endian order if half of its units are below 0x100. What is left
over is read as Latin-1, if no zero makes it look like UTF-16.
-/
theorem decode_undoes_encoding :
    (∀ text : Text,
      '\x00' ∉ text →
        (text.head? ≠ some '\uFEFF' →
          decode (text.flatMap String.utf8EncodeChar) = (text, .utf8)) ∧
        decode ([0xEF, 0xBB, 0xBF] ++ text.flatMap String.utf8EncodeChar) =
          (text, .utf8)) ∧
    (∀ text : Text,
      (∀ c ∈ text,
        Unicode.isControl c = true → c = '\n' ∨ c = '\r' ∨ c = '\t') →
        decode ([0xFF, 0xFE] ++ Utf16.encode .littleEndian text) =
          (text, .utf16 .littleEndian) ∧
        decode ([0xFE, 0xFF] ++ Utf16.encode .bigEndian text) =
          (text, .utf16 .bigEndian) ∧
        (text ≠ [] →
          (Utf16.units text).length ≤
            2 * (Utf16.units text).countP (fun unit => unit.toNat < 0x100) →
          (Utf16.units text).head? ≠ some 0xFEFF →
          (Utf16.units text).head? ≠ some 0xFFFE →
          decode (Utf16.encode .littleEndian text) =
            (text, .utf16 .littleEndian))) ∧
    (∀ bytes : Bytes,
      0 ∉ bytes →
      ¬ [0xFF, 0xFE] <+: bytes →
      ¬ [0xFE, 0xFF] <+: bytes →
      (∀ text : Text,
        (afterMark? [0xEF, 0xBB, 0xBF] bytes).getD bytes ≠
          text.flatMap String.utf8EncodeChar) →
        (decode bytes).2 = .latin1 ∧
        (decode bytes).1.map Char.toNat = bytes.map UInt8.toNat) := by
  refine ⟨?utf8, ?utf16, ?latin1⟩
  case utf8 =>
    intro text noNul
    rw [← Utf8.encode_eq_flatMap]
    refine ⟨fun notFirst => ?_, ?_⟩
    · exact decode_of_readUtf8?
        (readUtf8?_eq_some_iff.mpr ⟨Or.inr ⟨rfl, notFirst⟩, noNul⟩)
    · exact decode_of_readUtf8?
        (readUtf8?_eq_some_iff.mpr ⟨Or.inl rfl, noNul⟩)
  case utf16 =>
    intro text noControl
    have allPlausible : ∀ c ∈ text, isPlausible c = true :=
      fun c member => isPlausible_iff.mpr (noControl c member)
    exact ⟨decode_marked_utf16 .littleEndian allPlausible,
      decode_marked_utf16 .bigEndian allPlausible,
      decode_unmarked_utf16 allPlausible⟩
  case latin1 =>
    intro bytes noZero notLittle notBig notUtf8
    have unmarked :
        ∀ order, ¬ (Encoding.utf16 order).byteOrderMark <+: bytes := by
      intro order
      cases order with
      | littleEndian => exact notLittle
      | bigEndian => exact notBig
    simp only [← Utf8.encode_eq_flatMap] at notUtf8
    rw [decode_latin1 noZero unmarked notUtf8]
    exact ⟨rfl, map_toNat_latin1 bytes⟩

/-- A text of one, two, three and four UTF-8 bytes, the last in two UTF-16 units. -/
def mixedWidths : Text :=
  "# a\té€😀\n".toList

/-- Each way of writing the text is read back. -/
theorem mixedWidths_decoded :
    decode (mixedWidths.flatMap String.utf8EncodeChar) =
        (mixedWidths, .utf8) ∧
      decode ([0xFE, 0xFF] ++ Utf16.encode .bigEndian mixedWidths) =
        (mixedWidths, .utf16 .bigEndian) ∧
      decode (Utf16.encode .littleEndian mixedWidths) =
        (mixedWidths, .utf16 .littleEndian) ∧
      (decode [0x23, 0xE9, 0x0A]).2 = .latin1 := by
  obtain ⟨utf8, utf16, latin1⟩ := decode_undoes_encoding
  have noControl :
      ∀ c ∈ mixedWidths,
        Unicode.isControl c = true → c = '\n' ∨ c = '\r' ∨ c = '\t' := by
    have checked :
        (mixedWidths.all fun c =>
          !Unicode.isControl c || (c == '\n' || (c == '\r' || c == '\t'))) = true := by
      decide +kernel
    intro c member control
    have passes := List.all_eq_true.mp checked c member
    simpa [control] using passes
  obtain ⟨-, bigEndian, unmarked⟩ := utf16 mixedWidths noControl
  have notUtf8 :
      Utf8.decode?
          ((afterMark? [0xEF, 0xBB, 0xBF] [0x23, 0xE9, 0x0A]).getD
            [0x23, 0xE9, 0x0A]) = none := by
    decide
  refine ⟨(utf8 mixedWidths (by decide)).1 (by decide), bigEndian,
    unmarked (by decide) (by decide) (by decide) (by decide), ?_⟩
  refine (latin1 [0x23, 0xE9, 0x0A] (by decide) (by decide) (by decide) ?_).1
  intro text shape
  rw [shape, ← Utf8.encode_eq_flatMap, Utf8.decode?_encode] at notUtf8
  cases notUtf8

end Provision.Descriptor
