import Provision.Proofs.Descriptor.Decoding

namespace Provision.Descriptor

/-!
# Writing back what was read

Whatever encoding a descriptor is read in, the text in that encoding is the
bytes it was read from, up to a byte order mark in front. So a reading tells its
bytes, and two descriptors that are read alike differ in a mark at most.
-/

/-- Bytes write a text in an encoding, perhaps with the mark of the encoding in front. -/
def WrittenIn
    (encoding : Encoding)
    (text : Text)
    (bytes : Bytes) :
    Prop :=
  ∃ body,
    encoding.encode? text = some body ∧
      (bytes = body ∨ bytes = encoding.byteOrderMark ++ body)

variable {bytes : Bytes} {text : Text} {order : Utf16.ByteOrder}

theorem writtenIn_of_readUtf8?
    (read : readUtf8? bytes = some text) :
    WrittenIn .utf8 text bytes := by
  refine ⟨Utf8.encode text, rfl, ?_⟩
  obtain ⟨marked | ⟨unmarked, -⟩, -⟩ := readUtf8?_eq_some_iff.mp read
  · exact .inr marked
  · exact .inl unmarked

theorem writtenIn_of_readUtf16?
    (read : readUtf16? bytes = some (text, order)) :
    WrittenIn (.utf16 order) text bytes := by
  refine ⟨Utf16.encode order text, rfl, ?_⟩
  obtain ⟨-, located⟩ := readUtf16?_eq_some_iff.mp read
  rcases utf16Body?_eq_some_iff.mp located with marked | ⟨-, -, -, unmarked⟩
  · exact .inr marked
  · exact .inl unmarked.symm

/-- Every byte is written back from its character. -/
theorem latin1_encode?_decode
    (bytes : Bytes) :
    Latin1.encode? (Latin1.decode bytes) = some bytes := by
  induction bytes with
  | nil =>
      rfl
  | cons byte rest inductionHypothesis =>
      have small := byte.toNat_lt
      have point : (Char.ofNat byte.toNat).toNat = byte.toNat :=
        Utf8.toNat_ofNat_of_valid (Or.inl (by omega))
      have restWritten :
          Latin1.encode? (rest.map fun byte => Char.ofNat byte.toNat) = some rest :=
        inductionHypothesis
      rw [Latin1.decode, List.map_cons, Latin1.encode?, point, if_pos small, restWritten,
        Option.map_some, UInt8.ofNat_toNat]

/-- What was read is written back, in the encoding it was read in. -/
theorem writtenIn_decode
    (bytes : Bytes) :
    WrittenIn (decode bytes).2 (decode bytes).1 bytes := by
  cases readUtf8 : readUtf8? bytes with
  | some text =>
      rw [decode_of_readUtf8? readUtf8]
      exact writtenIn_of_readUtf8? readUtf8
  | none =>
      cases readUtf16 : readUtf16? bytes with
      | some found =>
          obtain ⟨text, order⟩ := found
          rw [decode_of_readUtf16? readUtf8 readUtf16]
          exact writtenIn_of_readUtf16? readUtf16
      | none =>
          rw [decode_of_unread readUtf8 readUtf16]
          exact ⟨bytes, latin1_encode?_decode bytes, .inl rfl⟩

/-- A text has one written form in an encoding, up to the mark. -/
theorem WrittenIn.eq_or_marked
    {encoding : Encoding}
    {other : Bytes}
    (written : WrittenIn encoding text bytes)
    (otherWritten : WrittenIn encoding text other) :
    bytes = other ∨
      bytes = encoding.byteOrderMark ++ other ∨
      other = encoding.byteOrderMark ++ bytes := by
  obtain ⟨body, encodes, shape⟩ := written
  obtain ⟨otherBody, otherEncodes, otherShape⟩ := otherWritten
  obtain rfl : body = otherBody := by
    rw [encodes] at otherEncodes
    exact Option.some.inj otherEncodes
  rcases shape with rfl | rfl
  · rcases otherShape with rfl | rfl
    · exact .inl rfl
    · exact .inr (.inr rfl)
  · rcases otherShape with rfl | rfl
    · exact .inr (.inl rfl)
    · exact .inl rfl

/--
Reading loses no information. The text in the encoding it was read in is the
bytes, or is the bytes behind a mark; and bytes that are read alike are equal up
to one mark in front.
-/
theorem decode_lossless :
    (∀ bytes,
      ∃ body,
        (decode bytes).2.encode? (decode bytes).1 = some body ∧
          (bytes = body ∨ bytes = (decode bytes).2.byteOrderMark ++ body)) ∧
    (∀ first second,
      decode first = decode second →
        first = second ∨
          first = (decode first).2.byteOrderMark ++ second ∨
          second = (decode first).2.byteOrderMark ++ first) := by
  refine ⟨writtenIn_decode, ?_⟩
  intro first second same
  have secondWritten := writtenIn_decode second
  rw [← same] at secondWritten
  exact (writtenIn_decode first).eq_or_marked secondWritten

/-- Little-endian UTF-16 that ends in two surrogates, without a mark. -/
def pairedSurrogates : Bytes :=
  [0x61, 0x00, 0x62, 0x00, 0x3D, 0xD8, 0x00, 0xDE]

/-- With a mark in front it is read alike, and both are written back. -/
theorem pairedSurrogates_written_back :
    decode ([0xFF, 0xFE] ++ pairedSurrogates) = decode pairedSurrogates ∧
      (∃ body,
        (decode pairedSurrogates).2.encode? (decode pairedSurrogates).1 = some body ∧
          (pairedSurrogates = body ∨
            pairedSurrogates =
              (decode pairedSurrogates).2.byteOrderMark ++ body)) ∧
      ([0xFF, 0xFE] ++ pairedSurrogates = pairedSurrogates ∨
        [0xFF, 0xFE] ++ pairedSurrogates =
          (decode ([0xFF, 0xFE] ++ pairedSurrogates)).2.byteOrderMark ++
            pairedSurrogates ∨
        pairedSurrogates =
          (decode ([0xFF, 0xFE] ++ pairedSurrogates)).2.byteOrderMark ++
            ([0xFF, 0xFE] ++ pairedSurrogates)) := by
  have alike :
      decode ([0xFF, 0xFE] ++ pairedSurrogates) = decode pairedSurrogates := by
    decide
  obtain ⟨lossless, marked⟩ := decode_lossless
  exact ⟨alike, lossless pairedSurrogates, marked _ _ alike⟩

end Provision.Descriptor
