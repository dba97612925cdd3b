import Provision.Encoding.Utf8

namespace Provision.Utf8

/-!
# UTF-8 read and written

The reader takes a byte sequence exactly when the writer produces it, and gives
back the text that was written. The proof follows the forms of a character: its
number of bytes, and, where the first byte leaves some code points out, the
narrower range of the second.
-/

/-- A valid code point is that of its character. -/
theorem toNat_ofNat_of_valid
    {point : Nat}
    (valid : point.isValidChar) :
    (Char.ofNat point).toNat = point := by
  rw [Char.ofNat, dif_pos valid]
  rfl

/-- Code points are no surrogates and end at U+10FFFF. -/
theorem toNat_cases
    (c : Char) :
    c.toNat < 0xD800 ∨ (0xDFFF < c.toNat ∧ c.toNat < 0x110000) :=
  c.valid

/-- Every number below 0x100 is that of a byte. -/
theorem exists_byte
    (number : Nat)
    (small : number < 0x100) :
    ∃ byte : UInt8, byte.toNat = number := by
  refine ⟨UInt8.ofNat number, ?_⟩
  rw [UInt8.toNat_ofNat']
  exact Nat.mod_eq_of_lt small

private theorem ofNat_eq
    {number : Nat}
    {byte : UInt8}
    (same : byte.toNat = number) :
    UInt8.ofNat number = byte := by
  rw [← same]
  exact UInt8.ofNat_toNat

section Forms

variable {c : Char} {lead second third fourth : UInt8}

private theorem encodeChar_one
    (small : c.toNat < 0x80)
    (leadValue : lead.toNat = c.toNat) :
    encodeChar c = [lead] := by
  simp [encodeChar, small, ofNat_eq leadValue]

private theorem encodeChar_two
    (low : 0x80 ≤ c.toNat)
    (high : c.toNat < 0x800)
    (leadValue : lead.toNat = 0xC0 + c.toNat / 0x40)
    (secondValue : second.toNat = 0x80 + c.toNat % 0x40) :
    encodeChar c = [lead, second] := by
  have notOne : ¬ c.toNat < 0x80 := by omega
  simp [encodeChar, notOne, high, ofNat_eq leadValue, ofNat_eq secondValue]

private theorem encodeChar_three
    (low : 0x800 ≤ c.toNat)
    (high : c.toNat < 0x10000)
    (leadValue : lead.toNat = 0xE0 + c.toNat / 0x1000)
    (secondValue : second.toNat = 0x80 + c.toNat / 0x40 % 0x40)
    (thirdValue : third.toNat = 0x80 + c.toNat % 0x40) :
    encodeChar c = [lead, second, third] := by
  have notOne : ¬ c.toNat < 0x80 := by omega
  have notTwo : ¬ c.toNat < 0x800 := by omega
  simp [encodeChar, notOne, notTwo, high, ofNat_eq leadValue,
    ofNat_eq secondValue, ofNat_eq thirdValue]

private theorem encodeChar_four
    (low : 0x10000 ≤ c.toNat)
    (leadValue : lead.toNat = 0xF0 + c.toNat / 0x40000)
    (secondValue : second.toNat = 0x80 + c.toNat / 0x1000 % 0x40)
    (thirdValue : third.toNat = 0x80 + c.toNat / 0x40 % 0x40)
    (fourthValue : fourth.toNat = 0x80 + c.toNat % 0x40) :
    encodeChar c = [lead, second, third, fourth] := by
  have notOne : ¬ c.toNat < 0x80 := by omega
  have notTwo : ¬ c.toNat < 0x800 := by omega
  have notThree : ¬ c.toNat < 0x10000 := by omega
  simp [encodeChar, notOne, notTwo, notThree, ofNat_eq leadValue,
    ofNat_eq secondValue, ofNat_eq thirdValue, ofNat_eq fourthValue]

end Forms

section Leads

variable {lead : Nat}

/-- The first byte of a character of two bytes. -/
private theorem ofLead_two
    (low : 0xC2 ≤ lead)
    (high : lead < 0xE0) :
    Progress.ofLead lead =
      .continues (.inside 0x80 0xBF 0 (lead - 0xC0)) := by
  have notOne : ¬ lead < 0x80 := by omega
  have notTail : ¬ lead < 0xC2 := by omega
  simp only [Progress.ofLead, notOne, notTail, high, ↓reduceIte]

/-- The first byte of a character of three bytes bounds the second. -/
private theorem ofLead_three
    (low : 0xE0 ≤ lead)
    (high : lead < 0xF0) :
    Progress.ofLead lead =
      .continues
        (.inside (if lead = 0xE0 then 0xA0 else 0x80)
          (if lead = 0xED then 0x9F else 0xBF) 1 (lead - 0xE0)) := by
  have notOne : ¬ lead < 0x80 := by omega
  have notTail : ¬ lead < 0xC2 := by omega
  have notTwo : ¬ lead < 0xE0 := by omega
  by_cases first : lead = 0xE0
  · simp [Progress.ofLead, first]
  · by_cases beforeSurrogates : lead = 0xED
    · simp [Progress.ofLead, beforeSurrogates]
    · simp only [Progress.ofLead, notOne, notTail, notTwo, first,
        beforeSurrogates, high, ↓reduceIte]

/-- The first byte of a character of four bytes bounds the second. -/
private theorem ofLead_four
    (low : 0xF0 ≤ lead)
    (high : lead ≤ 0xF4) :
    Progress.ofLead lead =
      .continues
        (.inside (if lead = 0xF0 then 0x90 else 0x80)
          (if lead = 0xF4 then 0x8F else 0xBF) 2 (lead - 0xF0)) := by
  obtain rfl | rfl | rfl | rfl | rfl :
      lead = 0xF0 ∨ lead = 0xF1 ∨ lead = 0xF2 ∨ lead = 0xF3 ∨
        lead = 0xF4 := by
    omega
  all_goals rfl

/-- Every other byte outside ASCII starts no character. -/
private theorem ofLead_refuses
    (notOne : 0x80 ≤ lead)
    (none : lead < 0xC2 ∨ 0xF4 < lead) :
    Progress.ofLead lead = .refuses := by
  have beyond : ¬ lead < 0x80 := by omega
  rcases none with tail | large
  · simp only [Progress.ofLead, beyond, tail, ↓reduceIte]
  · have notTail : ¬ lead < 0xC2 := by omega
    have notTwo : ¬ lead < 0xE0 := by omega
    have notThree : ¬ lead < 0xF0 := by omega
    have notFour : ¬ lead < 0xF4 := by omega
    have not₁ : lead ≠ 0xE0 := by omega
    have not₂ : lead ≠ 0xED := by omega
    have not₃ : lead ≠ 0xF0 := by omega
    have not₄ : lead ≠ 0xF4 := by omega
    simp only [Progress.ofLead, beyond, notTail, notTwo, notThree, notFour,
      not₁, not₂, not₃, not₄, ↓reduceIte]

end Leads

section Steps

variable {low high more value : Nat}

/-- A byte of the right range completes a character that lacks one byte. -/
private theorem decodeFrom?_last
    {byte : UInt8}
    (rest : Bytes)
    (inRange : low ≤ byte.toNat ∧ byte.toNat ≤ high) :
    decodeFrom? (.inside low high 0 value) (byte :: rest) =
      (decodeFrom? .between rest).map
        (Char.ofNat (value * 0x40 + (byte.toNat - 0x80)) :: ·) := by
  simp [decodeFrom?, Reader.read, inRange]

/-- A byte of the right range leaves one byte less to come. -/
private theorem decodeFrom?_tail
    {byte : UInt8}
    (rest : Bytes)
    (inRange : low ≤ byte.toNat ∧ byte.toNat ≤ high) :
    decodeFrom? (.inside low high (more + 1) value) (byte :: rest) =
      decodeFrom?
        (.inside 0x80 0xBF more (value * 0x40 + (byte.toNat - 0x80)))
        rest := by
  simp [decodeFrom?, Reader.read, inRange]

/-- Inside a character only a byte of the right range is read. -/
private theorem exists_tail_of_decodeFrom?
    {bytes : Bytes}
    {text : Text}
    (reads : decodeFrom? (.inside low high more value) bytes = some text) :
    ∃ byte rest,
      bytes = byte :: rest ∧ low ≤ byte.toNat ∧ byte.toNat ≤ high := by
  cases bytes with
  | nil =>
      simp [decodeFrom?] at reads
  | cons byte rest =>
      by_cases inRange : low ≤ byte.toNat ∧ byte.toNat ≤ high
      · exact ⟨byte, rest, rfl, inRange⟩
      · simp [decodeFrom?, Reader.read, inRange] at reads

private theorem decodeFrom?_lead
    {byte : UInt8}
    {reader : Reader}
    (rest : Bytes)
    (continues : Progress.ofLead byte.toNat = .continues reader) :
    decodeFrom? .between (byte :: rest) = decodeFrom? reader rest := by
  simp only [decodeFrom?, Reader.read, continues]

end Steps

/-- The written form of a character is read back, and then what follows it. -/
theorem decodeFrom?_encodeChar_append
    (c : Char)
    (rest : Bytes) :
    decodeFrom? .between (encodeChar c ++ rest) =
      (decodeFrom? .between rest).map (c :: ·) := by
  have valid := toNat_cases c
  by_cases one : c.toNat < 0x80
  · obtain ⟨lead, leadValue⟩ := exists_byte c.toNat (by omega)
    rw [encodeChar_one one leadValue, List.singleton_append]
    simp only [decodeFrom?, Reader.read, leadValue, Progress.ofLead, one,
      ↓reduceIte, Char.ofNat_toNat]
  obtain ⟨last, lastValue⟩ :=
    exists_byte (0x80 + c.toNat % 0x40) (by omega)
  by_cases two : c.toNat < 0x800
  · obtain ⟨lead, leadValue⟩ :=
      exists_byte (0xC0 + c.toNat / 0x40) (by omega)
    have point :
        (lead.toNat - 0xC0) * 0x40 + (last.toNat - 0x80) = c.toNat := by
      omega
    rw [encodeChar_two (by omega) two leadValue lastValue, List.cons_append,
      List.singleton_append,
      decodeFrom?_lead _ (ofLead_two (by omega) (by omega)),
      decodeFrom?_last _ (by omega), point, Char.ofNat_toNat]
  obtain ⟨beforeLast, beforeLastValue⟩ :=
    exists_byte (0x80 + c.toNat / 0x40 % 0x40) (by omega)
  by_cases three : c.toNat < 0x10000
  · obtain ⟨lead, leadValue⟩ :=
      exists_byte (0xE0 + c.toNat / 0x1000) (by omega)
    have point :
        ((lead.toNat - 0xE0) * 0x40 + (beforeLast.toNat - 0x80)) * 0x40 +
          (last.toNat - 0x80) = c.toNat := by
      omega
    rw [encodeChar_three (by omega) three leadValue beforeLastValue lastValue,
      List.cons_append, List.cons_append, List.singleton_append,
      decodeFrom?_lead _ (ofLead_three (by omega) (by omega)),
      decodeFrom?_tail _ (by split <;> split <;> omega),
      decodeFrom?_last _ (by omega), point, Char.ofNat_toNat]
  · obtain ⟨lead, leadValue⟩ :=
      exists_byte (0xF0 + c.toNat / 0x40000) (by omega)
    obtain ⟨second, secondValue⟩ :=
      exists_byte (0x80 + c.toNat / 0x1000 % 0x40) (by omega)
    have point :
        (((lead.toNat - 0xF0) * 0x40 + (second.toNat - 0x80)) * 0x40 +
            (beforeLast.toNat - 0x80)) * 0x40 +
          (last.toNat - 0x80) = c.toNat := by
      omega
    rw [encodeChar_four (by omega) leadValue secondValue beforeLastValue lastValue,
      List.cons_append, List.cons_append, List.cons_append,
      List.singleton_append,
      decodeFrom?_lead _ (ofLead_four (by omega) (by omega)),
      decodeFrom?_tail _ (by split <;> split <;> omega),
      decodeFrom?_tail _ (by omega),
      decodeFrom?_last _ (by omega), point, Char.ofNat_toNat]

/-- A reading of bytes that starts with the written form of a character. -/
private def ReadsCharacter (bytes : Bytes) (text : Text) : Prop :=
  ∃ c rest more,
    bytes = encodeChar c ++ rest ∧
      decodeFrom? .between rest = some more ∧ text = c :: more

section Readings

variable {lead : UInt8} {bytes : Bytes} {text : Text}

private theorem readsCharacter_two
    (low : 0xC2 ≤ lead.toNat)
    (high : lead.toNat < 0xE0)
    (reads : decodeFrom? .between (lead :: bytes) = some text) :
    ReadsCharacter (lead :: bytes) text := by
  rw [decodeFrom?_lead _ (ofLead_two low high)] at reads
  obtain ⟨last, rest, rfl, lastRange⟩ := exists_tail_of_decodeFrom? reads
  rw [decodeFrom?_last _ lastRange, Option.map_eq_some_iff] at reads
  obtain ⟨more, restReads, rfl⟩ := reads
  generalize pointShape :
    (lead.toNat - 0xC0) * 0x40 + (last.toNat - 0x80) = point
  have value : (Char.ofNat point).toNat = point :=
    toNat_ofNat_of_valid (Or.inl (by omega))
  have written : encodeChar (Char.ofNat point) = [lead, last] :=
    encodeChar_two (by omega) (by omega) (by omega) (by omega)
  exact ⟨Char.ofNat point, rest, more, by rw [written]; rfl, restReads, rfl⟩

private theorem readsCharacter_three
    (low : 0xE0 ≤ lead.toNat)
    (high : lead.toNat < 0xF0)
    (reads : decodeFrom? .between (lead :: bytes) = some text) :
    ReadsCharacter (lead :: bytes) text := by
  rw [decodeFrom?_lead _ (ofLead_three low high)] at reads
  obtain ⟨second, rest, rfl, secondRange⟩ := exists_tail_of_decodeFrom? reads
  rw [decodeFrom?_tail _ secondRange] at reads
  obtain ⟨last, rest, rfl, lastRange⟩ := exists_tail_of_decodeFrom? reads
  rw [decodeFrom?_last _ lastRange, Option.map_eq_some_iff] at reads
  obtain ⟨more, restReads, rfl⟩ := reads
  have secondBounds :
      (lead.toNat = 0xE0 → 0xA0 ≤ second.toNat) ∧
        (lead.toNat = 0xED → second.toNat ≤ 0x9F) ∧
        0x80 ≤ second.toNat ∧ second.toNat ≤ 0xBF := by
    split at secondRange <;> split at secondRange <;> omega
  generalize pointShape :
    ((lead.toNat - 0xE0) * 0x40 + (second.toNat - 0x80)) * 0x40 +
      (last.toNat - 0x80) = point
  have value : (Char.ofNat point).toNat = point :=
    toNat_ofNat_of_valid (show point < 0xD800 ∨ _ by omega)
  have written : encodeChar (Char.ofNat point) = [lead, second, last] :=
    encodeChar_three (by omega) (by omega) (by omega) (by omega) (by omega)
  exact ⟨Char.ofNat point, rest, more, by rw [written]; rfl, restReads, rfl⟩

private theorem readsCharacter_four
    (low : 0xF0 ≤ lead.toNat)
    (high : lead.toNat ≤ 0xF4)
    (reads : decodeFrom? .between (lead :: bytes) = some text) :
    ReadsCharacter (lead :: bytes) text := by
  rw [decodeFrom?_lead _ (ofLead_four low high)] at reads
  obtain ⟨second, rest, rfl, secondRange⟩ := exists_tail_of_decodeFrom? reads
  rw [decodeFrom?_tail _ secondRange] at reads
  obtain ⟨third, rest, rfl, thirdRange⟩ := exists_tail_of_decodeFrom? reads
  rw [decodeFrom?_tail _ thirdRange] at reads
  obtain ⟨last, rest, rfl, lastRange⟩ := exists_tail_of_decodeFrom? reads
  rw [decodeFrom?_last _ lastRange, Option.map_eq_some_iff] at reads
  obtain ⟨more, restReads, rfl⟩ := reads
  have secondBounds :
      (lead.toNat = 0xF0 → 0x90 ≤ second.toNat) ∧
        (lead.toNat = 0xF4 → second.toNat ≤ 0x8F) ∧
        0x80 ≤ second.toNat ∧ second.toNat ≤ 0xBF := by
    split at secondRange <;> split at secondRange <;> omega
  generalize pointShape :
    (((lead.toNat - 0xF0) * 0x40 + (second.toNat - 0x80)) * 0x40 +
        (third.toNat - 0x80)) * 0x40 +
      (last.toNat - 0x80) = point
  have value : (Char.ofNat point).toNat = point :=
    toNat_ofNat_of_valid (show point < 0xD800 ∨ _ by omega)
  have written : encodeChar (Char.ofNat point) = [lead, second, third, last] :=
    encodeChar_four (by omega) (by omega) (by omega) (by omega) (by omega)
  exact ⟨Char.ofNat point, rest, more, by rw [written]; rfl, restReads, rfl⟩

/-- Whatever is read starts with the written form of a character. -/
private theorem readsCharacter_of_decodeFrom?
    (reads : decodeFrom? .between (lead :: bytes) = some text) :
    ReadsCharacter (lead :: bytes) text := by
  by_cases one : lead.toNat < 0x80
  · simp only [decodeFrom?, Reader.read, Progress.ofLead, one, ↓reduceIte,
      Option.map_eq_some_iff] at reads
    obtain ⟨more, restReads, rfl⟩ := reads
    have value : (Char.ofNat lead.toNat).toNat = lead.toNat :=
      toNat_ofNat_of_valid (Or.inl (by omega))
    have written : encodeChar (Char.ofNat lead.toNat) = [lead] :=
      encodeChar_one (by omega) value.symm
    exact ⟨_, bytes, more, by rw [written]; rfl, restReads, rfl⟩
  by_cases none : lead.toNat < 0xC2 ∨ 0xF4 < lead.toNat
  · simp [decodeFrom?, Reader.read, ofLead_refuses (by omega) none] at reads
  by_cases two : lead.toNat < 0xE0
  · exact readsCharacter_two (by omega) two reads
  by_cases three : lead.toNat < 0xF0
  · exact readsCharacter_three (by omega) three reads
  · exact readsCharacter_four (by omega) (by omega) reads

end Readings

/-- The reader takes exactly what the writer produces. -/
theorem decode?_eq_some_iff
    {bytes : Bytes}
    {text : Text} :
    decode? bytes = some text ↔ bytes = encode text := by
  induction text generalizing bytes with
  | nil =>
      cases bytes with
      | nil =>
          simp [decode?, decodeFrom?, encode]
      | cons byte bytes =>
          constructor
          · intro reads
            obtain ⟨c, rest, more, -, -, impossible⟩ :=
              readsCharacter_of_decodeFrom? reads
            cases impossible
          · intro shape
            simp [encode] at shape
  | cons c text inductionHypothesis =>
      constructor
      · intro reads
        cases bytes with
        | nil =>
            simp [decode?, decodeFrom?] at reads
        | cons byte bytes =>
            obtain ⟨first, rest, more, shape, restReads, same⟩ :=
              readsCharacter_of_decodeFrom? reads
            obtain ⟨rfl, rfl⟩ := List.cons.inj same
            rw [shape, inductionHypothesis.mp restReads]
            rfl
      · rintro rfl
        have restReads := inductionHypothesis.mpr rfl
        rw [decode?] at restReads
        rw [decode?, encode, List.flatMap_cons,
          decodeFrom?_encodeChar_append]
        exact Option.map_eq_some_iff.mpr ⟨text, restReads, rfl⟩

/-- What is written is read back. -/
@[simp] theorem decode?_encode
    (text : Text) :
    decode? (encode text) = some text :=
  decode?_eq_some_iff.mpr rfl

/-- The written form of a character is the one of the standard library. -/
theorem encodeChar_eq_utf8EncodeChar
    (c : Char) :
    encodeChar c = String.utf8EncodeChar c := by
  have valid := toNat_cases c
  unfold encodeChar String.utf8EncodeChar
  rw [show c.val.toNat = c.toNat from rfl]
  generalize c.toNat = point at valid
  simp only [← Nat.lt_succ_iff]
  split
  · rfl
  split
  · rw [show point / 64 % 32 + 192 = 0xC0 + point / 0x40 by omega,
      show point % 64 + 128 = 0x80 + point / 1 % 0x40 by omega]
  split
  · rw [show point / 4096 % 16 + 224 = 0xE0 + point / 0x1000 by omega,
      show point / 64 % 64 + 128 = 0x80 + point / 0x40 % 0x40 by omega,
      show point % 64 + 128 = 0x80 + point / 1 % 0x40 by omega]
  · rw [show point / 262144 % 8 + 240 = 0xF0 + point / 0x40000 by omega,
      show point / 4096 % 64 + 128 = 0x80 + point / 0x1000 % 0x40 by omega,
      show point / 64 % 64 + 128 = 0x80 + point / 0x40 % 0x40 by omega,
      show point % 64 + 128 = 0x80 + point / 1 % 0x40 by omega]

/-- The written form of a text is the one of the standard library. -/
theorem encode_eq_flatMap
    (text : Text) :
    encode text = text.flatMap String.utf8EncodeChar := by
  rw [encode, funext encodeChar_eq_utf8EncodeChar]

@[simp] theorem encode_append
    (first second : Text) :
    encode (first ++ second) = encode first ++ encode second :=
  List.flatMap_append

/-- Outside ASCII, so are all bytes of a character. -/
theorem le_of_mem_encodeChar
    {c : Char}
    {byte : UInt8}
    (beyond : 0x80 ≤ c.toNat)
    (member : byte ∈ encodeChar c) :
    0x80 ≤ byte.toNat := by
  have valid := toNat_cases c
  simp only [encodeChar] at member
  split at member
  · omega
  · split at member
    · simp only [List.mem_cons, List.not_mem_nil, or_false] at member
      rcases member with rfl | rfl <;> rw [UInt8.toNat_ofNat'] <;> omega
    · split at member
      · simp only [List.mem_cons, List.not_mem_nil, or_false] at member
        rcases member with rfl | rfl | rfl <;> rw [UInt8.toNat_ofNat'] <;> omega
      · simp only [List.mem_cons, List.not_mem_nil, or_false] at member
        rcases member with rfl | rfl | rfl | rfl <;>
          rw [UInt8.toNat_ofNat'] <;> omega

/-- Only NUL has a byte that is zero. -/
theorem zero_mem_encodeChar_iff
    {c : Char} :
    0 ∈ encodeChar c ↔ c = '\x00' := by
  constructor
  · intro zero
    by_cases ascii : c.toNat < 0x80
    · simp only [encodeChar, ascii, ↓reduceIte, List.mem_singleton] at zero
      have value := congrArg UInt8.toNat zero
      rw [UInt8.toNat_ofNat', Nat.mod_eq_of_lt (by omega)] at value
      rw [← Char.ofNat_toNat c, ← value]
      rfl
    · have large := le_of_mem_encodeChar (by omega) zero
      exact absurd large (by decide)
  · rintro rfl
    decide

/-- A text is written with a zero exactly if it holds NUL. -/
theorem zero_mem_encode_iff
    {text : Text} :
    0 ∈ encode text ↔ '\x00' ∈ text := by
  rw [encode, List.mem_flatMap]
  constructor
  · rintro ⟨c, member, zero⟩
    rw [zero_mem_encodeChar_iff] at zero
    exact zero ▸ member
  · intro member
    exact ⟨_, member, zero_mem_encodeChar_iff.mpr rfl⟩

/-- What is written starts with the written form of its first character. -/
theorem encodeChar_prefix_encode_iff
    {c : Char}
    {text : Text} :
    encodeChar c <+: encode text ↔ text.head? = some c := by
  constructor
  · rintro ⟨rest, shape⟩
    have reads : decode? (encodeChar c ++ rest) = some text := by
      rw [shape, decode?_encode]
    rw [decode?, decodeFrom?_encodeChar_append,
      Option.map_eq_some_iff] at reads
    obtain ⟨more, -, rfl⟩ := reads
    rfl
  · intro head
    obtain ⟨more, rfl⟩ := List.head?_eq_some_iff.mp head
    exact ⟨encode more, rfl⟩

end Provision.Utf8
