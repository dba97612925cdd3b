import Provision.Proofs.Descriptor.Decoding
import Provision.Proofs.Descriptor.Idempotence

namespace Provision.Descriptor

/-!
# Reading a patched descriptor again

A run writes UTF-8, and the next run reads it. The marker is ASCII, so it is
seen again when the bytes are read as UTF-8, and when they are read one by one.
It is not seen when they are taken for UTF-16. That can only happen to a text
that holds NUL, which only Latin-1 lets through.
-/

/-- The bytes of a descriptor file after a patch. -/
def patchedBytes (bytes : Bytes) : Bytes :=
  let result := patch (decode bytes).1
  if result.outcome = .patched then Utf8.encode result.text else bytes

/-- Bytes that are patched and then read as UTF-16, in which they are patched again. -/
def Misread (bytes : Bytes) : Prop :=
  (patch (decode bytes).1).outcome = .patched ∧
    ∃ again,
      readUtf16? (Utf8.encode (patch (decode bytes).1).text) =
          some (again, .littleEndian) ∧
        (patch again).outcome = .patched

theorem latin1_decode_append
    (first second : Bytes) :
    Latin1.decode (first ++ second) =
      Latin1.decode first ++ Latin1.decode second :=
  List.map_append

/-- ASCII is read one by one as it was written. -/
theorem latin1_decode_encode
    {text : Text}
    (ascii : ∀ c ∈ text, c.toNat < 0x80) :
    Latin1.decode (Utf8.encode text) = text := by
  induction text with
  | nil =>
      rfl
  | cons c rest inductionHypothesis =>
      have small := ascii c List.mem_cons_self
      have oneByte : Utf8.encodeChar c = [UInt8.ofNat c.toNat] := by
        simp [Utf8.encodeChar, small]
      have byteValue : (UInt8.ofNat c.toNat).toNat = c.toNat := by
        rw [UInt8.toNat_ofNat', Nat.mod_eq_of_lt (by omega)]
      rw [← List.singleton_append, Utf8.encode_append, latin1_decode_append,
        inductionHypothesis fun other member =>
          ascii other (List.mem_cons_of_mem c member)]
      simp [Utf8.encode, Latin1.decode, oneByte, byteValue]

theorem marker_infix_of_patched
    {text : Text}
    (patched : (patch text).outcome = .patched) :
    marker <:+: (patch text).text := by
  obtain ⟨-, step, -, -, result⟩ := exists_linkStep_of_patched patched
  obtain ⟨commands, blockShape⟩ := exists_deploymentBlock_eq
  have inBlock : marker <:+: deploymentBlock := by
    rw [blockShape]
    exact List.infix_append' _ _ _
  rw [result]
  exact inBlock.trans (List.infix_append' step.front _ _)

/-- Bytes read one by one show the marker that the text carries. -/
theorem marker_infix_latin1
    {text : Text}
    (carries : marker <:+: text) :
    marker <:+: Latin1.decode (Utf8.encode text) := by
  obtain ⟨before, after, rfl⟩ := carries
  have allAscii : marker.all (fun c => c.toNat < 0x80) = true := by
    decide +kernel
  have ascii : ∀ c ∈ marker, c.toNat < 0x80 :=
    fun c member => of_decide_eq_true (List.all_eq_true.mp allAscii c member)
  rw [Utf8.encode_append, Utf8.encode_append, latin1_decode_append,
    latin1_decode_append, latin1_decode_encode ascii]
  exact ⟨_, _, rfl⟩

/-- A text without NUL is read as UTF-8 again; at most a mark in front gets lost. -/
theorem readUtf8?_encode
    {text : Text}
    (noNul : '\x00' ∉ text) :
    ∃ rest,
      readUtf8? (Utf8.encode text) = some rest ∧
        (rest = text ∨ text = '\uFEFF' :: rest) := by
  by_cases marked : text.head? = some '\uFEFF'
  · obtain ⟨rest, rfl⟩ : ∃ rest, text = '\uFEFF' :: rest := by
      cases text with
      | nil => cases marked
      | cons c rest =>
          obtain rfl := Option.some.inj marked
          exact ⟨rest, rfl⟩
    refine ⟨rest, readUtf8?_eq_some_iff.mpr ⟨.inl ?_, ?_⟩, .inr rfl⟩
    · rw [byteOrderMark_utf8, ← List.singleton_append, Utf8.encode_append]
      rfl
    · exact fun member => noNul (List.mem_cons_of_mem _ member)
  · exact ⟨text, readUtf8?_eq_some_iff.mpr ⟨.inr ⟨rfl, marked⟩, noNul⟩, .inl rfl⟩

theorem decode_encode_of_noNul
    {text : Text}
    (carries : marker <:+: text)
    (noNul : '\x00' ∉ text) :
    marker <:+: (decode (Utf8.encode text)).1 := by
  obtain ⟨rest, read, shape⟩ := readUtf8?_encode noNul
  rw [decode_of_readUtf8? read]
  rcases shape with rfl | rfl
  · exact carries
  · rcases List.infix_cons_iff.mp carries with starts | inRest
    · have numberSign : marker = '#' :: marker.tail := by
        decide +kernel
      rw [numberSign, List.cons_prefix_cons] at starts
      exact absurd starts.1 (by decide)
    · exact inRest

/-- What is written as UTF-8 does not start with a mark of UTF-16. -/
theorem not_utf16Mark_prefix_encode
    (text : Text)
    (order : Utf16.ByteOrder) :
    ¬ (Encoding.utf16 order).byteOrderMark <+: Utf8.encode text := by
  rintro ⟨rest, shape⟩
  have unread : Utf8.decode? ((Encoding.utf16 order).byteOrderMark ++ rest) = none := by
    cases order <;> rfl
  rw [shape, Utf8.decode?_encode] at unread
  cases unread

/-- Where UTF-8 is taken for UTF-16, it is for its zeros. -/
theorem readUtf16?_encode
    {text again : Text}
    {order : Utf16.ByteOrder}
    (read : readUtf16? (Utf8.encode text) = some (again, order)) :
    order = .littleEndian ∧ 0 ∈ Utf8.encode text := by
  obtain ⟨-, located⟩ := readUtf16?_eq_some_iff.mp read
  rcases utf16Body?_eq_some_iff.mp located with shape | ⟨-, looks, little, -⟩
  · exact (not_utf16Mark_prefix_encode text order ⟨_, shape.symm⟩).elim
  · exact ⟨little, zero_mem_of_looksLittleEndian looks⟩

/-- A patched text has no characters but its own and those of the block. -/
theorem mem_of_mem_patched
    {text : Text}
    {c : Char}
    (patched : (patch text).outcome = .patched)
    (member : c ∈ (patch text).text) :
    c ∈ text ∨ c ∈ deploymentBlock := by
  obtain ⟨-, step, shape, -, result⟩ := exists_linkStep_of_patched patched
  rw [result, List.mem_append, List.mem_append] at member
  have ofCleaned (inCleaned : c ∈ cleaned text) : c ∈ text := by
    by_cases noFormer : formerDeployments text = []
    · rwa [cleaned_eq_self noFormer] at inCleaned
    · obtain ⟨line, before, after, rfl, cleanedShape, -⟩ := exists_formerLine noFormer
      rw [cleanedShape, List.mem_append] at inCleaned
      simp only [List.mem_append]
      exact inCleaned.imp_right .inr
  rw [shape, LinkStep.text, List.mem_append] at ofCleaned
  rcases member with inFront | inBlock | inAfter
  · exact .inl (ofCleaned (.inl inFront))
  · exact .inr inBlock
  · exact .inl (ofCleaned (.inr inAfter))

theorem nul_mem_of_mem_patched
    {text : Text}
    (patched : (patch text).outcome = .patched)
    (member : '\x00' ∈ (patch text).text) :
    '\x00' ∈ text := by
  rcases mem_of_mem_patched patched member with inText | inBlock
  · exact inText
  · exact (nul_notMem_deploymentBlock inBlock).elim

theorem noNul_of_isPlausible
    {text : Text}
    (allPlausible : ∀ c ∈ text, isPlausible c = true) :
    '\x00' ∉ text :=
  fun member => absurd (allPlausible _ member) (by decide)

/-- Only bytes that are read one by one are read with NUL, which is a zero byte. -/
theorem latin1_of_nul
    {bytes : Bytes}
    (nul : '\x00' ∈ (decode bytes).1) :
    (decode bytes).2 = .latin1 ∧ 0 ∈ bytes := by
  cases readUtf8 : readUtf8? bytes with
  | some text =>
      rw [decode_of_readUtf8? readUtf8] at nul
      exact ((readUtf8?_eq_some_iff.mp readUtf8).2 nul).elim
  | none =>
      cases readUtf16 : readUtf16? bytes with
      | some found =>
          obtain ⟨text, order⟩ := found
          rw [decode_of_readUtf16? readUtf8 readUtf16] at nul
          exact (noNul_of_isPlausible (readUtf16?_eq_some_iff.mp readUtf16).1 nul).elim
      | none =>
          rw [decode_of_unread readUtf8 readUtf16] at nul ⊢
          have codes := List.mem_map_of_mem (f := Char.toNat) nul
          rw [map_toNat_latin1, List.mem_map] at codes
          obtain ⟨byte, member, value⟩ := codes
          have zero : byte = 0 := UInt8.toNat_inj.mp value
          exact ⟨rfl, zero ▸ member⟩

/-- Only a Latin-1 descriptor with NUL among its characters is misread. -/
theorem Misread.latin1
    {bytes : Bytes}
    (misread : Misread bytes) :
    (decode bytes).2 = .latin1 ∧ 0 ∈ bytes := by
  obtain ⟨patched, again, read, -⟩ := misread
  have zero := (readUtf16?_encode read).2
  exact latin1_of_nul
    (nul_mem_of_mem_patched patched (Utf8.zero_mem_encode_iff.mp zero))

/-- A text with the marker is patched when it is read again only where it is taken for UTF-16. -/
private theorem patchedBytes_encode_ne_iff
    {text : Text}
    (carries : marker <:+: text) :
    patchedBytes (Utf8.encode text) ≠ Utf8.encode text ↔
      ∃ again,
        readUtf16? (Utf8.encode text) = some (again, .littleEndian) ∧
          (patch again).outcome = .patched := by
  have unchangedOf (seen : marker <:+: (decode (Utf8.encode text)).1) :
      patchedBytes (Utf8.encode text) = Utf8.encode text := by
    apply if_neg
    rw [patch_of_isPatched <| isPatched_of_marker_infix seen]
    exact PatchOutcome.noConfusion
  by_cases nul : '\x00' ∈ text
  case neg =>
    have unchanged := unchangedOf (decode_encode_of_noNul carries nul)
    refine ⟨fun changed => (changed unchanged).elim, ?_⟩
    rintro ⟨again, read, -⟩
    exact (nul (Utf8.zero_mem_encode_iff.mp (readUtf16?_encode read).2)).elim
  have zero : 0 ∈ Utf8.encode text := Utf8.zero_mem_encode_iff.mpr nul
  have notUtf8 := readUtf8?_eq_none_of_zero zero
  cases read : readUtf16? (Utf8.encode text) with
  | none =>
      have unchanged : patchedBytes (Utf8.encode text) = Utf8.encode text := by
        apply unchangedOf
        rw [decode_of_unread notUtf8 read]
        exact marker_infix_latin1 carries
      simp [unchanged]
  | some found =>
      obtain ⟨again, order⟩ := found
      obtain rfl := (readUtf16?_encode read).1
      have noNul := noNul_of_isPlausible (readUtf16?_eq_some_iff.mp read).1
      rw [patchedBytes, decode_of_readUtf16? notUtf8 read]
      simp only [Option.some.injEq, Prod.mk.injEq, and_true, exists_eq_left']
      split
      · rename_i patchedAgain
        refine iff_of_true (fun same => ?_) patchedAgain
        -- What is written now holds no NUL.
        rw [← same, Utf8.zero_mem_encode_iff] at zero
        exact noNul (nul_mem_of_mem_patched patchedAgain zero)
      · rename_i notAgain
        exact iff_of_false (fun changed => changed rfl) notAgain

/-- A second patch changes the bytes exactly if they are misread. -/
theorem patchedBytes_patchedBytes_ne_iff
    {bytes : Bytes} :
    patchedBytes (patchedBytes bytes) ≠ patchedBytes bytes ↔ Misread bytes := by
  by_cases patched : (patch (decode bytes).1).outcome = .patched
  · have written :
        patchedBytes bytes = Utf8.encode (patch (decode bytes).1).text :=
      if_pos patched
    rw [written, patchedBytes_encode_ne_iff (marker_infix_of_patched patched)]
    simp only [Misread, patched, true_and]
  · have unchanged : patchedBytes bytes = bytes := if_neg patched
    rw [unchanged]
    exact ⟨fun changed => (changed unchanged).elim, fun misread => (patched misread.1).elim⟩

end Provision.Descriptor
