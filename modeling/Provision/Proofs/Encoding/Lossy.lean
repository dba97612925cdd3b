import Provision.Proofs.Encoding.Utf8
import Provision.Proofs.Text.Pieces

namespace Provision.Utf8

/-!
# Lossy reading

What was written is read back by the lenient reader too. An ASCII byte is never
part of a longer character, nor of what is replaced. So bytes may be split at
such a byte before they are read, or their text afterwards, to the same effect.
-/

theorem encodeChar_of_ascii
    {c : Char}
    (ascii : c.toNat < 0x80) :
    encodeChar c = [UInt8.ofNat c.toNat] := by
  simp [encodeChar, ascii]

theorem toNat_ofNat_of_byte
    {byte : UInt8}
    (ascii : byte.toNat < 0x80) :
    (Char.ofNat byte.toNat).toNat = byte.toNat :=
  toNat_ofNat_of_valid (Or.inl (by omega))

theorem encodeChar_ofNat_of_byte
    {byte : UInt8}
    (ascii : byte.toNat < 0x80) :
    encodeChar (Char.ofNat byte.toNat) = [byte] := by
  have value := toNat_ofNat_of_byte ascii
  rw [encodeChar_of_ascii (by omega), value, UInt8.ofNat_toNat]

/-- A byte that does not complete a character leaves a reader that expects no ASCII. -/
private theorem inside_of_continues
    {reader next : Reader}
    {byte : UInt8}
    (goesOn : reader.read byte = .continues next) :
    ∃ low high more value, next = .inside low high more value ∧ 0x80 ≤ low := by
  cases reader with
  | between =>
      simp only [Reader.read, Progress.ofLead] at goesOn
      split_ifs at goesOn <;> cases goesOn <;> exact ⟨_, _, _, _, rfl, by decide⟩
  | inside low high more value =>
      simp only [Reader.read] at goesOn
      split_ifs at goesOn
      cases more with
      | zero => cases goesOn
      | succ more =>
          cases goesOn
          exact ⟨_, _, _, _, rfl, by decide⟩

/-- A reader that has taken these bytes of a character, and no others. -/
private structure Begun (taken : Bytes) (reader : Reader) : Prop where
  resumes : ∀ rest, decodeFrom? .between (taken ++ rest) = decodeFrom? reader rest
  between_iff : reader = .between ↔ taken = []
  expects : ∀ low high more value, reader = .inside low high more value → 0x80 ≤ low

namespace Begun

variable {taken : Bytes} {reader next : Reader} {byte : UInt8} {c : Char}

private theorem none : Begun [] .between where
  resumes _ := rfl
  between_iff := iff_of_true rfl rfl
  expects := nofun

private theorem step
    (begun : Begun taken reader)
    (goesOn : reader.read byte = .continues next) :
    Begun (taken ++ [byte]) next := by
  obtain ⟨low, high, more, value, rfl, bound⟩ := inside_of_continues goesOn
  refine ⟨fun rest => ?_, by simp, ?_⟩
  · rw [List.append_assoc, begun.resumes, List.singleton_append, decodeFrom?, goesOn]
  · rintro _ _ _ _ ⟨⟩
    exact bound

private theorem start
    (goesOn : Reader.between.read byte = .continues next) :
    Begun [byte] next :=
  Begun.none.step goesOn

/-- What is completed is the character whose written form was taken. -/
private theorem written
    (begun : Begun taken reader)
    (completed : reader.read byte = .completes c) :
    taken ++ [byte] = encodeChar c := by
  have reads : decode? (taken ++ [byte]) = some [c] := by
    rw [decode?, begun.resumes, decodeFrom?, completed]
    rfl
  rw [decode?_eq_some_iff.mp reads]
  exact List.append_nil _

/-- Inside a character no ASCII byte is taken. -/
private theorem refuses
    (begun : Begun taken reader)
    (inside : reader ≠ .between)
    (ascii : byte.toNat < 0x80) :
    reader.read byte = .refuses := by
  cases reader with
  | between => exact (inside rfl).elim
  | inside low high more value =>
      have bound := begun.expects low high more value rfl
      have outside : ¬ low ≤ byte.toNat := by omega
      simp [Reader.read, outside]

end Begun

private theorem decodeLossyFrom_append_cons
    {taken : Bytes}
    {reader : Reader}
    {byte : UInt8}
    (begun : Begun taken reader)
    (ascii : byte.toNat < 0x80)
    (front back : Bytes) :
    decodeLossyFrom reader (front ++ byte :: back) =
      decodeLossyFrom reader front ++ Char.ofNat byte.toNat :: decodeLossy back := by
  have alone : Reader.between.read byte = .completes (Char.ofNat byte.toNat) := by
    simp [Reader.read, Progress.ofLead, ascii]
  induction front generalizing taken reader with
  | nil =>
      by_cases between : reader = .between
      · subst between
        simp [decodeLossyFrom, alone, decodeLossy]
      · simp [decodeLossyFrom, begun.refuses between ascii, between, alone, decodeLossy]
  | cons first front inductionHypothesis =>
      rw [List.cons_append, decodeLossyFrom, decodeLossyFrom]
      cases progress : reader.read first with
      | completes c =>
          simp [inductionHypothesis Begun.none]
      | continues next =>
          exact inductionHypothesis (begun.step progress)
      | refuses =>
          by_cases between : reader = .between
          · simp [between, inductionHypothesis Begun.none]
          · simp only [between, ↓reduceIte]
            cases anew : Reader.between.read first with
            | completes c => simp [inductionHypothesis Begun.none]
            | continues next => simp [inductionHypothesis (Begun.start anew)]
            | refuses => simp [inductionHypothesis Begun.none]

/-- What stands before an ASCII byte and behind it is read alike without the other. -/
theorem decodeLossy_append_cons
    {byte : UInt8}
    (ascii : byte.toNat < 0x80)
    (front back : Bytes) :
    decodeLossy (front ++ byte :: back) =
      decodeLossy front ++ Char.ofNat byte.toNat :: decodeLossy back :=
  decodeLossyFrom_append_cons Begun.none ascii front back

private theorem decodeLossyFrom_of_decodeFrom?
    {reader : Reader}
    {bytes : Bytes}
    {text : Text}
    (reads : decodeFrom? reader bytes = some text) :
    decodeLossyFrom reader bytes = text := by
  induction bytes generalizing reader text with
  | nil =>
      simp only [decodeFrom?] at reads
      split_ifs at reads with between
      rw [decodeLossyFrom, if_pos between, Option.some.inj reads]
  | cons byte rest inductionHypothesis =>
      rw [decodeFrom?] at reads
      rw [decodeLossyFrom]
      cases progress : reader.read byte with
      | completes c =>
          rw [progress] at reads
          obtain ⟨more, restReads, rfl⟩ := Option.map_eq_some_iff.mp reads
          exact congrArg (c :: ·) (inductionHypothesis restReads)
      | continues next =>
          rw [progress] at reads
          exact inductionHypothesis reads
      | refuses =>
          rw [progress] at reads
          cases reads

/-- Of what was written, nothing is replaced. -/
@[simp] theorem decodeLossy_encode
    (text : Text) :
    decodeLossy (encode text) = text :=
  decodeLossyFrom_of_decodeFrom? (decode?_encode text)

private theorem decodeLossyFrom_ne_nil
    {reader : Reader}
    {bytes : Bytes}
    (some : reader ≠ .between ∨ bytes ≠ []) :
    decodeLossyFrom reader bytes ≠ [] := by
  induction bytes generalizing reader with
  | nil =>
      have inside : reader ≠ .between := by simpa using some
      simp [decodeLossyFrom, inside]
  | cons byte rest inductionHypothesis =>
      rw [decodeLossyFrom]
      cases progress : reader.read byte with
      | completes c => exact List.cons_ne_nil _ _
      | continues next =>
          obtain ⟨_, _, _, _, rfl, -⟩ := inside_of_continues progress
          exact inductionHypothesis (.inl nofun)
      | refuses =>
          dsimp only
          split
          · exact List.cons_ne_nil _ _
          · split <;> exact List.cons_ne_nil _ _

theorem decodeLossy_eq_nil_iff
    {bytes : Bytes} :
    decodeLossy bytes = [] ↔ bytes = [] := by
  constructor
  · intro empty
    exact Classical.byContradiction fun some => decodeLossyFrom_ne_nil (.inr some) empty
  · rintro rfl
    rfl

private theorem mem_of_mem_decodeLossyFrom
    {taken : Bytes}
    {reader : Reader}
    {c : Char}
    {bytes : Bytes}
    (begun : Begun taken reader)
    (ascii : c.toNat < 0x80)
    (member : c ∈ decodeLossyFrom reader bytes) :
    UInt8.ofNat c.toNat ∈ bytes := by
  have notReplaced : c ≠ replacement := by
    rintro rfl
    exact absurd ascii (by decide)
  -- A character of ASCII is completed by its own byte alone.
  have byItself :
      ∀ {taken : Bytes} {reader : Reader} {byte : UInt8}, Begun taken reader →
        reader.read byte = .completes c → byte = UInt8.ofNat c.toNat := by
    intro taken reader byte begun completed
    have written := begun.written completed
    rw [encodeChar_of_ascii ascii, ← List.nil_append [UInt8.ofNat _]] at written
    exact List.singleton_inj.mp (List.append_inj_right' written rfl)
  induction bytes generalizing taken reader with
  | nil =>
      rw [decodeLossyFrom] at member
      split at member
      · cases member
      · exact (notReplaced (List.mem_singleton.mp member)).elim
  | cons byte rest inductionHypothesis =>
      rw [decodeLossyFrom] at member
      rw [List.mem_cons]
      cases progress : reader.read byte with
      | completes d =>
          rw [progress] at member
          rcases List.mem_cons.mp member with rfl | inRest
          · exact .inl (byItself begun progress).symm
          · exact .inr (inductionHypothesis Begun.none inRest)
      | continues next =>
          rw [progress] at member
          exact .inr (inductionHypothesis (begun.step progress) member)
      | refuses =>
          rw [progress] at member
          dsimp only at member
          split at member
          · exact .inr (inductionHypothesis Begun.none
              (List.mem_of_ne_of_mem notReplaced member))
          · cases anew : Reader.between.read byte with
            | completes d =>
                rw [anew] at member
                rcases List.mem_cons.mp (List.mem_of_ne_of_mem notReplaced member) with
                    rfl | inRest
                · exact .inl (byItself Begun.none anew).symm
                · exact .inr (inductionHypothesis Begun.none inRest)
            | continues next =>
                rw [anew] at member
                exact .inr (inductionHypothesis (Begun.start anew)
                  (List.mem_of_ne_of_mem notReplaced member))
            | refuses =>
                rw [anew] at member
                exact .inr (inductionHypothesis Begun.none
                  (List.mem_of_ne_of_mem notReplaced
                    (List.mem_of_ne_of_mem notReplaced member)))

/-- ASCII is read where its bytes stand, and nowhere else. -/
theorem mem_decodeLossy_iff
    {c : Char}
    {bytes : Bytes}
    (ascii : c.toNat < 0x80) :
    c ∈ decodeLossy bytes ↔ UInt8.ofNat c.toNat ∈ bytes := by
  constructor
  · exact mem_of_mem_decodeLossyFrom Begun.none ascii
  · intro member
    obtain ⟨front, back, rfl⟩ := List.append_of_mem member
    have value : (UInt8.ofNat c.toNat).toNat = c.toNat := by
      rw [UInt8.toNat_ofNat']
      exact Nat.mod_eq_of_lt (by omega)
    rw [decodeLossy_append_cons (by omega), value, Char.ofNat_toNat]
    exact List.mem_append_right _ List.mem_cons_self

/-! ## Bytes that are written again -/

/-- The bytes of the text that is read from bytes. -/
def rewritten (bytes : Bytes) : Bytes :=
  encode (decodeLossy bytes)

@[simp] theorem rewritten_encode
    (text : Text) :
    rewritten (encode text) = encode text := by
  rw [rewritten, decodeLossy_encode]

@[simp] theorem decodeLossy_rewritten
    (bytes : Bytes) :
    decodeLossy (rewritten bytes) = decodeLossy bytes := by
  rw [rewritten, decodeLossy_encode]

theorem rewritten_eq_nil_iff
    {bytes : Bytes} :
    rewritten bytes = [] ↔ bytes = [] := by
  constructor
  · intro empty
    have nothing := congrArg decodeLossy empty
    rw [decodeLossy_rewritten] at nothing
    exact decodeLossy_eq_nil_iff.mp nothing
  · rintro rfl
    rfl

/-- Bytes are the same when they are written again exactly if they are UTF-8. -/
theorem rewritten_eq_self_iff
    {bytes : Bytes} :
    rewritten bytes = bytes ↔ ∃ text, bytes = encode text := by
  constructor
  · intro same
    exact ⟨decodeLossy bytes, same.symm⟩
  · rintro ⟨text, rfl⟩
    exact rewritten_encode text

theorem rewritten_append_cons
    {byte : UInt8}
    (ascii : byte.toNat < 0x80)
    (front back : Bytes) :
    rewritten (front ++ byte :: back) = rewritten front ++ byte :: rewritten back := by
  rw [rewritten, decodeLossy_append_cons ascii, encode_append, encode, encode, List.flatMap_cons,
    encodeChar_ofNat_of_byte ascii]
  rfl

theorem mem_rewritten_iff
    {byte : UInt8}
    {bytes : Bytes}
    (ascii : byte.toNat < 0x80) :
    byte ∈ rewritten bytes ↔ byte ∈ bytes := by
  have value := toNat_ofNat_of_byte ascii
  have read : ∀ bytes, Char.ofNat byte.toNat ∈ decodeLossy bytes ↔ byte ∈ bytes := by
    intro bytes
    rw [mem_decodeLossy_iff (by omega), value, UInt8.ofNat_toNat]
  rw [← read, ← read, decodeLossy_rewritten]

/-- An ASCII byte that is written first stood there. -/
theorem rewritten_eq_cons_iff
    {byte : UInt8}
    {bytes more : Bytes}
    (ascii : byte.toNat < 0x80) :
    rewritten bytes = byte :: more ↔
      ∃ rest, bytes = byte :: rest ∧ rewritten rest = more := by
  constructor
  · intro written
    have member : byte ∈ bytes :=
      (mem_rewritten_iff ascii).mp (written ▸ List.mem_cons_self)
    obtain ⟨front, back, rfl, first⟩ := List.eq_append_cons_of_mem member
    rw [rewritten_append_cons ascii] at written
    have nothing : rewritten front = [] := by
      cases shape : rewritten front with
      | nil => rfl
      | cons lead others =>
          rw [shape] at written
          have isByte : byte ∈ rewritten front := by
            rw [shape, (List.cons.inj written).1]
            exact List.mem_cons_self
          exact (first ((mem_rewritten_iff ascii).mp isByte)).elim
    rw [nothing] at written
    rw [rewritten_eq_nil_iff.mp nothing]
    exact ⟨back, rfl, (List.cons.inj written).2⟩
  · rintro ⟨rest, rfl, rfl⟩
    exact rewritten_append_cons ascii [] rest

theorem rewritten_intercalate
    {separator : UInt8}
    (ascii : separator.toNat < 0x80)
    (pieces : List Bytes) :
    rewritten ([separator].intercalate pieces) =
      [separator].intercalate (pieces.map rewritten) := by
  induction pieces with
  | nil => rfl
  | cons first rest inductionHypothesis =>
      cases rest with
      | nil => rw [List.map_singleton, List.intercalate_singleton, List.intercalate_singleton]
      | cons next others =>
          rw [List.map_cons] at inductionHypothesis
          rw [List.map_cons, List.map_cons, List.intercalate_cons_cons,
            List.intercalate_cons_cons, List.append_assoc, List.append_assoc,
            List.singleton_append, List.singleton_append, rewritten_append_cons ascii,
            inductionHypothesis]

/-- Bytes may be split at an ASCII byte before they are written again, or afterwards. -/
theorem splitOn_rewritten
    {separator : UInt8}
    (ascii : separator.toNat < 0x80)
    (bytes : Bytes) :
    Text.splitOn separator (rewritten bytes) =
      (Text.splitOn separator bytes).map rewritten := by
  conv_lhs => rw [← Text.intercalate_splitOn separator bytes, rewritten_intercalate ascii]
  refine Text.splitOn_intercalate ?_ ?_
  · simp [Text.splitOn_ne_nil]
  · intro piece member
    obtain ⟨original, isPiece, rfl⟩ := List.mem_map.mp member
    rw [mem_rewritten_iff ascii]
    exact Text.notMem_of_mem_splitOn isPiece

end Provision.Utf8
