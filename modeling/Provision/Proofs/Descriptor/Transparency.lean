import Provision.Proofs.Descriptor.BlockReading
import Provision.Proofs.Descriptor.Insertion
import Provision.Proofs.Descriptor.Seams

namespace Provision.Descriptor

/-!
# The block is read on its own

What stands before the block is read before it comes, and the block ends in the
state and at the depth in which it begins. It ends with a line feed, and what
stands before it with a parenthesis, and no identifier crosses either.
So every character of the cleaned text is read as it was, and the words found
are those of the parts.
-/

/-- A text in code that leaves state and depth as they are and ends no identifier. -/
structure Transparent (block : Text) : Prop where
  inCode : LexicalState.run .code block = .code
  level : ∀ depth, depthAfter '(' ')' .code depth block = depth
  ends : block.getLast?.any isIdentifierChar = false

theorem transparent_deploymentBlock :
    Transparent deploymentBlock where
  inCode := run_deploymentBlock
  level := depthAfter_deploymentBlock
  ends := by
    rw [getLast?_deploymentBlock]
    decide

/-- A character, and the state and nesting depth in which a reader meets it. -/
structure Reading where
  char : Char
  state : LexicalState
  depth : Nat
  deriving Repr, DecidableEq

/-- The readings of a text that starts in a state and at a depth. -/
def readingsFrom : LexicalState → Nat → Text → List Reading
  | _, _, [] => []
  | state, depth, c :: rest =>
      ⟨c, state, depth⟩ ::
        readingsFrom (state.step c)
          (depthStep '(' ')' state depth c) rest

/-- The readings of a text, one for each character. -/
def readings (text : Text) : List Reading :=
  readingsFrom .code 0 text

/-- The readings of a text are about its characters. -/
theorem map_char_readingsFrom
    (state : LexicalState)
    (depth : Nat)
    (text : Text) :
    (readingsFrom state depth text).map Reading.char = text := by
  induction text generalizing state depth with
  | nil =>
      rfl
  | cons c rest inductionHypothesis =>
      rw [readingsFrom, List.map_cons, inductionHypothesis]

@[simp] theorem length_readingsFrom
    (state : LexicalState)
    (depth : Nat)
    (text : Text) :
    (readingsFrom state depth text).length = text.length := by
  have sameLength :=
    congrArg List.length (map_char_readingsFrom state depth text)
  rwa [List.length_map] at sameLength

theorem readingsFrom_append
    (state : LexicalState)
    (depth : Nat)
    (first second : Text) :
    readingsFrom state depth (first ++ second) =
      readingsFrom state depth first ++
        readingsFrom (state.run first)
          (depthAfter '(' ')' state depth first) second := by
  induction first generalizing state depth with
  | nil =>
      rfl
  | cons c rest inductionHypothesis =>
      simp only [List.cons_append, readingsFrom, inductionHypothesis,
        LexicalState.run_cons, depthAfter_cons]

/-- Where a character goes when `size` of them are put in behind the first `place`. -/
def shifted (place size index : Nat) : Nat :=
  if index < place then index else index + size

/-- Each element is found again where it is shifted to. -/
theorem getElem?_append_shifted
    {α : Type}
    (front between behind : List α)
    (index : Nat) :
    (front ++ behind)[index]? =
      (front ++ (between ++ behind))[
        shifted front.length between.length index]? := by
  by_cases inFront : index < front.length
  · rw [shifted, if_pos inFront, List.getElem?_append_left inFront,
      List.getElem?_append_left inFront]
  · have behindFront : front.length ≤ index := Nat.le_of_not_lt inFront
    rw [shifted, if_neg inFront, List.getElem?_append_right behindFront,
      List.getElem?_append_right (by omega),
      List.getElem?_append_right (by omega)]
    congr 1
    omega

/-- A transparent text does not change how the text around it is read. -/
theorem Transparent.getElem?_readings
    {front block : Text}
    (transparent : Transparent block)
    (inCode : LexicalState.run .code front = .code)
    (after : Text)
    (index : Nat) :
    (readings (front ++ after))[index]? =
      (readings (front ++ (block ++ after)))[
        shifted front.length block.length index]? := by
  have placed :=
    getElem?_append_shifted (readingsFrom .code 0 front)
      (readingsFrom .code (depthAfter '(' ')' .code 0 front) block)
      (readingsFrom .code (depthAfter '(' ')' .code 0 front) after)
      index
  simpa only [readings, readingsFrom_append, inCode, transparent.inCode,
    transparent.level, length_readingsFrom] using placed

/-- Offsets in the first of two joined texts are those below its length. -/
theorem IsWord.filter_keywordStarts_append
    {keyword first : Text}
    (word : IsWord keyword)
    (inCode : LexicalState.run .code first = .code)
    (ends : first.getLast?.any isIdentifierChar = false)
    (second : Text) :
    (keywordStarts (first ++ second) keyword).filter
          (· < Text.byteLength first) =
        keywordStarts first keyword ∧
      (keywordStarts (first ++ second) keyword).filter
          (Text.byteLength first ≤ ·) =
        (keywordStarts second keyword).map
          (· + Text.byteLength first) := by
  have below :
      ∀ place ∈ keywordStarts first keyword,
        place < Text.byteLength first := by
    intro place member
    rw [word.keywordStarts_eq] at member
    have within := word.lt_of_mem_wordStartsFrom member
    omega
  rw [word.keywordStarts_append inCode ends, List.filter_append,
    List.filter_append]
  constructor
  · rw [List.filter_eq_self.mpr (by simpa using below),
      List.filter_eq_nil_iff.mpr (by simp), List.append_nil]
  · rw [List.filter_eq_nil_iff.mpr (by simpa using below),
      List.filter_eq_self.mpr (by simp), List.nil_append]

/-- The words of a text with a transparent text in it are those of the parts. -/
theorem Transparent.keywordStarts_insert
    {keyword front block : Text}
    (transparent : Transparent block)
    (word : IsWord keyword)
    (inCode : LexicalState.run .code front = .code)
    (ends : front.getLast?.any isIdentifierChar = false)
    (after : Text) :
    keywordStarts (front ++ (block ++ after)) keyword =
      (keywordStarts (front ++ after) keyword).filter
          (· < Text.byteLength front) ++
        ((keywordStarts block keyword).map
            (· + Text.byteLength front) ++
          ((keywordStarts (front ++ after) keyword).filter
            (Text.byteLength front ≤ ·)).map
              (· + Text.byteLength block)) := by
  obtain ⟨early, late⟩ :=
    word.filter_keywordStarts_append inCode ends after
  rw [early, late, word.keywordStarts_append inCode ends,
    word.keywordStarts_append transparent.inCode transparent.ends,
    List.map_append, List.map_map, List.map_map]
  congr 3
  funext place
  simp only [Function.comp_apply]
  omega

/--
The block is transparent: with it in place, every character of the cleaned text
is met in the same state and at the same depth, and the live words are those
before the insertion point, those of the block, and those behind it.
-/
theorem patched_readings_and_words
    {text : Text}
    (patched : (patch text).outcome = .patched) :
    ∃ before after,
      cleaned text = before ++ after ∧
        insertionPoint? (cleaned text) = some (Text.byteLength before) ∧
        (patch text).text = before ++ (deploymentBlock ++ after) ∧
        (∀ index,
          (readings (cleaned text))[index]? =
            (readings (patch text).text)[
              shifted before.length deploymentBlock.length index]?) ∧
        ∀ keyword,
          IsWord keyword →
          keywordStarts (patch text).text keyword =
            (keywordStarts (cleaned text) keyword).filter
                (· < Text.byteLength before) ++
              ((keywordStarts deploymentBlock keyword).map
                  (· + Text.byteLength before) ++
                ((keywordStarts (cleaned text) keyword).filter
                  (Text.byteLength before ≤ ·)).map
                    (· + Text.byteLength deploymentBlock)) := by
  obtain ⟨-, step, cleanedShape, isLast, result⟩ :=
    exists_linkStep_of_patched patched
  have point :
      insertionPoint? (cleaned text) =
        some (Text.byteLength step.front) := by
    rw [cleanedShape]
    exact isLast.insertionPoint?_eq
  have ends : step.front.getLast?.any isIdentifierChar = false := by
    rw [isLast.getLast?_front]
    decide
  refine ⟨step.front, step.after, cleanedShape, point, by rw [result],
    ?_, ?_⟩
  · intro index
    rw [cleanedShape, result]
    exact transparent_deploymentBlock.getElem?_readings isLast.run_front
      step.after index
  · intro keyword word
    rw [cleanedShape, result]
    exact transparent_deploymentBlock.keywordStarts_insert word
      isLast.run_front ends step.after

/-- A descriptor with a comment, a string and a former command around its link step. -/
def crowdedLinkStep : Text :=
  "# (one\nadd_custom_command(a \"deployqt)\")\nif(target_link_libraries(a b))\nset(c \"(\")\n".toList

/-- The block may even stand inside another call. -/
theorem crowdedLinkStep_readings_and_words :
    (patch crowdedLinkStep).outcome = .patched ∧
      ∃ before after,
        cleaned crowdedLinkStep = before ++ after ∧
          ∀ index,
            (readings (cleaned crowdedLinkStep))[index]? =
              (readings (patch crowdedLinkStep).text)[
                shifted before.length deploymentBlock.length index]? := by
  have patched : (patch crowdedLinkStep).outcome = .patched := by
    decide +kernel
  obtain ⟨before, after, shape, -, -, sameReadings, -⟩ :=
    patched_readings_and_words patched
  exact ⟨patched, before, after, shape, sameReadings⟩

end Provision.Descriptor
