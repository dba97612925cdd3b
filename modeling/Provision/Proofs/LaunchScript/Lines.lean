import Provision.LaunchScript.Paths
import Provision.Proofs.Paths

namespace Provision.LaunchScript

/-!
# Lines and paths of launch scripts

The text of a script is its lines, each closed by a line end, and read back line
by line it gives them again. Of a path that is joined from two, only the
separator between them is new.
-/

theorem toList_textOfLines
    (lineEnd : String)
    (lines : List String) :
    (textOfLines lineEnd lines).toList =
      lines.flatMap fun line => line.toList ++ lineEnd.toList := by
  induction lines with
  | nil =>
      rfl
  | cons line lines inductionHypothesis =>
      rw [List.flatMap_cons, ← inductionHypothesis, textOfLines, List.foldr_cons,
        String.toList_append, String.toList_append]
      rfl

/-- Unbroken lines, each closed by a carriage return and a line feed, are read back. -/
theorem lines_textOfLines
    {lines : List String}
    (unbroken : ∀ line ∈ lines, '\n' ∉ line.toList) :
    Text.lines (textOfLines "\r\n" lines).toList = lines.map String.toList := by
  have lineEnd : "\r\n".toList = ['\r', '\n'] := by decide +kernel
  rw [toList_textOfLines, lineEnd]
  induction lines with
  | nil =>
      rfl
  | cons line rest inductionHypothesis =>
      have closed (behind : Text) :
          line.toList ++ ['\r', '\n'] ++ behind =
            (line.toList ++ ['\r']) ++ '\n' :: behind := by
        simp
      have noFeed : '\n' ∉ line.toList ++ ['\r'] := by
        simpa using unbroken line List.mem_cons_self
      rw [List.flatMap_cons, closed, Text.lines_append_cons _ noFeed,
        inductionHypothesis fun later member =>
          unbroken later (List.mem_cons_of_mem line member)]
      simp [Text.dropReturn]

section Paths

variable {base : Path} {name : String}

/-- A path that is joined to another one ends the joined path. -/
theorem exists_chars_child
    (base : Path)
    (name : String) :
    ∃ front, (base.child name).chars = front ++ name.toList := by
  have named : (Path.mk (FileName.ofText name).bytes).chars = name.toList :=
    Path.chars_ofText name
  rw [Path.child, Path.chars_join, named]
  split
  · exact ⟨[], rfl⟩
  · split
    · exact ⟨base.chars, rfl⟩
    · exact ⟨base.chars ++ ['/'], by simp⟩

/-- A name below a directory stands behind a separator, unless it starts the path. -/
theorem chars_child
    (relative : (Path.ofText name).isAbsolute = false) :
    ((base.child name).chars = base.chars ++ name.toList ∧
        base.chars.getLast? ≠ some '$') ∨
      (base.child name).chars = base.chars ++ '/' :: name.toList := by
  have joined := Path.chars_join base (Path.ofText name)
  rw [relative, if_neg Bool.false_ne_true, Path.chars_ofText] at joined
  rw [show base.child name = base.join (Path.ofText name) from rfl, joined]
  split
  · rename_i joins
    refine .inl ⟨rfl, ?_⟩
    rcases Bool.or_eq_true_iff.mp joins with empty | ends
    · rw [Path.isEmpty, List.isEmpty_iff] at empty
      rw [Path.chars_eq_decodeLossy, empty]
      decide
    · rw [Path.chars_getLast?_of_endsInSeparator ends]
      decide
  · exact .inr rfl

/-- A character that neither parts names nor is in the name comes from the directory. -/
theorem mem_chars_child_iff
    {c : Char}
    (relative : (Path.ofText name).isAbsolute = false)
    (foreign : c ∉ '/' :: name.toList) :
    c ∈ (base.child name).chars ↔ c ∈ base.chars := by
  rcases chars_child relative with ⟨shape, -⟩ | shape
  · rw [shape, List.mem_append]
    exact or_iff_left fun inName => foreign (List.mem_cons_of_mem _ inName)
  · rw [shape, List.mem_append]
    exact or_iff_left foreign

/-- All characters of a joined path come from its parts, but for the separator. -/
theorem mem_chars_join
    {part : Path}
    {c : Char}
    (member : c ∈ (base.join part).chars) :
    c ∈ base.chars ∨ c = '/' ∨ c ∈ part.chars := by
  rw [Path.chars_join] at member
  split at member
  · exact .inr (.inr member)
  · split at member
    · exact (List.mem_append.mp member).imp_right .inr
    · rw [List.mem_append, List.mem_cons] at member
      exact member

end Paths

end Provision.LaunchScript
