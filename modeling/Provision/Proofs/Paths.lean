import Provision.Path
import Provision.Proofs.Encoding.Lossy

namespace Provision

/-!
# Paths and what is shown of them

A path that is a text is shown as that text. Of any other path, what is shown has
the same separators; its names are those of the path with a replacement for what
is no text in them. So a path that is no text never names the same place as one
that is.
-/

namespace FileName

/-- The bytes of a name are UTF-8. -/
def IsText (name : FileName) : Prop :=
  ∃ text, name.bytes = Utf8.encode text

/-- The name that is read from what is shown of a name. -/
def shown (name : FileName) : FileName :=
  ⟨Utf8.rewritten name.bytes⟩

@[simp] theorem text_ofText
    (text : String) :
    (ofText text).text = text := by
  rw [FileName.text, ofText, Utf8.decodeLossy_encode, String.ofList_toList]

theorem shown_eq_self_iff
    {name : FileName} :
    name.shown = name ↔ name.IsText := by
  rw [shown, FileName.mk.injEq]
  exact Utf8.rewritten_eq_self_iff

end FileName

namespace Path

/-- The bytes of a path are UTF-8. -/
def IsText (path : Path) : Prop :=
  ∃ text, path.bytes = Utf8.encode text

instance (path : Path) : Decidable path.IsText :=
  decidable_of_iff (Utf8.rewritten path.bytes = path.bytes) Utf8.rewritten_eq_self_iff

/-- The path that is read from what is shown of a path. -/
def shown (path : Path) : Path :=
  ⟨Utf8.rewritten path.bytes⟩

variable {path : Path}

theorem chars_eq_decodeLossy
    (path : Path) :
    path.chars = Utf8.decodeLossy path.bytes :=
  String.toList_ofList

@[simp] theorem text_ofText
    (text : String) :
    (ofText text).text = text := by
  rw [Path.text, ofText, Utf8.decodeLossy_encode, String.ofList_toList]

@[simp] theorem chars_ofText
    (text : String) :
    (ofText text).chars = text.toList :=
  congrArg String.toList (text_ofText text)

theorem isText_shown
    (path : Path) :
    path.shown.IsText :=
  ⟨Utf8.decodeLossy path.bytes, rfl⟩

theorem shown_eq_self_iff :
    path.shown = path ↔ path.IsText := by
  rw [shown, Path.mk.injEq]
  exact Utf8.rewritten_eq_self_iff

@[simp] theorem isEmpty_shown
    (path : Path) :
    path.shown.isEmpty = path.isEmpty := by
  rw [Bool.eq_iff_iff, isEmpty, isEmpty, List.isEmpty_iff, List.isEmpty_iff]
  exact Utf8.rewritten_eq_nil_iff

/-- What is no text is not empty. -/
theorem isEmpty_of_not_isText
    (noText : ¬ path.IsText) :
    path.isEmpty = false := by
  rw [Bool.eq_false_iff, isEmpty, ne_eq, List.isEmpty_iff]
  intro empty
  exact noText ⟨[], empty⟩

section Joining

variable {base part : Path}

/-- A path that ends in a name is not empty. -/
theorem isEmpty_child
    {name : FileName}
    (base : Path)
    (named : name.bytes ≠ []) :
    (base.child name).isEmpty = false := by
  rw [child, join]
  split
  · simp [isEmpty, named]
  · split <;> simp [isEmpty, named]

/-- Paths are joined as what is shown of them is. -/
theorem chars_join
    (base part : Path) :
    (base.join part).chars =
      if part.isAbsolute then part.chars
      else if base.isEmpty || base.endsInSeparator then base.chars ++ part.chars
      else base.chars ++ '/' :: part.chars := by
  simp only [chars_eq_decodeLossy, join]
  split
  · rfl
  · split
    · rename_i joins
      rcases Bool.or_eq_true_iff.mp joins with empty | ends
      · rw [isEmpty, List.isEmpty_iff] at empty
        rw [empty]
        rfl
      · rw [endsInSeparator, beq_iff_eq] at ends
        obtain ⟨front, shape⟩ := List.getLast?_eq_some_iff.mp ends
        rw [shape, List.append_assoc, List.singleton_append,
          Utf8.decodeLossy_append_cons (by decide), Utf8.decodeLossy_append_cons (by decide),
          List.append_assoc]
        rfl
    · exact Utf8.decodeLossy_append_cons (by decide) _ _

theorem chars_getLast?_of_endsInSeparator
    (ends : path.endsInSeparator = true) :
    path.chars.getLast? = some '/' := by
  rw [endsInSeparator, beq_iff_eq] at ends
  obtain ⟨front, shape⟩ := List.getLast?_eq_some_iff.mp ends
  rw [chars_eq_decodeLossy, shape, Utf8.decodeLossy_append_cons (by decide)]
  exact List.getLast?_concat

end Joining

/-! ## Components -/

namespace Component

/-- The component that is read from what is shown of a component. -/
def shown : Component → Component
  | .name file => .name file.shown
  | other => other

end Component

@[simp] theorem isAbsolute_shown
    (path : Path) :
    path.shown.isAbsolute = path.isAbsolute := by
  have starts (bytes : Bytes) :
      bytes.head? = some separator ↔ ∃ rest, bytes = separator :: rest :=
    List.head?_eq_some_iff
  rw [Bool.eq_iff_iff, isAbsolute, isAbsolute, beq_iff_eq, beq_iff_eq, starts, starts, shown]
  constructor
  · rintro ⟨more, written⟩
    obtain ⟨rest, shape, -⟩ := (Utf8.rewritten_eq_cons_iff (by decide)).mp written
    exact ⟨rest, shape⟩
  · rintro ⟨rest, shape⟩
    exact ⟨_, (Utf8.rewritten_eq_cons_iff (by decide)).mpr ⟨rest, shape, rfl⟩⟩

theorem pieces_shown
    (path : Path) :
    path.shown.pieces = path.pieces.map Utf8.rewritten :=
  Utf8.splitOn_rewritten (by decide) path.bytes

private theorem rewritten_eq_dot_iff
    {piece : Bytes} :
    Utf8.rewritten piece = [dot] ↔ piece = [dot] := by
  rw [Utf8.rewritten_eq_cons_iff (by decide)]
  simp [Utf8.rewritten_eq_nil_iff]

private theorem rewritten_eq_dots_iff
    {piece : Bytes} :
    Utf8.rewritten piece = [dot, dot] ↔ piece = [dot, dot] := by
  rw [Utf8.rewritten_eq_cons_iff (by decide)]
  simp [rewritten_eq_dot_iff]

private theorem pieceComponent?_rewritten
    (piece : Bytes) :
    pieceComponent? (Utf8.rewritten piece) = (pieceComponent? piece).map Component.shown := by
  have silent :
      ((Utf8.rewritten piece).isEmpty || Utf8.rewritten piece = [dot]) =
        (piece.isEmpty || piece = [dot]) := by
    rw [Bool.eq_iff_iff]
    simp [Utf8.rewritten_eq_nil_iff, rewritten_eq_dot_iff]
  rw [pieceComponent?, pieceComponent?, silent]
  split
  · rfl
  · by_cases up : piece = [dot, dot]
    · rw [if_pos up, if_pos (rewritten_eq_dots_iff.mpr up)]
      rfl
    · rw [if_neg up, if_neg fun dots => up (rewritten_eq_dots_iff.mp dots)]
      rfl

/-- What is shown of a path has the components of the path, as they are shown. -/
theorem components_shown
    (path : Path) :
    path.shown.components = path.components.map Component.shown := by
  have further (pieces : List Bytes) :
      (pieces.map Utf8.rewritten).filterMap pieceComponent? =
        (pieces.filterMap pieceComponent?).map Component.shown := by
    rw [List.filterMap_map, List.map_filterMap]
    exact List.filterMap_congr fun piece _ => pieceComponent?_rewritten piece
  rw [components, components, pieces_shown, isAbsolute_shown]
  cases path.pieces with
  | nil => rfl
  | cons first rest =>
      simp only [List.map_cons, List.map_append, further]
      congr 1
      split
      · rfl
      · by_cases here : first = [dot]
        · rw [if_pos here, if_pos (rewritten_eq_dot_iff.mpr here)]
          rfl
        · rw [if_neg here, if_neg fun dots => here (rewritten_eq_dot_iff.mp dots),
            pieceComponent?_rewritten]
          cases pieceComponent? first <;> rfl

/-- Every name of a path that is a text is a text. -/
theorem IsText.name
    {name : FileName}
    (isText : path.IsText)
    (member : .name name ∈ path.components) :
    name.IsText := by
  have same : path.components.map Component.shown = path.components.map id := by
    rw [← components_shown, shown_eq_self_iff.mpr isText, List.map_id]
  have named := List.map_eq_map_iff.mp same _ member
  exact FileName.shown_eq_self_iff.mp (Component.name.inj named)

private theorem exists_component
    {piece : Bytes}
    (member : piece ∈ path.pieces)
    (notSilent : ¬ (piece.isEmpty || piece = [dot]) = true)
    (notUp : piece ≠ [dot, dot]) :
    .name ⟨piece⟩ ∈ path.components := by
  have named : pieceComponent? piece = some (.name ⟨piece⟩) := by
    rw [pieceComponent?, if_neg notSilent, if_neg notUp]
  rw [components]
  cases shape : path.pieces with
  | nil =>
      rw [shape] at member
      cases member
  | cons first rest =>
      rw [shape] at member
      rcases List.mem_cons.mp member with rfl | inRest
      · have relative : path.isAbsolute = false := by
          rw [Bool.eq_false_iff]
          intro absolute
          rw [isAbsolute, beq_iff_eq, List.head?_eq_some_iff] at absolute
          obtain ⟨behind, starts⟩ := absolute
          rw [pieces, starts, Text.splitOn, if_pos rfl] at shape
          rw [← (List.cons.inj shape).1] at notSilent
          exact notSilent rfl
        have notHere : piece ≠ [dot] := fun here => notSilent (by simp [here])
        simp [relative, notHere, named]
      · exact List.mem_append_right _ (List.mem_filterMap.mpr ⟨piece, inRest, named⟩)

/-- A path is a text if its names are. -/
theorem isText_of_names
    (texts : ∀ name, .name name ∈ path.components → name.IsText) :
    path.IsText := by
  have kept : path.shown.pieces = path.pieces := by
    rw [pieces_shown]
    refine (List.map_congr_left fun piece member => ?_).trans path.pieces.map_id
    by_cases silent : (piece.isEmpty || piece = [dot]) = true
    · rcases Bool.or_eq_true_iff.mp silent with empty | here
      · rw [List.isEmpty_iff.mp empty]
        rfl
      · have isHere := of_decide_eq_true here
        exact (rewritten_eq_dot_iff.mpr isHere).trans isHere.symm
    · by_cases up : piece = [dot, dot]
      · exact (rewritten_eq_dots_iff.mpr up).trans up.symm
      · exact Utf8.rewritten_eq_self_iff.mpr (texts ⟨piece⟩ (exists_component member silent up))
  have bytes := congrArg [separator].intercalate kept
  rw [pieces, pieces, Text.intercalate_splitOn, Text.intercalate_splitOn] at bytes
  exact shown_eq_self_iff.mp (congrArg Path.mk bytes)

/-- What names the same place as a text is a text. -/
theorem IsText.of_sameAs
    {other : Path}
    (isText : path.IsText)
    (same : path.sameAs other = true) :
    other.IsText :=
  isText_of_names fun _ member => isText.name ((beq_iff_eq.mp same) ▸ member)

end Path

end Provision
