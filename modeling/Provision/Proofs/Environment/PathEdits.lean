import Provision.Proofs.Environment.Activation
import Provision.Proofs.Environment.SearchLists

namespace Provision

/-!
# Editing a search path many times

However often directories are put in front of the entries of a search path and
behind them, the entries that were there at first stay together as they were. An
edit is taken if its directory is not listed at that moment. Of directories that
are texts none is listed twice, then, and edits that were made once change
nothing when they are made again. A directory that is no text is compared as it
is but kept as it is shown, so it is never listed and is added every time.
-/

/-- Putting a directory on the search path. -/
structure PathEdit where
  place : SearchList.Place
  dir : Path
  deriving Repr, DecidableEq

namespace PathEdit

/--
The edits that are taken where some entries are listed: those whose directory is
not listed at that moment. Then what is shown of it is an entry more.
-/
def taken (listed : List Path) : List PathEdit → List PathEdit
  | [] => []
  | edit :: later =>
      if SearchList.lists listed edit.dir then
        taken listed later
      else
        edit :: taken (edit.dir.shown :: listed) later

/-- Directories of the edits at one end, in the order of the edits. -/
def dirsAt (place : SearchList.Place) (edits : List PathEdit) : List Path :=
  (edits.filter fun edit => edit.place = place).map PathEdit.dir

variable {listed : List Path} {edits : List PathEdit}

/-- In which order the entries are listed does not matter. -/
theorem taken_congr
    {other : List Path}
    (same : ∀ dir, SearchList.lists listed dir = SearchList.lists other dir) :
    taken listed edits = taken other edits := by
  induction edits generalizing listed other with
  | nil =>
      rfl
  | cons edit later inductionHypothesis =>
      rw [taken, taken, same edit.dir, inductionHypothesis same]
      have sameThen :
          taken (edit.dir.shown :: listed) later = taken (edit.dir.shown :: other) later := by
        apply inductionHypothesis
        intro dir
        change (edit.dir.shown.sameAs dir || SearchList.lists listed dir) =
          (edit.dir.shown.sameAs dir || SearchList.lists other dir)
        rw [same dir]
      rw [sameThen]

theorem mem_of_mem_taken
    {edit : PathEdit}
    (member : edit ∈ taken listed edits) :
    edit ∈ edits := by
  induction edits generalizing listed with
  | nil =>
      cases member
  | cons first later inductionHypothesis =>
      rw [taken] at member
      split at member
      · exact List.mem_cons_of_mem _ (inductionHypothesis member)
      · rcases List.mem_cons.mp member with rfl | inLater
        · exact List.mem_cons_self
        · exact List.mem_cons_of_mem _ (inductionHypothesis inLater)

/-- What is listed already is not taken. -/
theorem lists_eq_false_of_mem_taken
    {edit : PathEdit}
    (member : edit ∈ taken listed edits) :
    SearchList.lists listed edit.dir = false := by
  induction edits generalizing listed with
  | nil =>
      cases member
  | cons first later inductionHypothesis =>
      rw [taken] at member
      split at member
      · exact inductionHypothesis member
      · rename_i new
        rcases List.mem_cons.mp member with rfl | inLater
        · exact eq_false_of_ne_true new
        · exact (Bool.or_eq_false_iff.mp (inductionHypothesis inLater)).2

/-- What is shown of a directory that was taken is not taken once more. -/
theorem pairwise_taken
    (listed : List Path)
    (edits : List PathEdit) :
    (taken listed edits).Pairwise fun earlier later =>
      earlier.dir.shown.sameAs later.dir = false := by
  induction edits generalizing listed with
  | nil =>
      exact List.Pairwise.nil
  | cons first later inductionHypothesis =>
      rw [taken]
      split
      · exact inductionHypothesis listed
      · refine List.pairwise_cons.mpr ⟨fun edit member => ?_, inductionHypothesis _⟩
        exact (Bool.or_eq_false_iff.mp (lists_eq_false_of_mem_taken member)).1

end PathEdit

namespace SearchList

theorem lists_append
    (front back : List Path)
    (dir : Path) :
    lists (front ++ back) dir = (lists front dir || lists back dir) :=
  List.any_append

/-- What an entry more changes about what is listed does not depend on its place. -/
theorem lists_add_eq
    (entries : List Path)
    (place : Place)
    (added dir : Path) :
    lists (add entries place added) dir = lists (added :: entries) dir := by
  cases place with
  | front => rfl
  | back => simp [lists, add, Bool.or_comm]

end SearchList

namespace Environment

/-- The environment after a directory was put on its search path. -/
def editPath (env : Environment) (edit : PathEdit) : Environment :=
  match edit.place with
  | .front => env.prependPath edit.dir
  | .back => env.appendPath edit.dir

/-- The environment after several directories were, one after the other. -/
def editPaths (env : Environment) (edits : List PathEdit) : Environment :=
  edits.foldl editPath env

variable {env : Environment} {edits : List PathEdit} {name : String}

/-- Edits are made in order, and each adds its directory at its end. -/
theorem editPaths_cons
    (env : Environment)
    (edit : PathEdit)
    (later : List PathEdit) :
    env.editPaths (edit :: later) = (env.addPath edit.place edit.dir).editPaths later := by
  obtain ⟨_ | _, dir⟩ := edit <;> rfl

/-- The search path, as it is written, holds no empty entries. -/
def PathWritten (env : Environment) : Prop :=
  ∃ value,
    env.var? Variable.path.name = some value ∧
      SearchList.allEntries value = env.pathEntries

/-- What is written for a new directory holds no empty entries. -/
theorem pathWritten_addPath_of_new
    {dir : Path}
    (place : SearchList.Place)
    (listable : SearchList.Listable dir)
    (new : SearchList.lists env.pathEntries dir = false) :
    (env.addPath place dir).PathWritten := by
  have unsplit : ∀ entry ∈ SearchList.add env.pathEntries place dir,
      SearchList.cannotHold entry = false :=
    fun entry member => (listable_of_mem_add listable member).unsplit
  rw [PathWritten, pathEntries_addPath_of_new place listable new,
    addPath_of_new place listable.unsplit new, var?_set_path]
  refine ⟨_, rfl, ?_⟩
  rw [SearchList.allEntries_ofEntries (SearchList.add_ne_nil _ place dir) unsplit,
    SearchList.map_shown_add, map_shown_pathEntries]

/--
The entries after all edits: those that were there stay together, what is shown
of the directories taken for the front stands before them in reverse order, and
of the others behind them.
-/
theorem pathEntries_editPaths
    (env : Environment)
    (listable : ∀ edit ∈ edits, SearchList.Listable edit.dir) :
    (env.editPaths edits).pathEntries =
      ((PathEdit.dirsAt .front (PathEdit.taken env.pathEntries edits)).map
          Path.shown).reverse ++
        env.pathEntries ++
        (PathEdit.dirsAt .back (PathEdit.taken env.pathEntries edits)).map Path.shown := by
  induction edits generalizing env with
  | nil =>
      simp [editPaths, PathEdit.taken, PathEdit.dirsAt]
  | cons edit later inductionHypothesis =>
      obtain ⟨firstListable, laterListable⟩ := List.forall_mem_cons.mp listable
      rw [editPaths_cons, inductionHypothesis _ laterListable, PathEdit.taken]
      cases listed : SearchList.lists env.pathEntries edit.dir with
      | true =>
          rw [addPath_of_listed edit.place listed, if_pos rfl]
      | false =>
          rw [pathEntries_addPath_of_new edit.place firstListable listed,
            if_neg Bool.false_ne_true,
            PathEdit.taken_congr (SearchList.lists_add_eq _ edit.place edit.dir.shown)]
          obtain ⟨_ | _, dir⟩ := edit <;> simp [PathEdit.dirsAt, SearchList.add]

/-- Where nothing is taken, nothing is changed; else the whole search path is written anew. -/
theorem editPaths_eq_or_written
    (env : Environment)
    (listable : ∀ edit ∈ edits, SearchList.Listable edit.dir) :
    if PathEdit.taken env.pathEntries edits = [] then env.editPaths edits = env
    else (env.editPaths edits).PathWritten := by
  induction edits generalizing env with
  | nil =>
      rfl
  | cons edit later inductionHypothesis =>
      obtain ⟨firstListable, laterListable⟩ := List.forall_mem_cons.mp listable
      have goesOn := inductionHypothesis (env.addPath edit.place edit.dir) laterListable
      rw [editPaths_cons, PathEdit.taken]
      cases listed : SearchList.lists env.pathEntries edit.dir with
      | true =>
          rwa [addPath_of_listed edit.place listed] at goesOn ⊢
      | false =>
          rw [if_neg Bool.false_ne_true, if_neg (List.cons_ne_nil _ _)]
          split at goesOn
          · rw [goesOn]
            exact pathWritten_addPath_of_new edit.place firstListable listed
          · exact goesOn

/-- Every directory that is a text is listed in the end, and no other is. -/
theorem lists_editPaths_iff
    (env : Environment)
    (listable : ∀ edit ∈ edits, SearchList.Listable edit.dir) :
    ∀ edit ∈ edits,
      SearchList.lists (env.editPaths edits).pathEntries edit.dir = true ↔ edit.dir.IsText := by
  induction edits generalizing env with
  | nil =>
      exact List.forall_mem_nil _
  | cons first later inductionHypothesis =>
      obtain ⟨firstListable, laterListable⟩ := List.forall_mem_cons.mp listable
      rw [editPaths_cons]
      refine List.forall_mem_cons.mpr ⟨⟨isText_of_lists, fun isText => ?_⟩,
        inductionHypothesis _ laterListable⟩
      -- It is listed at once, and the entries stay when later ones are added.
      have listedAtOnce := (lists_addPath_iff env first.place firstListable).mpr isText
      rw [pathEntries_editPaths _ laterListable, SearchList.lists_append,
        SearchList.lists_append, listedAtOnce, Bool.or_true, Bool.true_or]

/-- Edits of directories that are all listed change nothing. -/
theorem editPaths_of_listed
    (listed : ∀ edit ∈ edits, SearchList.lists env.pathEntries edit.dir = true) :
    env.editPaths edits = env := by
  induction edits with
  | nil =>
      rfl
  | cons first later inductionHypothesis =>
      obtain ⟨firstListed, laterListed⟩ := List.forall_mem_cons.mp listed
      rw [editPaths_cons, addPath_of_listed first.place firstListed,
        inductionHypothesis laterListed]

theorem var?_addPath_of_other
    (env : Environment)
    (place : SearchList.Place)
    (dir : Path)
    (other : Name.sameIgnoringCase Variable.path.name name = false) :
    (env.addPath place dir).var? name = env.var? name := by
  rw [addPath]
  split
  · rfl
  · simp only [var?, Delta.getNamed?]
    cases found : Variable.ofName? name with
    | none => rfl
    | some target =>
        have isOther : Variable.path ≠ target := by
          rintro rfl
          rw [Variable.sameIgnoringCase_of_ofName? found] at other
          cases other
        rw [Option.bind_some, Option.bind_some, Delta.get?_set, if_neg isOther]

/-- No variable but the search path is changed. -/
theorem var?_editPaths_of_other
    (env : Environment)
    (edits : List PathEdit)
    (other : Name.sameIgnoringCase Variable.path.name name = false) :
    (env.editPaths edits).var? name = env.var? name := by
  induction edits generalizing env with
  | nil =>
      rfl
  | cons first later inductionHypothesis =>
      rw [editPaths_cons, inductionHypothesis,
        var?_addPath_of_other env first.place first.dir other]

/--
What edits of a search path are to come to. The entries in the end are those that
were there at first, with the directories taken for the front before them in
reverse order and those taken for the back behind them in order; where none is
taken, nothing is changed.
-/
structure EditsKept (env : Environment) (edits : List PathEdit) : Prop where
  entries :
    (env.editPaths edits).pathEntries =
      (PathEdit.dirsAt .front (PathEdit.taken env.pathEntries edits)).reverse ++
        env.pathEntries ++
        PathEdit.dirsAt .back (PathEdit.taken env.pathEntries edits)
  written :
    if PathEdit.taken env.pathEntries edits = [] then env.editPaths edits = env
    else (env.editPaths edits).PathWritten
  /-- Every directory is listed. -/
  listed : ∀ edit ∈ edits, SearchList.lists (env.editPaths edits).pathEntries edit.dir = true
  /-- A directory is added only if it is not listed, -/
  new :
    ∀ edit ∈ PathEdit.taken env.pathEntries edits,
      SearchList.lists env.pathEntries edit.dir = false
  /-- and none is added twice. -/
  once :
    (PathEdit.taken env.pathEntries edits).Pairwise fun earlier later =>
      earlier.dir.sameAs later.dir = false
  others :
    ∀ name,
      Name.sameIgnoringCase Variable.path.name name = false →
        (env.editPaths edits).var? name = env.var? name
  /-- The same edits once more change nothing. -/
  again : (env.editPaths edits).editPaths edits = env.editPaths edits

private theorem map_shown_dirsAt
    (place : SearchList.Place)
    {taken : List PathEdit}
    (texts : ∀ edit ∈ taken, edit.dir.IsText) :
    (PathEdit.dirsAt place taken).map Path.shown = PathEdit.dirsAt place taken := by
  refine (List.map_congr_left fun dir member => ?_).trans (List.map_id _)
  obtain ⟨edit, chosen, rfl⟩ := List.mem_map.mp member
  exact Path.shown_eq_self_iff.mpr (texts edit (List.mem_of_mem_filter chosen))

theorem editsKept_of_isText
    (env : Environment)
    (listable : ∀ edit ∈ edits, SearchList.Listable edit.dir)
    (texts : ∀ edit ∈ edits, edit.dir.IsText) :
    EditsKept env edits := by
  have takenTexts : ∀ edit ∈ PathEdit.taken env.pathEntries edits, edit.dir.IsText :=
    fun edit member => texts edit (PathEdit.mem_of_mem_taken member)
  have listed := fun edit member =>
    (lists_editPaths_iff env listable edit member).mpr (texts edit member)
  have entries := pathEntries_editPaths env listable
  rw [map_shown_dirsAt .front takenTexts, map_shown_dirsAt .back takenTexts] at entries
  refine
    ⟨entries, editPaths_eq_or_written env listable, listed,
      fun edit => PathEdit.lists_eq_false_of_mem_taken, ?_,
      fun name => var?_editPaths_of_other env edits, editPaths_of_listed listed⟩
  refine (PathEdit.pairwise_taken env.pathEntries edits).imp_of_mem ?_
  intro earlier later isTaken _ apart
  rwa [Path.shown_eq_self_iff.mpr (takenTexts earlier isTaken)] at apart

/-- Edits at both ends; the first and the last but one name what is listed by then. -/
def crossingEdits : List PathEdit :=
  [⟨.back, "/opt/qt"⟩, ⟨.front, "/vc/bin"⟩, ⟨.back, "/new"⟩,
    ⟨.back, "/vc//bin/."⟩, ⟨.front, "/first"⟩]

/-- A directory with a letter of Latin-1 in its name, which is not UTF-8. -/
def accentedDir : Path :=
  ⟨Utf8.encode "/opt/caf".toList ++ [0xE9] ++ Utf8.encode "/bin".toList⟩

end Environment

end Provision
