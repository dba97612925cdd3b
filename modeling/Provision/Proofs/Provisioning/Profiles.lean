import Provision.Proofs.Disk.Files
import Provision.Proofs.Encoding.Utf8
import Provision.Proofs.Run.Steps
import Provision.Provisioning.Persistence

namespace Provision

/-!
# Profiles

A profile only grows, by whole lines at its end, and a line that it has is not
added again. So what it held stays where it was, every directory that was put on
the search path has one line unless it had more before, and to do it all again
changes nothing.
-/

namespace Disk

variable {disk : Disk} {dir : Location} {path : Path}

/-- What is added to a file stands behind what it held. -/
theorem append_of_hasFile
    {content : Bytes}
    {mode : Nat}
    (has : disk.HasFile dir path content mode)
    (added : Bytes) :
    ∃ after,
      disk.append dir path added = .ok after ∧
        after.HasFile dir path (content ++ added) mode := by
  have named := has.endsInSeparator_eq
  obtain ⟨place, located, found⟩ := has
  refine ⟨disk.put place (.file (content ++ added) mode), ?_, ?_⟩
  · simp only [append, update, named, Bool.false_eq_true, ↓reduceIte, bind, Except.bind,
      located, found]
  · exact hasFile_put located (by simp [found]) (by simp [found]) _ _

/-- Where there is room for a file, what is added is a new file. -/
theorem append_of_free
    {place : Location}
    (named : path.endsInSeparator = false)
    (located : disk.locate .followed dir path = .ok place)
    (free : disk.node? place = none)
    (added : Bytes) :
    ∃ after,
      disk.append dir path added = .ok after ∧
        after.HasFile dir path added createdMode := by
  refine ⟨disk.put place (.file added createdMode), ?_, ?_⟩
  · simp only [append, update, named, Bool.false_eq_true, ↓reduceIte, bind, Except.bind,
      located, free, List.nil_append]
  · exact hasFile_put located (by simp [free]) (by simp [free]) _ _

end Disk

namespace Persistence

/-! ## Lines of a profile -/

/-- Two lines differ at most in the white space at their ends. -/
def SameButEnd (line other : Text) : Prop :=
  line.rdropWhile Unicode.isWhitespace = other.rdropWhile Unicode.isWhitespace

/-- Every line of a profile is a line of another one, at the same place. -/
def KeepsLines (before after : Text) : Prop :=
  ∀ (place : Nat) (line : Text),
    before.lines[place]? = some line →
      ∃ kept, after.lines[place]? = some kept ∧ SameButEnd line kept

theorem KeepsLines.refl
    (profile : Text) :
    KeepsLines profile profile :=
  fun _ line present => ⟨line, present, rfl⟩

theorem KeepsLines.trans
    {first second third : Text}
    (keeps : KeepsLines first second)
    (goesOn : KeepsLines second third) :
    KeepsLines first third := by
  intro place line present
  obtain ⟨kept, presentThen, same⟩ := keeps place line present
  obtain ⟨still, presentNow, stillSame⟩ := goesOn place kept presentThen
  exact ⟨still, presentNow, same.trans stillSame⟩

/-- How often a profile has a line, white space around it not counted. -/
def countLine (profile : Text) (line : String) : Nat :=
  profile.lines.countP fun present => Text.trimBy Unicode.isWhitespace present == line.toList

theorem hasLine_iff
    {profile : Text}
    {line : String} :
    hasLine profile line = true ↔ 0 < countLine profile line := by
  rw [hasLine, countLine, List.any_eq_true, List.countP_pos_iff]

/-- A line that can be looked for: one line, with no white space around it. -/
structure IsEntry (line : String) : Prop where
  unbroken : '\n' ∉ line.toList
  trimmed : Text.trimBy Unicode.isWhitespace line.toList = line.toList
  endsInText : line.toList.getLast? ≠ some '\r'
  nonempty : line.toList ≠ []
  notMarker : line ≠ addedBy

theorem isEntry_exportLine
    {dir : Path}
    (unbroken : '\n' ∉ dir.chars) :
    IsEntry (exportLine dir) := by
  have shape :
      (exportLine dir).toList =
        "export PATH=\"$PATH:".toList ++ (dir.chars ++ ['"']) := by
    have quote : "\"".toList = ['"'] := rfl
    unfold exportLine
    simp only [String.toList_append, List.append_assoc, quote, Path.chars]
  have starts : (exportLine dir).toList.head? = some 'e' := by
    rw [shape]
    rfl
  have ends : (exportLine dir).toList.getLast? = some '"' := by
    rw [shape, ← List.append_assoc, List.getLast?_concat]
  refine ⟨?_, ?_, ?_, ?_, ?_⟩
  · rw [shape, List.mem_append, List.mem_append, not_or, not_or]
    exact ⟨by decide, unbroken, by decide⟩
  · have solid :
        Text.trimBy Unicode.isWhitespace ([] ++ ((exportLine dir).toList ++ [])) =
          (exportLine dir).toList :=
      Text.trimBy_margins (by rw [starts]; rintro c ⟨⟩; decide)
        (by rw [ends]; rintro c ⟨⟩; decide) (List.forall_mem_nil _) (List.forall_mem_nil _)
    simpa using solid
  · rw [ends]
    decide
  · intro empty
    rw [empty] at starts
    cases starts
  · intro isMarker
    rw [isMarker] at starts
    exact absurd starts (by decide)

/-- The lines that come with a new line of a profile. -/
def addedLines (line : String) : List Text :=
  [[], addedBy.toList, line.toList]

theorem dropReturn_eq_self
    {line : Text}
    (endsInText : line.getLast? ≠ some '\r') :
    Text.dropReturn line = line := by
  rw [Text.dropReturn, if_neg endsInText]

theorem sameButEnd_dropReturn
    (line : Text) :
    SameButEnd line (Text.dropReturn line) := by
  rw [SameButEnd, Text.dropReturn]
  split
  · rename_i endsInReturn
    obtain ⟨front, rfl⟩ := List.getLast?_eq_some_iff.mp endsInReturn
    rw [List.dropLast_concat, List.rdropWhile_concat_pos _ _ _ (by decide)]
  · rfl

/-- White space at the end of a line makes no difference to what is looked for. -/
theorem SameButEnd.trimBy_eq
    {line other : Text}
    (same : SameButEnd line other) :
    Text.trimBy Unicode.isWhitespace line = Text.trimBy Unicode.isWhitespace other := by
  have withoutEnd (text : Text) :
      Text.trimBy Unicode.isWhitespace text =
        Text.trimBy Unicode.isWhitespace (text.rdropWhile Unicode.isWhitespace) := by
    have whole :=
      List.rdropWhile_append_rtakeWhile (p := Unicode.isWhitespace) (l := text)
    conv_lhs => rw [← whole]
    exact Text.trimBy_append_blanks _ fun c member => List.mem_rtakeWhile_imp member
  rw [withoutEnd line, same, ← withoutEnd other]

theorem lines_addition
    {line : String}
    (entry : IsEntry line)
    (profile : Text) :
    (profile ++ addition profile line).lines = profile.lines ++ addedLines line ∨
      ∃ front last,
        profile.lines = front ++ [last] ∧
          (profile ++ addition profile line).lines =
            front ++ Text.dropReturn last :: addedLines line := by
  have added :
      Text.lines ("\n" ++ addedBy ++ "\n" ++ line ++ "\n").toList = addedLines line := by
    have shape :
        ("\n" ++ addedBy ++ "\n" ++ line ++ "\n").toList =
          [] ++ '\n' :: (addedBy.toList ++ '\n' :: (line.toList ++ '\n' :: [])) := by
      simp
    rw [shape, Text.lines_append_cons _ (by decide), Text.lines_append_cons _ (by decide),
      Text.lines_append_cons _ entry.unbroken, dropReturn_eq_self entry.endsInText]
    rfl
  obtain ⟨front, last, whole, ends, unbroken⟩ := Text.exists_openLine profile
  by_cases closed : last = []
  · -- No line is open, so nothing has to be closed first.
    subst closed
    rw [List.append_nil] at whole
    subst whole
    have nothing : (profile.isEmpty || profile.getLast? == some '\n') = true := by
      simpa [Text.EndsLine, List.isEmpty_iff] using ends
    rw [addition, if_pos nothing, List.nil_append, Text.lines_append_of_endsLine ends, added]
    exact .inl rfl
  · have isOpen : (profile.isEmpty || profile.getLast? == some '\n') = false := by
      have endsInText : profile.getLast? = last.getLast? := by
        rw [whole, List.getLast?_append, List.getLast?_eq_some_getLast closed,
          Option.some_or]
      have noFeed : last.getLast? ≠ some '\n' :=
        fun isFeed => unbroken (List.mem_of_getLast? isFeed)
      rw [endsInText, whole]
      simp [closed, noFeed]
    have lines : profile.lines = front.lines ++ [last] := by
      rw [whole, Text.lines_append_of_endsLine ends, Text.lines_of_notMem unbroken,
        if_neg (by simpa using closed)]
    refine .inr ⟨front.lines, last, lines, ?_⟩
    rw [addition, isOpen, if_neg Bool.false_ne_true, whole, List.append_assoc,
      List.singleton_append, Text.lines_append_of_endsLine ends,
      Text.lines_append_cons _ unbroken, added]

theorem keepsLines_addition
    {line : String}
    (entry : IsEntry line)
    (profile : Text) :
    KeepsLines profile (profile ++ addition profile line) := by
  intro place present isLine
  rcases lines_addition entry profile with lines | ⟨front, last, before, after⟩
  · refine ⟨present, ?_, rfl⟩
    rw [lines, List.getElem?_append_left (List.getElem?_eq_some_iff.mp isLine).1, isLine]
  · rw [before] at isLine
    rw [after]
    by_cases early : place < front.length
    · rw [List.getElem?_append_left early] at isLine
      exact ⟨present, by rw [List.getElem?_append_left early, isLine], rfl⟩
    · have isLast : place = front.length := by
        have bounded := (List.getElem?_eq_some_iff.mp isLine).1
        rw [List.length_append, List.length_singleton] at bounded
        omega
      subst isLast
      rw [List.getElem?_concat_length, Option.some.injEq] at isLine
      subst isLine
      exact ⟨Text.dropReturn last, by simp, sameButEnd_dropReturn last⟩

theorem countLine_addition
    {line other : String}
    (entry : IsEntry line)
    (otherEntry : IsEntry other)
    (profile : Text) :
    countLine (profile ++ addition profile line) other =
      countLine profile other + if line = other then 1 else 0 := by
  have new :
      (addedLines line).countP (fun present =>
          Text.trimBy Unicode.isWhitespace present == other.toList) =
        if line = other then 1 else 0 := by
    have marker : Text.trimBy Unicode.isWhitespace addedBy.toList = addedBy.toList := by
      decide
    have notEmpty : ([] : Text) ≠ other.toList := otherEntry.nonempty.symm
    have notMarker : addedBy.toList ≠ other.toList := fun same =>
      otherEntry.notMarker (String.toList_inj.mp same).symm
    have nothing : Text.trimBy Unicode.isWhitespace [] = [] := rfl
    simp only [addedLines, List.countP_cons, List.countP_nil, nothing, marker, entry.trimmed,
      beq_iff_eq, notEmpty, notMarker, String.toList_inj, if_false, Nat.zero_add,
      Nat.add_zero]
  rw [countLine, countLine]
  rcases lines_addition entry profile with lines | ⟨front, last, before, after⟩
  · rw [lines, List.countP_append, new]
  · have sameLast := (sameButEnd_dropReturn last).trimBy_eq
    rw [before, after, List.countP_append, List.countP_cons, new, List.countP_append,
      List.countP_singleton, sameLast]
    omega

/-- A profile with a line, which was added unless it was there. -/
def extended (profile : Text) (line : String) : Text :=
  if hasLine profile line then profile else profile ++ addition profile line

theorem prefix_extended
    (profile : Text)
    (line : String) :
    profile <+: extended profile line := by
  rw [extended]
  split
  · exact List.prefix_rfl
  · exact List.prefix_append _ _

theorem keepsLines_extended
    {line : String}
    (entry : IsEntry line)
    (profile : Text) :
    KeepsLines profile (extended profile line) := by
  rw [extended]
  split
  · exact .refl profile
  · exact keepsLines_addition entry profile

/-- A line that is looked for is there once, unless it was there more often. -/
theorem countLine_extended
    {line other : String}
    (entry : IsEntry line)
    (otherEntry : IsEntry other)
    (profile : Text) :
    countLine (extended profile line) other =
      if line = other then max 1 (countLine profile other)
      else countLine profile other := by
  rw [extended]
  by_cases present : hasLine profile line = true
  · have positive := hasLine_iff.mp present
    rw [if_pos present]
    split
    · rename_i same
      rw [← same]
      omega
    · rfl
  · have absent : countLine profile line = 0 := by
      have notPositive := mt hasLine_iff.mpr present
      omega
    rw [if_neg present, countLine_addition entry otherEntry]
    split
    · rename_i same
      rw [← same, absent]
      rfl
    · rfl

/-- A profile with several lines, each of which was added unless it was there. -/
def extendedBy (profile : Text) (lines : List String) : Text :=
  lines.foldl extended profile

section Lists

variable {lines : List String}

theorem prefix_extendedBy
    (profile : Text)
    (lines : List String) :
    profile <+: extendedBy profile lines := by
  induction lines generalizing profile with
  | nil =>
      exact List.prefix_rfl
  | cons line lines inductionHypothesis =>
      exact (prefix_extended profile line).trans (inductionHypothesis _)

theorem keepsLines_extendedBy
    (entries : ∀ line ∈ lines, IsEntry line)
    (profile : Text) :
    KeepsLines profile (extendedBy profile lines) := by
  induction lines generalizing profile with
  | nil =>
      exact .refl profile
  | cons line lines inductionHypothesis =>
      obtain ⟨entry, rest⟩ := List.forall_mem_cons.mp entries
      exact (keepsLines_extended entry profile).trans (inductionHypothesis rest _)

theorem countLine_extendedBy
    {other : String}
    (entries : ∀ line ∈ lines, IsEntry line)
    (otherEntry : IsEntry other)
    (profile : Text) :
    countLine (extendedBy profile lines) other =
      if other ∈ lines then max 1 (countLine profile other)
      else countLine profile other := by
  induction lines generalizing profile with
  | nil =>
      rfl
  | cons line lines inductionHypothesis =>
      obtain ⟨entry, rest⟩ := List.forall_mem_cons.mp entries
      have later := inductionHypothesis rest (extended profile line)
      rw [countLine_extended entry otherEntry] at later
      rw [extendedBy, List.foldl_cons, ← extendedBy, later]
      by_cases isLine : line = other
      · subst isLine
        rw [if_pos rfl, if_pos List.mem_cons_self, ← max_assoc, max_self, ite_self]
      · simp [isLine, Ne.symm isLine]

/-- All lines that were added are there. -/
theorem hasLine_extendedBy
    {line : String}
    (entries : ∀ line ∈ lines, IsEntry line)
    (member : line ∈ lines)
    (profile : Text) :
    hasLine (extendedBy profile lines) line = true := by
  rw [hasLine_iff, countLine_extendedBy entries (entries line member), if_pos member]
  omega

end Lists

/-! ## Calls -/

/-- The text that a profile holds: that of its file, or none if there is room for one. -/
inductive Holds (disk : Disk) (dir : Location) (profile : Path) : Text → Prop where
  | file
      {text : Text}
      {mode : Nat}
      (has : disk.HasFile dir profile (Utf8.encode text) mode) :
      Holds disk dir profile text
  | missing
      {place : Location}
      (named : profile.endsInSeparator = false)
      (located : disk.locate .followed dir profile = .ok place)
      (free : disk.node? place = none) :
      Holds disk dir profile []

section Calls

variable {machine : Machine} {world : World} {profile : Path} {text : Text}

theorem Holds.readProfile_eq
    {disk : Disk}
    {dir : Location}
    (holds : Holds disk dir profile text) :
    readProfile disk dir profile = .ok text := by
  cases holds with
  | file has =>
      simp only [readProfile, has.read_eq, Utf8.decode?_encode]
  | missing named located free =>
      simp only [readProfile, Disk.read, Disk.file, bind, Except.bind, located, free]

/-- What is added to a profile stands behind its text, in a file. -/
theorem Holds.append
    {disk : Disk}
    {dir : Location}
    (holds : Holds disk dir profile text)
    (added : Text) :
    ∃ after mode,
      disk.append dir profile (Utf8.encode added) = .ok after ∧
        after.HasFile dir profile (Utf8.encode (text ++ added)) mode := by
  cases holds with
  | file has =>
      obtain ⟨after, appends, hasThen⟩ :=
        Disk.append_of_hasFile has (Utf8.encode added)
      exact ⟨after, _, appends, by rwa [Utf8.encode_append]⟩
  | missing named located free =>
      obtain ⟨after, appends, hasThen⟩ :=
        Disk.append_of_free named located free (Utf8.encode added)
      exact ⟨after, _, appends, hasThen⟩

/-- The file of a profile that got longer is another one than before. -/
theorem Holds.file_ne
    {before after : Disk}
    {dir : Location}
    {added : Text}
    {mode : Nat}
    (holds : Holds before dir profile text)
    (has : after.HasFile dir profile (Utf8.encode (text ++ added)) mode)
    (nonempty : added ≠ []) :
    after.file dir profile ≠ before.file dir profile := by
  rw [has.file_eq]
  cases holds with
  | file had =>
      rw [had.file_eq]
      intro same
      have sameBytes := congrArg Prod.fst (Except.ok.inj same)
      have sameText := congrArg Utf8.decode? sameBytes
      simp only [Utf8.decode?_encode, Option.some.injEq, List.append_right_eq_self]
        at sameText
      exact nonempty sameText
  | missing named located free =>
      simp [Disk.file, bind, Except.bind, located, free]

theorem addition_ne_nil
    (profile : Text)
    (line : String) :
    addition profile line ≠ [] := by
  simp [addition]

/-- A call adds the line unless it is there, and says whether it did. -/
theorem exec_appendIfAbsent
    (allowed : ∀ step, machine.refusal step = none)
    (holds : Holds world.disk machine.directory profile text)
    (line : String) :
    ∃ after,
      (appendIfAbsent profile line).exec machine world =
          (.ok (!hasLine text line), after) ∧
        Holds after.disk machine.directory profile (extended text line) ∧
        (hasLine text line = true → after.disk = world.disk) ∧
        (hasLine text line = false →
          after.disk.file machine.directory profile ≠
            world.disk.file machine.directory profile) := by
  have reads :
      (Run.readStep fun disk dir => readProfile disk dir profile).exec machine world =
        (.ok text, Run.stepped world) := by
    rw [Run.exec_readStep (allowed _), holds.readProfile_eq]
  simp only [appendIfAbsent, Attempt.exec_bind, Attempt.exec_orFail, reads,
    Except.mapError, extended]
  cases present : hasLine text line with
  | true =>
      exact ⟨Run.stepped world, rfl, holds, fun _ => rfl, nofun⟩
  | false =>
      obtain ⟨disk, mode, appends, has⟩ := holds.append (addition text line)
      have writes :
          (Run.writeStep fun disk dir =>
              disk.append dir profile (Utf8.encode (addition text line))).exec machine
                (Run.stepped world) =
            (.ok (), { Run.stepped (Run.stepped world) with disk := disk }) :=
        Run.exec_writeStep_ok (allowed _) appends
      simp only [Bool.false_eq_true, if_false, Attempt.exec_bind, Attempt.exec_orFail, writes,
        Except.mapError, Attempt.exec_pure, Bool.not_false]
      exact
        ⟨_, rfl, .file has, nofun, fun _ => holds.file_ne has (addition_ne_nil text line)⟩

/-- A profile that is no text is not read, and stays as it is. -/
theorem exec_appendIfAbsent_of_notText
    {bytes : Bytes}
    {mode : Nat}
    (allowed : ∀ step, machine.refusal step = none)
    (has : world.disk.HasFile machine.directory profile bytes mode)
    (notText : Utf8.decode? bytes = none)
    (line : String) :
    (appendIfAbsent profile line).exec machine world =
      (.error (.fileUnreadable profile.text SystemError.notText.message),
        Run.stepped world) := by
  have reads :
      (Run.readStep fun disk dir => readProfile disk dir profile).exec machine world =
        (.error .notText, Run.stepped world) := by
    rw [Run.exec_readStep (allowed _)]
    simp only [readProfile, has.read_eq, notText]
  simp only [appendIfAbsent, Attempt.exec_bind, Attempt.exec_orFail, reads, Except.mapError]

/--
Directories are put on the search path by a profile, one after the other. Answers
which of them changed the profile.
-/
def appendAll (profile : Path) (dirs : List Path) : Attempt (List Bool) :=
  dirs.mapM fun dir => appendIfAbsent profile (exportLine dir)

/-- Which of some lines are new to a profile when they are added in turn. -/
def newLines (profile : Text) : List String → List Bool
  | [] => []
  | line :: rest => (!hasLine profile line) :: newLines (extended profile line) rest

theorem length_newLines
    (profile : Text)
    (lines : List String) :
    (newLines profile lines).length = lines.length := by
  induction lines generalizing profile with
  | nil => rfl
  | cons line lines inductionHypothesis =>
      exact congrArg Nat.succ (inductionHypothesis _)

theorem newLines_append
    (profile : Text)
    (front back : List String) :
    newLines profile (front ++ back) =
      newLines profile front ++ newLines (extendedBy profile front) back := by
  induction front generalizing profile with
  | nil => rfl
  | cons line front inductionHypothesis =>
      exact congrArg ((!hasLine profile line) :: ·) (inductionHypothesis _)

/-- One call, and those behind it. -/
theorem exec_appendAll_cons
    {between after : World}
    {dir : Path}
    {dirs : List Path}
    {changed : Bool}
    {answers : List Bool}
    (calls :
      (appendIfAbsent profile (exportLine dir)).exec machine world = (.ok changed, between))
    (goesOn : (appendAll profile dirs).exec machine between = (.ok answers, after)) :
    (appendAll profile (dir :: dirs)).exec machine world =
      (.ok (changed :: answers), after) := by
  rw [appendAll, List.mapM_cons, Attempt.exec_bind, calls]
  dsimp only
  rw [Attempt.exec_bind, ← appendAll, goesOn]
  rfl

/-- What calls in turn come to. -/
theorem exec_appendAll
    (allowed : ∀ step, machine.refusal step = none)
    (holds : Holds world.disk machine.directory profile text)
    (dirs : List Path) :
    ∃ after,
      (appendAll profile dirs).exec machine world =
          (.ok (newLines text (dirs.map exportLine)), after) ∧
        Holds after.disk machine.directory profile
          (extendedBy text (dirs.map exportLine)) := by
  induction dirs generalizing world text with
  | nil =>
      exact ⟨world, rfl, holds⟩
  | cons dir dirs inductionHypothesis =>
      obtain ⟨between, adds, holdsThen, -⟩ :=
        exec_appendIfAbsent allowed holds (exportLine dir)
      obtain ⟨after, addsRest, holdsNow⟩ := inductionHypothesis holdsThen
      exact ⟨after, exec_appendAll_cons adds addsRest, holdsNow⟩

/-- Calls whose lines are all there change nothing. -/
theorem exec_appendAll_of_present
    {dirs : List Path}
    (allowed : ∀ step, machine.refusal step = none)
    (holds : Holds world.disk machine.directory profile text)
    (present : ∀ dir ∈ dirs, hasLine text (exportLine dir) = true) :
    ∃ after,
      (appendAll profile dirs).exec machine world =
          (.ok (dirs.map fun _ => false), after) ∧
        after.disk = world.disk := by
  induction dirs generalizing world with
  | nil =>
      exact ⟨world, rfl, rfl⟩
  | cons dir dirs inductionHypothesis =>
      obtain ⟨isThere, restThere⟩ := List.forall_mem_cons.mp present
      obtain ⟨between, adds, holdsThen, unchanged, -⟩ :=
        exec_appendIfAbsent allowed holds (exportLine dir)
      rw [extended, if_pos isThere] at holdsThen
      rw [isThere] at adds
      obtain ⟨after, addsRest, unchangedRest⟩ := inductionHypothesis holdsThen restThere
      exact
        ⟨after, exec_appendAll_cons adds addsRest, unchangedRest.trans (unchanged isThere)⟩

/--
Directories that are put on the search path by a profile, one after the other,
leave what it held at its beginning, with every line at its place. Each of them
has one line then, or as many as before. A call says whether it changed the file,
and to do it all again changes nothing. A profile that is no text stays as it is,
which is reported.
-/
theorem appendAll_additive
    (machine : Machine)
    (world : World)
    (profile : Path)
    (allowed : ∀ step, machine.refusal step = none) :
    (∀ text dirs,
      Holds world.disk machine.directory profile text →
        (∀ dir ∈ dirs, '\n' ∉ dir.chars) →
          ∃ answers after grown again,
            (appendAll profile dirs).exec machine world = (.ok answers, after) ∧
              Holds after.disk machine.directory profile grown ∧
              text <+: grown ∧
              KeepsLines text grown ∧
              (∀ dir ∈ dirs,
                countLine grown (exportLine dir) =
                  max 1 (countLine text (exportLine dir))) ∧
              (∀ earlier dir later,
                dirs = earlier ++ dir :: later →
                  let before := ((appendAll profile earlier).exec machine world).2
                  ∃ changed behind,
                    (appendIfAbsent profile (exportLine dir)).exec machine before =
                        (.ok changed, behind) ∧
                      answers[earlier.length]? = some changed ∧
                      (changed = true ↔
                        behind.disk.file machine.directory profile ≠
                          before.disk.file machine.directory profile)) ∧
              (appendAll profile dirs).exec machine after =
                (.ok (dirs.map fun _ => false), again) ∧
              again.disk = after.disk) ∧
      ∀ bytes mode line,
        world.disk.HasFile machine.directory profile bytes mode →
          Utf8.decode? bytes = none →
            ∃ after,
              (appendIfAbsent profile line).exec machine world =
                  (.error (.fileUnreadable profile.text SystemError.notText.message),
                    after) ∧
                after.disk = world.disk := by
  constructor
  · intro text dirs holds unbroken
    have entries : ∀ line ∈ dirs.map exportLine, IsEntry line := by
      intro line member
      obtain ⟨dir, isDir, rfl⟩ := List.mem_map.mp member
      exact isEntry_exportLine (unbroken dir isDir)
    have isLine {dir : Path} (member : dir ∈ dirs) :
        exportLine dir ∈ dirs.map exportLine :=
      List.mem_map_of_mem member
    obtain ⟨after, adds, holdsThen⟩ := exec_appendAll allowed holds dirs
    obtain ⟨again, addsAgain, unchanged⟩ :=
      exec_appendAll_of_present allowed holdsThen fun dir member =>
        hasLine_extendedBy entries (isLine member) text
    refine
      ⟨_, after, _, again, adds, holdsThen, prefix_extendedBy _ _,
        keepsLines_extendedBy entries _, ?_, ?_, addsAgain, unchanged⟩
    · intro dir member
      rw [countLine_extendedBy entries (entries _ (isLine member)), if_pos (isLine member)]
    · rintro earlier dir later rfl before
      obtain ⟨reached, addsEarlier, holdsBefore⟩ := exec_appendAll allowed holds earlier
      have isReached : before = reached := congrArg Prod.snd addsEarlier
      subst isReached
      obtain ⟨behind, calls, -, unchangedThen, changedThen⟩ :=
        exec_appendIfAbsent allowed holdsBefore (exportLine dir)
      refine ⟨_, behind, calls, ?_, ?_⟩
      · rw [List.map_append, newLines_append,
          List.getElem?_append_right (by simp [length_newLines])]
        simp [length_newLines, newLines]
      · cases present :
            hasLine (extendedBy text (earlier.map exportLine)) (exportLine dir) with
        | true => simp [unchangedThen present]
        | false => simpa using changedThen present
  · intro bytes mode line has notText
    exact ⟨_, exec_appendIfAbsent_of_notText allowed has notText line, rfl⟩

end Calls

/-- The profile in the working directory. -/
def plainProfile : Path :=
  ".bashrc"

/-- A world that holds a profile and nothing else. -/
def profileWorld (bytes : Bytes) : World where
  disk := ⟨[([".bashrc"], .file bytes 0o644)]⟩
  environment := .empty

/-- A profile whose last line is open, and whose first line is written with a margin. -/
def openProfile : Text :=
  "  export PATH=\"$PATH:/opt/qt/bin\"\r\nalias ll='ls -l' \r".toList

/-- Directories for the search path; the first one is in the profile. -/
def qtDirs : List Path :=
  ["/opt/qt/bin", "/home/u v/Qt/bin", "/opt/qt/bin"]

/--
Three directories are put on the search path by the open profile: each has one line
in the end, and to do it again changes nothing. Bytes that are no text stay as they are.
-/
theorem openProfile_additive :
    (∃ answers after grown again,
      (appendAll plainProfile qtDirs).exec .idle
            (profileWorld (Utf8.encode openProfile)) = (.ok answers, after) ∧
        Holds after.disk [] plainProfile grown ∧
        openProfile <+: grown ∧
        KeepsLines openProfile grown ∧
        (∀ dir ∈ qtDirs, countLine grown (exportLine dir) = 1) ∧
        (appendAll plainProfile qtDirs).exec .idle after =
          (.ok [false, false, false], again) ∧
        again.disk = after.disk) ∧
      ∃ after,
        (appendIfAbsent plainProfile (exportLine "/opt/qt/bin")).exec .idle
            (profileWorld [0xFF]) =
          (.error (.fileUnreadable ".bashrc" SystemError.notText.message), after) ∧
        after.disk = (profileWorld [0xFF]).disk := by
  have hasProfile (bytes : Bytes) :
      (profileWorld bytes).disk.HasFile [] plainProfile bytes 0o644 :=
    ⟨[".bashrc"], by rfl, by rfl⟩
  obtain ⟨added, -⟩ :=
    appendAll_additive .idle (profileWorld (Utf8.encode openProfile)) plainProfile
      fun _ => rfl
  obtain ⟨-, kept⟩ :=
    appendAll_additive .idle (profileWorld [0xFF]) plainProfile fun _ => rfl
  obtain ⟨answers, after, grown, again, adds, holds, begins, keeps, counted, -, addsAgain,
      unchanged⟩ :=
    added openProfile qtDirs (.file (hasProfile _)) (by decide)
  refine
    ⟨⟨answers, after, grown, again, adds, holds, begins, keeps, ?_, addsAgain, unchanged⟩,
      kept [0xFF] _ _ (hasProfile _) (by decide +kernel)⟩
  intro dir member
  have before :
      ∀ dir ∈ qtDirs, max 1 (countLine openProfile (exportLine dir)) = 1 := by
    decide +kernel
  rw [counted dir member, before dir member]

end Persistence

end Provision
