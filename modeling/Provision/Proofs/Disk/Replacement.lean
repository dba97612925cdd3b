import Provision.Proofs.Disk.Files

namespace Provision.Disk

/-!
# Files that take the place of others

New contents are prepared in a spare file, at a place where nothing was, so
that all other paths lead where they led. Then the spare file takes the place
that a path names; from then on the path leads to it. When this is given up,
every file that was there is still there.
-/

/-- At most a file was added, at a place where nothing was. -/
structure Beside (before after : Disk) (place : Location) : Prop where
  free : before.node? place = none
  spare :
    after.node? place = none ∨
      ∃ content mode, after.node? place = some (.file content mode)
  elsewhere :
    ∀ other, other ≠ place → after.node? other = before.node? other

namespace Beside

variable {before after : Disk} {place : Location}

theorem ne_root
    (beside : Beside before after place) :
    place ≠ [] := by
  rintro rfl
  simpa using beside.free

theorem notDirectory
    (beside : Beside before after place) :
    after.node? place ≠ some .directory := by
  rcases beside.spare with none | ⟨content, mode, file⟩
  · simp [none]
  · simp [file]

theorem noLink
    (beside : Beside before after place)
    (target : Path) :
    after.node? place ≠ some (.link target) := by
  rcases beside.spare with none | ⟨content, mode, file⟩
  · simp [none]
  · simp [file]

theorem sameWays
    (beside : Beside before after place) :
    SameWays before after where
  directory location := by
    by_cases isPlace : location = place
    · subst isPlace
      simp [beside.free, beside.notDirectory]
    · rw [beside.elsewhere location isPlace]
  link location target := by
    by_cases isPlace : location = place
    · subst isPlace
      simp [beside.free, beside.noLink]
    · rw [beside.elsewhere location isPlace]

/-- Every file that was there is still there. -/
theorem hasFile
    {dir : Location}
    {path : Path}
    {content : Bytes}
    {mode : Nat}
    (beside : Beside before after place)
    (has : before.HasFile dir path content mode) :
    after.HasFile dir path content mode := by
  obtain ⟨target, located, found⟩ := has
  obtain ⟨lookedUp, leads⟩ := locate_eq_ok_iff.mp located
  have notSpare : target ≠ place := by
    rintro rfl
    rw [beside.free] at found
    cases found
  refine ⟨target, locate_eq_ok_iff.mpr ⟨lookedUp, leads.of_sameWays beside.sameWays⟩, ?_⟩
  rw [beside.elsewhere target notSpare]
  exact found

/-- Nothing is stored below the place of a spare file. -/
theorem eq_of_prefix
    {other : Location}
    (beside : Beside before after place)
    (rooted : before.Rooted)
    (below : place <+: other)
    (stored : before.node? other ≠ none) :
    other = place :=
  rooted.eq_of_prefix (by simp [beside.free]) below stored

/-- Once the spare file is removed, all is as before. -/
theorem node?_remove_spare
    (beside : Beside before after place)
    (rooted : before.Rooted)
    (other : Location) :
    (after.remove place).node? other = before.node? other := by
  by_cases isRoot : other = []
  · subst isRoot
    simp
  · rw [node?_remove isRoot]
    split
    · rename_i below
      by_cases stored : before.node? other = none
      · exact stored.symm
      · have isPlace := beside.eq_of_prefix rooted below stored
        exact (stored (isPlace ▸ beside.free)).elim
    · rename_i notBelow
      refine beside.elsewhere other ?_
      rintro rfl
      exact notBelow List.prefix_rfl

theorem remove
    (beside : Beside before after place)
    (rooted : before.Rooted) :
    Beside before (after.remove place) place where
  free := beside.free
  spare := .inl ((beside.node?_remove_spare rooted place).trans beside.free)
  elsewhere other _ := beside.node?_remove_spare rooted other

end Beside

/-- A file was added, at a place where nothing was. -/
structure Spare (before after : Disk) (place : Location) (content : Bytes)
    (mode : Nat) : Prop where
  beside : Beside before after place
  holds : after.node? place = some (.file content mode)

theorem Beside.put
    {before after : Disk}
    {place : Location}
    (beside : Beside before after place)
    (content : Bytes)
    (mode : Nat) :
    Spare before (after.put place (.file content mode)) place content mode := by
  have holds :
      (after.put place (.file content mode)).node? place =
        some (.file content mode) := by
    rw [node?_put beside.ne_root, if_pos rfl]
  refine ⟨⟨beside.free, .inr ⟨content, mode, holds⟩, ?_⟩, holds⟩
  intro other notPlace
  rw [node?_put beside.ne_root, if_neg notPlace, beside.elsewhere other notPlace]

/-- A path under which a spare file can be reached, if anything can. -/
structure NamesSpare (before : Disk) (dir : Location) (temporary : Path)
    (place : Location) : Prop where
  free : before.node? place = none
  unique :
    ∀ (after : Disk) (last : LastLink) (reached : Location),
      Beside before after place →
        after.locate last dir temporary = .ok reached → reached = place

/-- A path that ends in a name leads into the directory before the name. -/
private theorem Leads.enter_unique
    {disk : Disk}
    {last : LastLink}
    {links otherLinks : Nat}
    {location directory place : Location}
    {front : List PathStep}
    {name : FileName}
    (toDirectory :
      Leads disk .followed links location front directory ∨
        Leads disk .followed links location (front ++ [.stay]) directory)
    (leads : Leads disk last otherLinks location (front ++ [.enter name]) place)
    (noLink : ∀ target, disk.node? (directory ++ [name]) ≠ some (.link target)) :
    place = directory ++ [name] := by
  obtain ⟨between, toBetween, onward⟩ := leads.split (by simp)
  have isDirectory : between = directory := by
    rcases toDirectory with direct | staying
    · exact toBetween.unique direct
    · obtain ⟨middle, toMiddle, stays⟩ := staying.split (by simp)
      cases stays with
      | stay _ arrives =>
          cases arrives
          exact toBetween.unique toMiddle
  subst isDirectory
  cases onward with
  | enter _ _ _ arrives =>
      cases arrives
      rfl
  | keep => rfl
  | follow _ _ isLink _ _ _ => exact (noLink _ isLink).elim

variable {before after : Disk} {dir place : Location} {temporary : Path}

/-- A temporary file is created where nothing was. -/
theorem createTemporary_ok
    {directory : Path}
    (created : before.createTemporary dir directory = .ok (temporary, after)) :
    ∃ place,
      NamesSpare before dir temporary place ∧
        Spare before after place [] temporaryMode := by
  simp only [createTemporary, bind, Except.bind] at created
  split at created
  · cases created
  · rename_i location located
    split at created
    · cases created
      obtain ⟨lookedUp, leads⟩ := locate_eq_ok_iff.mp located
      have free := node?_eq_none_of_notMem_names (freshName_notMem (before.names location))
      have untouched :
          Beside before before (location ++ [freshName (before.names location)]) :=
        ⟨free, .inl free, fun _ _ => rfl⟩
      refine ⟨location ++ [freshName (before.names location)], ⟨free, ?_⟩,
        untouched.put [] temporaryMode⟩
      · intro other last reached beside arrives
        obtain ⟨-, arriving⟩ := locate_eq_ok_iff.mp arrives
        obtain ⟨sameStart, front, steps, childSteps⟩ :=
          Path.steps_child lookedUp.nonempty
            (isPlainName_freshName (before.names location))
        rw [startOf, sameStart, childSteps] at arriving
        have toDirectory := leads.of_sameWays beside.sameWays
        rcases steps with same | same
        · rw [same] at toDirectory
          exact Leads.enter_unique (.inl toDirectory) arriving beside.noLink
        · rw [same] at toDirectory
          exact Leads.enter_unique (.inr toDirectory) arriving beside.noLink
    · cases created
    · cases created

namespace NamesSpare

variable {next : Disk} {oldContent : Bytes} {oldMode : Nat}

theorem write_ok
    {content : Bytes}
    (names : NamesSpare before dir temporary place)
    (spare : Spare before after place oldContent oldMode)
    (written : after.write dir temporary content = .ok next) :
    Spare before next place content oldMode := by
  simp only [write, update, bind, Except.bind] at written
  split at written
  · cases written
  · cases located : after.locate .followed dir temporary with
    | error reason =>
        simp [located] at written
    | ok reached =>
        obtain rfl := names.unique after .followed reached spare.beside located
        simp only [located, spare.holds, Except.ok.injEq] at written
        exact written ▸ spare.beside.put content oldMode

theorem setMode_ok
    {mode : Nat}
    (names : NamesSpare before dir temporary place)
    (spare : Spare before after place oldContent oldMode)
    (given : after.setMode dir temporary mode = .ok next) :
    Spare before next place oldContent mode := by
  simp only [setMode, bind, Except.bind] at given
  cases located : after.locate .followed dir temporary with
  | error reason =>
      simp [located] at given
  | ok reached =>
      obtain rfl := names.unique after .followed reached spare.beside located
      simp only [located, spare.holds, Except.ok.injEq] at given
      exact given ▸ spare.beside.put oldContent mode

theorem removeFile_ok
    (names : NamesSpare before dir temporary place)
    (beside : Beside before after place)
    (removed : after.removeFile dir temporary = .ok next) :
    next = after.remove place := by
  simp only [removeFile, bind, Except.bind] at removed
  cases located : after.locate .kept dir temporary with
  | error reason =>
      simp [located] at removed
  | ok reached =>
      obtain rfl := names.unique after .kept reached beside located
      simp only [located] at removed
      split at removed
      · cases removed
      · cases removed
      · cases removed
        rfl

end NamesSpare

/-- A file takes the place that a path names; nothing else changes. -/
structure TakesPlace (before after : Disk) (dir : Location) (path : Path)
    (place : Location) (content : Bytes) (mode : Nat) : Prop where
  named : before.locate .kept dir path = .ok place
  stored : before.node? place ≠ none
  notDirectory : before.node? place ≠ some .directory
  here : after.node? place = some (.file content mode)
  elsewhere :
    ∀ other, other ≠ place → after.node? other = before.node? other

namespace TakesPlace

variable {path : Path} {content oldContent : Bytes} {mode oldMode : Nat}

/-- The path leads to the file that took its place. -/
theorem hasFile
    (takes : TakesPlace before after dir path place content mode)
    (had : before.HasFile dir path oldContent oldMode) :
    after.HasFile dir path content mode := by
  obtain ⟨target, located, found⟩ := had
  obtain ⟨lookedUp, followed⟩ := locate_eq_ok_iff.mp located
  obtain ⟨-, leads⟩ := locate_eq_ok_iff.mp takes.named
  refine ⟨place, locate_eq_ok_iff.mpr ⟨lookedUp, ?_⟩, takes.here⟩
  exact leads.of_replaced takes.elsewhere (by simp [takes.here])
    takes.notDirectory followed (by simp [found]) (by simp [found])

theorem rooted
    (takes : TakesPlace before after dir path place content mode)
    (before_rooted : before.Rooted) :
    after.Rooted := by
  have stillDirectory :
      ∀ other, before.node? other = some .directory →
        after.node? other = some .directory := by
    intro other isDirectory
    rw [takes.elsewhere other fun same => takes.notDirectory (same ▸ isDirectory)]
    exact isDirectory
  intro other stored
  by_cases isPlace : other = place
  · subst isPlace
    exact stillDirectory _ (before_rooted other takes.stored)
  · rw [takes.elsewhere other isPlace] at stored
    exact stillDirectory _ (before_rooted other stored)

end TakesPlace

/-- Where a path leads to a file, something stands at the place that it names. -/
private theorem HasFile.stored_of_kept
    {disk : Disk}
    {path : Path}
    {content : Bytes}
    {mode : Nat}
    (had : disk.HasFile dir path content mode)
    (named : disk.locate .kept dir path = .ok place) :
    disk.node? place ≠ none := by
  intro nothing
  obtain ⟨target, located, found⟩ := had
  obtain ⟨-, followed⟩ := locate_eq_ok_iff.mp located
  obtain ⟨-, leads⟩ := locate_eq_ok_iff.mp named
  -- Nothing is no link, so the path leads there when links are followed as well.
  have alsoHere : Leads disk .followed linkLimit (startOf dir path) path.steps place :=
    leads.of_replaced (fun _ _ => rfl) (by simp [nothing]) (by simp [nothing])
      followed (by simp [found]) (by simp [found])
  rw [← followed.unique alsoHere, found] at nothing
  cases nothing

/-- A spare file that is renamed takes the place of the file at a path. -/
theorem NamesSpare.rename_ok
    {final : Disk}
    {path : Path}
    {content oldContent : Bytes}
    {mode oldMode : Nat}
    (names : NamesSpare before dir temporary place)
    (rooted : before.Rooted)
    (had : before.HasFile dir path oldContent oldMode)
    (spare : Spare before after place content mode)
    (renamed : after.rename dir temporary path = .ok final) :
    ∃ newPlace, TakesPlace before final dir path newPlace content mode := by
  simp only [rename, bind, Except.bind] at renamed
  cases sourceLocated : after.locate .kept dir temporary with
  | error reason =>
      simp [sourceLocated] at renamed
  | ok reached =>
      obtain rfl := names.unique after .kept reached spare.beside sourceLocated
      cases located : after.locate .kept dir path with
      | error reason =>
          simp [sourceLocated, located] at renamed
      | ok newPlace =>
          obtain ⟨lookedUp, leads⟩ := locate_eq_ok_iff.mp located
          have named : before.locate .kept dir path = .ok newPlace :=
            locate_eq_ok_iff.mpr
              ⟨lookedUp, leads.of_sameWays spare.beside.sameWays.symm⟩
          have stored := had.stored_of_kept named
          have different : newPlace ≠ reached :=
            fun same => stored (same ▸ spare.beside.free)
          simp only [sourceLocated, located, spare.holds, spare.beside.elsewhere _ different,
            if_neg (Ne.symm different)] at renamed
          split at renamed
          · contradiction
          · cases renamed
          · rename_i isFile notDirectory
            cases isFile
            cases renamed
            have notRoot : newPlace ≠ [] := by
              rintro rfl
              exact notDirectory (node?_root before)
            refine ⟨newPlace, named, stored, notDirectory, ?_, ?_⟩
            · rw [node?_put notRoot, if_pos rfl]
            · intro other notHere
              rw [node?_put notRoot, if_neg notHere]
              exact spare.beside.node?_remove_spare rooted other

end Provision.Disk
