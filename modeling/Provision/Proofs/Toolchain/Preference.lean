import Provision.Proofs.Disk.Trees
import Provision.Proofs.Toolchain.Outcomes

namespace Provision

/-!
# The preferred toolchain

A search that takes the first find of each of its levels takes, of all finds,
the one at the least position, the outermost level counting most. So the edition
that is found is the preferred one of those installed. Its activation script is
at a usual place, or is the first one below the edition in the order of the
bytes of its components, and then a warning tells of the others.
-/

/--
The outcome of a search among candidates that have positions: the candidate at
the least position, or nothing where there are none.
-/
inductive Selects {Position Value : Type} (before : Position → Position → Prop)
    (candidate : Position → Value → Prop) : Option Value → Prop where
  | chosen (position : Position) {value : Value} :
      candidate position value →
      (∀ other otherValue, candidate other otherValue → ¬ before other position) →
      Selects before candidate (some value)
  | nothing :
      (∀ position value, ¬ candidate position value) →
      Selects before candidate none

/-- The candidates of those items that are kept; the place of the item counts first. -/
def Among {Item Inner Value : Type} (items : List Item) (keep : Item → Bool)
    (candidate : Item → Inner → Value → Prop) (position : Nat × Inner) (value : Value) :
    Prop :=
  ∃ item, items[position.1]? = some item ∧ keep item = true ∧
    candidate item position.2 value

namespace Selects

variable {Item Inner Value : Type} {inner : Inner → Inner → Prop} {keep : Item → Bool}
  {candidate : Item → Inner → Value → Prop}

/-- The first find among some values is the one at the least position. -/
theorem find?
    (values : List Value)
    (accepts : Value → Bool) :
    Selects (· < ·)
      (fun (position : Nat) value =>
        values[position]? = some value ∧ accepts value = true)
      (values.find? accepts) := by
  cases found : values.find? accepts with
  | none =>
      refine .nothing ?_
      rintro position value ⟨stands, accepted⟩
      exact List.find?_eq_none.mp found value (List.mem_of_getElem? stands) accepted
  | some value =>
      obtain ⟨accepted, position, inside, stands, refused⟩ :=
        List.find?_eq_some_iff_getElem.mp found
      refine .chosen position
        ⟨List.getElem?_eq_some_iff.mpr ⟨inside, stands⟩, accepted⟩ ?_
      rintro other otherValue ⟨otherStands, otherAccepted⟩ earlier
      obtain ⟨otherInside, rfl⟩ := List.getElem?_eq_some_iff.mp otherStands
      have otherRefused := refused other earlier
      rw [otherAccepted] at otherRefused
      cases otherRefused

/-- An item without a candidate has no part in the outcome. -/
private theorem skip
    {first : Item}
    {rest : List Item}
    {found : Option Value}
    (hasNone : keep first = true → ∀ position value, ¬ candidate first position value)
    (selects : Selects (Prod.Lex (· < ·) inner) (Among rest keep candidate) found) :
    Selects (Prod.Lex (· < ·) inner) (Among (first :: rest) keep candidate) found := by
  have inRest :
      ∀ position value, Among (first :: rest) keep candidate position value →
        ∃ place, position.1 = place + 1 ∧
          Among rest keep candidate (place, position.2) value := by
    rintro ⟨place, position⟩ value ⟨item, stands, kept, isCandidate⟩
    cases place with
    | zero =>
        cases stands
        exact (hasNone kept position value isCandidate).elim
    | succ place =>
        exact ⟨place, rfl, item, stands, kept, isCandidate⟩
  cases selects with
  | @chosen position value isCandidate least =>
      refine .chosen (position.1 + 1, position.2) isCandidate ?_
      intro other otherValue otherCandidate earlier
      obtain ⟨place, shape, otherInRest⟩ := inRest other otherValue otherCandidate
      refine least _ _ otherInRest ?_
      rw [Prod.lex_def] at earlier ⊢
      rcases earlier with outer | ⟨same, inside⟩
      · exact .inl (by dsimp only at outer ⊢; omega)
      · exact .inr ⟨by dsimp only at same ⊢; omega, inside⟩
  | nothing hasNoneInRest =>
      refine .nothing fun position value isCandidate => ?_
      obtain ⟨place, -, candidateInRest⟩ := inRest position value isCandidate
      exact hasNoneInRest _ _ candidateInRest

/-- The first find among the items that are kept is at the least position of all. -/
theorem findSome?
    {search : Item → Option Value}
    (items : List Item)
    (each : ∀ item, keep item = true → Selects inner (candidate item) (search item)) :
    Selects (Prod.Lex (· < ·) inner) (Among items keep candidate)
      ((items.filter keep).findSome? search) := by
  induction items with
  | nil =>
      refine .nothing ?_
      rintro position value ⟨item, stands, -⟩
      cases stands
  | cons first rest inductionHypothesis =>
      by_cases kept : keep first = true
      · rw [List.filter_cons_of_pos kept, List.findSome?_cons]
        have ofFirst := each first kept
        generalize search first = found at ofFirst
        cases ofFirst with
        | @chosen position value isCandidate least =>
            refine .chosen (0, position) ⟨first, rfl, kept, isCandidate⟩ ?_
            rintro ⟨place, other⟩ otherValue ⟨item, stands, -, otherCandidate⟩ earlier
            rcases Prod.lex_def.mp earlier with outer | ⟨same, inside⟩
            · exact Nat.not_lt_zero _ outer
            · cases (same : place = 0)
              cases stands
              exact least other otherValue otherCandidate inside
        | nothing hasNone =>
            exact skip (fun _ => hasNone) inductionHypothesis
      · rw [List.filter_cons_of_neg kept]
        exact skip (fun isKept => (kept isKept).elim) inductionHypothesis

/-- The outcome of a search depends on what is a candidate, however that is said. -/
theorem congr
    {Position : Type}
    {before : Position → Position → Prop}
    {first second : Position → Value → Prop}
    {found : Option Value}
    (selects : Selects before first found)
    (same : ∀ position value, first position value ↔ second position value) :
    Selects before second found := by
  cases selects with
  | chosen position isCandidate least =>
      exact .chosen position ((same _ _).mp isCandidate)
        fun other value otherCandidate => least other value ((same _ _).mpr otherCandidate)
  | nothing hasNone =>
      exact .nothing fun position value isCandidate =>
        hasNone position value ((same _ _).mpr isCandidate)

end Selects

namespace Toolchain

open Disk

/-- A year names a directory below a root directory: a directory there is shown so. -/
def NamesSubdirectory (disk : Disk) (dir : Location) (root : Path) (year : String) : Prop :=
  ∃ place entry, disk.locate .followed dir root = .ok place ∧
    disk.node? (place ++ [entry]) ≠ none ∧
    entry.text = year ∧
    disk.isDirectory dir (root.child entry) = true

/-- An edition of a year is installed below a root directory. -/
structure IsEdition (disk : Disk) (dir : Location) (root : Path) (year name : String) :
    Prop where
  rootIsDirectory : disk.isDirectory dir root = true
  yearIsSubdirectory : NamesSubdirectory disk dir root year
  isDirectory : disk.isDirectory dir ((root.child year).child name) = true

/-- An edition is installed; its position is that of its root, its year and its name. -/
def IsInstalled (settings : ToolchainSettings) (disk : Disk) (dir : Location)
    (position : Nat × Nat × Nat) (edition : Path) : Prop :=
  ∃ root year name,
    settings.roots[position.1]? = some root ∧
      settings.versions[position.2.1]? = some year ∧
      settings.editions[position.2.2]? = some name ∧
      IsEdition disk dir root year name ∧
      edition = (root.child year).child name

/-- Roots count most, then years, then editions. -/
def Precedes : Nat × Nat × Nat → Nat × Nat × Nat → Prop :=
  Prod.Lex (· < ·) (Prod.Lex (· < ·) (· < ·))

/-- The installed edition whose position is the least. -/
def IsPreferred (settings : ToolchainSettings) (disk : Disk) (dir : Location)
    (edition : Path) : Prop :=
  ∃ position, IsInstalled settings disk dir position edition ∧
    ∀ other otherEdition, IsInstalled settings disk dir other otherEdition →
      ¬ Precedes other position

/-- Of two positions, one precedes the other or they are the same. -/
theorem eq_of_not_precedes
    {first second : Nat × Nat × Nat}
    (notBefore : ¬ Precedes first second)
    (notAfter : ¬ Precedes second first) :
    first = second := by
  obtain ⟨firstRoot, firstYear, firstName⟩ := first
  obtain ⟨secondRoot, secondYear, secondName⟩ := second
  simp only [Precedes, Prod.lex_def] at notBefore notAfter
  simp only [Prod.mk.injEq]
  omega

/-- A position is that of one edition at most. -/
theorem IsInstalled.unique
    {settings : ToolchainSettings}
    {disk : Disk}
    {dir : Location}
    {position : Nat × Nat × Nat}
    {first second : Path}
    (isFirst : IsInstalled settings disk dir position first)
    (isSecond : IsInstalled settings disk dir position second) :
    first = second := by
  obtain ⟨root, year, name, hasRoot, hasYear, hasName, -, rfl⟩ := isFirst
  obtain ⟨_, _, _, otherRoot, otherYear, otherName, -, rfl⟩ := isSecond
  rw [hasRoot] at otherRoot
  rw [hasYear] at otherYear
  rw [hasName] at otherName
  cases otherRoot
  cases otherYear
  cases otherName
  rfl

variable {settings : ToolchainSettings} {disk : Disk} {dir : Location}

/-- The years of a root directory are what its entries that lead to directories show. -/
theorem contains_subdirectories_iff
    {root : Path}
    {year : String} :
    (subdirectories disk dir root).contains year = true ↔
      NamesSubdirectory disk dir root year := by
  rw [List.contains_iff_mem, subdirectories, NamesSubdirectory]
  cases disk.locate .followed dir root with
  | error reason =>
      simp
  | ok place =>
      simp only [List.mem_map, List.mem_filter, mem_names_iff, Except.ok.injEq,
        exists_and_left, exists_eq_left']
      constructor
      · rintro ⟨entry, ⟨stored, isDirectory⟩, shows⟩
        exact ⟨entry, stored, shows, isDirectory⟩
      · rintro ⟨entry, stored, shows, isDirectory⟩
        exact ⟨entry, ⟨stored, isDirectory⟩, shows⟩

/-- The search takes the preferred edition. -/
theorem selects_edition
    (settings : ToolchainSettings)
    (disk : Disk)
    (dir : Location) :
    Selects Precedes (IsInstalled settings disk dir) (edition? settings disk dir) := by
  have ofRoot :
      ∀ root, disk.isDirectory dir root = true →
        Selects _ _ (editionIn? settings disk dir root) := fun root _ =>
    Selects.findSome? settings.versions fun year _ =>
      Selects.find?
        (settings.editions.map fun (edition : String) =>
          (root.child year).child edition)
        (disk.isDirectory dir)
  refine (Selects.findSome? settings.roots ofRoot).congr ?_
  rintro ⟨rootPlace, yearPlace, namePlace⟩ edition
  constructor
  · rintro ⟨root, hasRoot, rootIsDirectory, year, hasYear, isYear, hasName, isDirectory⟩
    rw [List.getElem?_map, Option.map_eq_some_iff] at hasName
    obtain ⟨name, hasName, rfl⟩ := hasName
    exact ⟨root, year, name, hasRoot, hasYear, hasName,
      ⟨rootIsDirectory, contains_subdirectories_iff.mp isYear, isDirectory⟩, rfl⟩
  · rintro ⟨root, year, name, hasRoot, hasYear, hasName, isEdition, rfl⟩
    refine ⟨root, hasRoot, isEdition.rootIsDirectory, year, hasYear,
      contains_subdirectories_iff.mpr isEdition.yearIsSubdirectory,
      ?_, isEdition.isDirectory⟩
    rw [List.getElem?_map, hasName]
    rfl

theorem edition?_eq_some_iff
    {edition : Path} :
    edition? settings disk dir = some edition ↔
      IsPreferred settings disk dir edition := by
  have selects := selects_edition settings disk dir
  generalize edition? settings disk dir = found at selects
  cases selects with
  | @chosen position value isInstalled least =>
      constructor
      · rintro ⟨⟩
        exact ⟨position, isInstalled, least⟩
      · rintro ⟨other, otherInstalled, otherLeast⟩
        have same : other = position :=
          eq_of_not_precedes (least _ _ otherInstalled) (otherLeast _ _ isInstalled)
        rw [isInstalled.unique (same ▸ otherInstalled)]
  | nothing hasNone =>
      constructor
      · intro impossible
        cases impossible
      · rintro ⟨position, isInstalled, -⟩
        exact (hasNone _ _ isInstalled).elim

theorem edition?_eq_none_iff :
    edition? settings disk dir = none ↔
      ∀ position edition, ¬ IsInstalled settings disk dir position edition := by
  have selects := selects_edition settings disk dir
  generalize edition? settings disk dir = found at selects
  cases selects with
  | chosen _ isInstalled _ =>
      constructor
      · intro impossible
        cases impossible
      · intro hasNone
        exact (hasNone _ _ isInstalled).elim
  | nothing hasNone =>
      exact ⟨fun _ => hasNone, fun _ => rfl⟩

/-- The place of the activation script that is looked at first. -/
def auxiliaryScript (edition : Path) : Path :=
  (((edition.child "VC").child "Auxiliary").child "Build").child activationScript

/-- The place of the activation script that is looked at next. -/
def directScript (edition : Path) : Path :=
  (edition.child "VC").child activationScript

/-- Neither usual place of an edition has an activation script. -/
structure LacksUsualScript (disk : Disk) (dir : Location) (edition : Path) : Prop where
  auxiliary : disk.isFile dir (auxiliaryScript edition) = false
  direct : disk.isFile dir (directScript edition) = false

/--
The activation script of an edition: at a usual place, or the first one that is
reached below the edition; `others` more are reached then.
-/
inductive HasScript (disk : Disk) (dir : Location) (edition : Path) :
    (script : Path) → (others : Nat) → Prop where
  | auxiliary :
      disk.isFile dir (auxiliaryScript edition) = true →
      HasScript disk dir edition (auxiliaryScript edition) 0
  | direct :
      disk.isFile dir (auxiliaryScript edition) = false →
      disk.isFile dir (directScript edition) = true →
      HasScript disk dir edition (directScript edition) 0
  | reached {place : Location} {first : Location} {others : List Location} :
      LacksUsualScript disk dir edition →
      disk.locate .followed dir edition = .ok place →
      disk.Reaches activationScript place first →
      others.Nodup →
      (∀ names, names ∈ others ↔
        disk.Reaches activationScript place names ∧ names ≠ first) →
      (∀ names ∈ others, componentBytes first < componentBytes names) →
      HasScript disk dir edition (first.foldl Path.child edition) others.length

/-- An edition has no activation script. -/
structure LacksScript (disk : Disk) (dir : Location) (edition : Path) : Prop
    extends LacksUsualScript disk dir edition where
  notReached :
    ∀ place names, disk.locate .followed dir edition = .ok place →
      ¬ disk.Reaches activationScript place names

/-- Tells of further activation scripts below an edition. -/
def severalScripts (edition script : Path) (others : Nat) : Warning where
  message :=
    "several " ++ activationScript ++ " found below " ++ edition.text ++ ", using the first"
  fields := [("chosen", script.text), ("others", toString others)]

/-- The toolchain that is located in a world, and the world with the warning that is left. -/
inductive Locates (settings : ToolchainSettings) (dir : Location) (world : World) :
    Option Installation → World → Prop where
  | noEdition :
      (∀ position edition, ¬ IsInstalled settings world.disk dir position edition) →
      Locates settings dir world none world
  | noScript {edition : Path} :
      IsPreferred settings world.disk dir edition →
      LacksScript world.disk dir edition →
      Locates settings dir world none world
  | oneScript {edition script : Path} :
      IsPreferred settings world.disk dir edition →
      HasScript world.disk dir edition script 0 →
      Locates settings dir world (some ⟨edition, script⟩) world
  | manyScripts {edition script : Path} {others : Nat} :
      IsPreferred settings world.disk dir edition →
      HasScript world.disk dir edition script (others + 1) →
      Locates settings dir world (some ⟨edition, script⟩)
        (Run.warned (severalScripts edition script (others + 1)) world)

/-- The activation scripts of an edition in the order in which they count. -/
def scripts (disk : Disk) (dir : Location) (edition : Path) : List Path :=
  ((usualScripts edition).find? (disk.isFile dir)).elim
    (disk.find dir edition activationScript) fun script => [script]

theorem usualScripts_eq
    (edition : Path) :
    usualScripts edition = [auxiliaryScript edition, directScript edition] :=
  rfl

section Scripts

variable {edition : Path} {place : Location}

theorem scripts_of_auxiliary
    (isFile : disk.isFile dir (auxiliaryScript edition) = true) :
    scripts disk dir edition = [auxiliaryScript edition] := by
  rw [scripts, usualScripts_eq, List.find?_cons_of_pos isFile, Option.elim_some]

theorem scripts_of_direct
    (noFile : disk.isFile dir (auxiliaryScript edition) = false)
    (isFile : disk.isFile dir (directScript edition) = true) :
    scripts disk dir edition = [directScript edition] := by
  rw [scripts, usualScripts_eq, List.find?_cons_of_neg (by simp [noFile]),
    List.find?_cons_of_pos isFile, Option.elim_some]

theorem scripts_of_lacksUsual
    (located : disk.locate .followed dir edition = .ok place)
    (isDirectory : disk.node? place = some .directory)
    (lacksUsual : LacksUsualScript disk dir edition) :
    scripts disk dir edition =
      (disk.reached activationScript place).map fun names =>
        names.foldl Path.child edition := by
  rw [scripts, usualScripts_eq, List.find?_cons_of_neg (by simp [lacksUsual.auxiliary]),
    List.find?_cons_of_neg (by simp [lacksUsual.direct]), List.find?_nil,
    Option.elim_none, find_eq_map located isDirectory]

/-- A usual place of an edition has the script, or neither has. -/
theorem usualScript_cases
    (disk : Disk)
    (dir : Location)
    (edition : Path) :
    disk.isFile dir (auxiliaryScript edition) = true ∨
      (disk.isFile dir (auxiliaryScript edition) = false ∧
        disk.isFile dir (directScript edition) = true) ∨
      LacksUsualScript disk dir edition := by
  cases auxiliary : disk.isFile dir (auxiliaryScript edition) with
  | true =>
      exact .inl rfl
  | false =>
      cases direct : disk.isFile dir (directScript edition) with
      | true =>
          exact .inr (.inl ⟨rfl, rfl⟩)
      | false =>
          exact .inr (.inr ⟨auxiliary, direct⟩)

/-- What comes behind the first of several different things is all the others. -/
private theorem mem_further_iff
    {Item : Type}
    {first item : Item}
    {further : List Item}
    (notAgain : first ∉ further) :
    item ∈ further ↔ item ∈ first :: further ∧ item ≠ first := by
  rw [List.mem_cons]
  constructor
  · intro member
    exact ⟨.inr member, fun same => notAgain (same ▸ member)⟩
  · rintro ⟨same | member, different⟩
    · exact (different same).elim
    · exact member

/-- An edition has the activation script that counts first, and so many others. -/
theorem hasScript_of_scripts
    {script : Path}
    {others : List Path}
    (located : disk.locate .followed dir edition = .ok place)
    (isDirectory : disk.node? place = some .directory)
    (shape : scripts disk dir edition = script :: others) :
    HasScript disk dir edition script others.length := by
  rcases usualScript_cases disk dir edition with
      auxiliary | ⟨noAuxiliary, direct⟩ | lacksUsual
  · rw [scripts_of_auxiliary auxiliary] at shape
    cases shape
    exact .auxiliary auxiliary
  · rw [scripts_of_direct noAuxiliary direct] at shape
    cases shape
    exact .direct noAuxiliary direct
  · rw [scripts_of_lacksUsual located isDirectory lacksUsual,
      List.map_eq_cons_iff] at shape
    obtain ⟨first, further, reachedShape, rfl, rfl⟩ := shape
    have ordered := disk.pairwise_reached activationScript place
    have distinct := disk.nodup_reached activationScript place
    rw [reachedShape] at ordered distinct
    obtain ⟨before, -⟩ := List.pairwise_cons.mp ordered
    obtain ⟨notAgain, furtherDistinct⟩ := List.nodup_cons.mp distinct
    have isReached :
        ∀ names, names ∈ first :: further ↔ disk.Reaches activationScript place names := by
      intro names
      rw [← reachedShape, mem_reached_iff]
    rw [List.length_map]
    refine .reached lacksUsual located ((isReached first).mp List.mem_cons_self)
      furtherDistinct ?_ before
    intro names
    rw [← isReached, mem_further_iff notAgain]

/-- Where an edition has no activation script, none is found. -/
theorem lacksScript_of_scripts
    (located : disk.locate .followed dir edition = .ok place)
    (isDirectory : disk.node? place = some .directory)
    (shape : scripts disk dir edition = []) :
    LacksScript disk dir edition := by
  rcases usualScript_cases disk dir edition with
      auxiliary | ⟨noAuxiliary, direct⟩ | lacksUsual
  · rw [scripts_of_auxiliary auxiliary] at shape
    cases shape
  · rw [scripts_of_direct noAuxiliary direct] at shape
    cases shape
  · rw [scripts_of_lacksUsual located isDirectory lacksUsual,
      List.map_eq_nil_iff] at shape
    refine ⟨lacksUsual, ?_⟩
    intro other names otherLocated reaches
    rw [located] at otherLocated
    cases otherLocated
    rw [← mem_reached_iff, shape] at reaches
    cases reaches

/-- The script that counts first is the only one that an edition has. -/
theorem HasScript.scripts_eq
    {script : Path}
    {count : Nat}
    (located : disk.locate .followed dir edition = .ok place)
    (isDirectory : disk.node? place = some .directory)
    (hasScript : HasScript disk dir edition script count) :
    ∃ others, scripts disk dir edition = script :: others ∧ others.length = count := by
  cases hasScript with
  | auxiliary isFile =>
      exact ⟨[], scripts_of_auxiliary isFile, rfl⟩
  | direct noFile isFile =>
      exact ⟨[], scripts_of_direct noFile isFile, rfl⟩
  | @reached other first others lacksUsual otherLocated reaches distinct isOther before =>
      rw [located] at otherLocated
      cases otherLocated
      rw [scripts_of_lacksUsual located isDirectory lacksUsual]
      have ordered := disk.pairwise_reached activationScript place
      have reachedDistinct := disk.nodup_reached activationScript place
      have isReached :
          ∀ names, names ∈ disk.reached activationScript place ↔
            disk.Reaches activationScript place names := fun _ => mem_reached_iff
      generalize disk.reached activationScript place = found at *
      cases found with
      | nil =>
          cases (isReached first).mpr reaches
      | cons head further =>
          obtain ⟨headBefore, -⟩ := List.pairwise_cons.mp ordered
          obtain ⟨notAgain, furtherDistinct⟩ := List.nodup_cons.mp reachedDistinct
          -- The first script is the head: each comes before all that differ from it.
          have isHead : head = first := by
            by_contra different
            have headIsOther :=
              (isOther head).mpr ⟨(isReached head).mp List.mem_cons_self, different⟩
            have firstIsFurther :=
              (List.mem_cons.mp ((isReached first).mpr reaches)).resolve_left
                (Ne.symm different)
            exact List.lt_asymm (before head headIsOther) (headBefore first firstIsFurther)
          subst isHead
          refine ⟨further.map fun names => names.foldl Path.child edition, rfl, ?_⟩
          have sameOthers : further.Perm others := by
            refine (List.perm_ext_iff_of_nodup furtherDistinct distinct).mpr fun names => ?_
            rw [isOther, ← isReached, mem_further_iff notAgain]
          rw [List.length_map, sameOthers.length_eq]

theorem LacksScript.scripts_eq
    (located : disk.locate .followed dir edition = .ok place)
    (isDirectory : disk.node? place = some .directory)
    (lacksScript : LacksScript disk dir edition) :
    scripts disk dir edition = [] := by
  rw [scripts_of_lacksUsual located isDirectory lacksScript.toLacksUsualScript,
    List.map_eq_nil_iff, List.eq_nil_iff_forall_not_mem]
  intro names member
  exact lacksScript.notReached place names located (mem_reached_iff.mp member)

end Scripts

variable {machine : Machine} {world : World}

/-- The world in which the first of several scripts was taken. -/
def firstTaken (edition script : Path) (others : List Path) (world : World) : World :=
  if others = [] then
    world
  else
    Run.warned (severalScripts edition script others.length) world

theorem exec_scriptOf
    (edition : Path) :
    (scriptOf edition).exec machine world =
      match scripts world.disk machine.directory edition with
      | [] => (none, world)
      | script :: others => (some script, firstTaken edition script others world) := by
  simp only [scriptOf, Run.exec_bind, Run.exec_observe]
  rw [scripts]
  cases (usualScripts edition).find? (world.disk.isFile machine.directory) with
  | some script =>
      rfl
  | none =>
      simp only [Option.elim_none, Run.exec_bind, Run.exec_observe]
      cases world.disk.find machine.directory edition activationScript with
      | nil => rfl
      | cons script others => cases others <;> rfl

theorem exec_locate
    (settings : ToolchainSettings) :
    (locate settings).exec machine world =
      match edition? settings world.disk machine.directory with
      | none => (none, world)
      | some edition =>
          match scripts world.disk machine.directory edition with
          | [] => (none, world)
          | script :: others =>
              (some ⟨edition, script⟩, firstTaken edition script others world) := by
  simp only [locate, Run.exec_bind, Run.exec_observe]
  cases edition? settings world.disk machine.directory with
  | none => rfl
  | some edition =>
      simp only [Run.exec_bind, exec_scriptOf, Run.exec_pure]
      cases scripts world.disk machine.directory edition with
      | nil => rfl
      | cons script others => rfl

section SameNodes

variable {other : Disk}

theorem IsEdition.of_sameNodes
    {root : Path}
    {year name : String}
    (same : ∀ location, other.node? location = disk.node? location)
    (isEdition : IsEdition disk dir root year name) :
    IsEdition other dir root year name := by
  obtain ⟨place, entry, located, stored, shows, isDirectory⟩ :=
    isEdition.yearIsSubdirectory
  constructor
  · rw [isDirectory_congr same]
    exact isEdition.rootIsDirectory
  · exact ⟨place, entry, by rw [locate_congr same, located],
      by rw [same]; exact stored, shows, by rw [isDirectory_congr same]; exact isDirectory⟩
  · rw [isDirectory_congr same]
    exact isEdition.isDirectory

/-- The order in which a disk lists its nodes has no part in the choice of an edition. -/
theorem edition?_congr
    (same : ∀ location, other.node? location = disk.node? location)
    (settings : ToolchainSettings)
    (dir : Location) :
    edition? settings other dir = edition? settings disk dir := by
  have isInstalled_congr :
      ∀ position edition,
        IsInstalled settings other dir position edition ↔
          IsInstalled settings disk dir position edition := by
    intro position edition
    constructor
    · rintro ⟨root, year, name, hasRoot, hasYear, hasName, isEdition, shape⟩
      exact ⟨root, year, name, hasRoot, hasYear, hasName,
        isEdition.of_sameNodes fun location => (same location).symm, shape⟩
    · rintro ⟨root, year, name, hasRoot, hasYear, hasName, isEdition, shape⟩
      exact ⟨root, year, name, hasRoot, hasYear, hasName,
        isEdition.of_sameNodes same, shape⟩
  refine Option.ext fun edition => ?_
  simp only [edition?_eq_some_iff, IsPreferred, isInstalled_congr]

/-- The order in which a disk lists its nodes has no part in the choice of a script. -/
theorem scripts_congr
    (same : ∀ location, other.node? location = disk.node? location)
    {edition : Path}
    (isDirectory : disk.isDirectory dir edition = true) :
    scripts other dir edition = scripts disk dir edition := by
  obtain ⟨place, located, found⟩ := isDirectory_iff.mp isDirectory
  rw [scripts, scripts, isFile_congr same, find_eq_map located found,
    find_eq_map ((locate_congr same .followed dir edition).trans located)
      ((same place).trans found),
    reached_congr same]

end SameNodes

/-- An installed edition is a directory. -/
theorem IsPreferred.isDirectory
    {edition : Path}
    (isPreferred : IsPreferred settings disk dir edition) :
    disk.isDirectory dir edition = true := by
  obtain ⟨position, ⟨root, year, name, -, -, -, isEdition, rfl⟩, -⟩ := isPreferred
  exact isEdition.isDirectory

/-- To locate the toolchain is to do exactly what the rules say. -/
theorem exec_locate_eq_iff
    {result : Option Installation}
    {after : World} :
    (locate settings).exec machine world = (result, after) ↔
      Locates settings machine.directory world result after := by
  rw [exec_locate]
  constructor
  · intro executes
    cases found : edition? settings world.disk machine.directory with
    | none =>
        rw [found] at executes
        cases executes
        exact .noEdition (edition?_eq_none_iff.mp found)
    | some edition =>
        rw [found] at executes
        have isPreferred := edition?_eq_some_iff.mp found
        obtain ⟨place, located, isDirectory⟩ :=
          isDirectory_iff.mp isPreferred.isDirectory
        cases shape : scripts world.disk machine.directory edition with
        | nil =>
            simp only [shape] at executes
            cases executes
            exact .noScript isPreferred (lacksScript_of_scripts located isDirectory shape)
        | cons script others =>
            simp only [shape] at executes
            cases executes
            have hasScript := hasScript_of_scripts located isDirectory shape
            cases others with
            | nil => exact .oneScript isPreferred hasScript
            | cons next others => exact .manyScripts isPreferred hasScript
  · intro locates
    cases locates with
    | noEdition hasNone =>
        rw [edition?_eq_none_iff.mpr hasNone]
    | noScript isPreferred lacksScript =>
        obtain ⟨place, located, isDirectory⟩ :=
          isDirectory_iff.mp isPreferred.isDirectory
        simp only [edition?_eq_some_iff.mpr isPreferred,
          lacksScript.scripts_eq located isDirectory]
    | oneScript isPreferred hasScript =>
        obtain ⟨place, located, isDirectory⟩ :=
          isDirectory_iff.mp isPreferred.isDirectory
        obtain ⟨others, shape, none⟩ := hasScript.scripts_eq located isDirectory
        cases List.eq_nil_of_length_eq_zero none
        simp only [edition?_eq_some_iff.mpr isPreferred, shape]
        rfl
    | manyScripts isPreferred hasScript =>
        obtain ⟨place, located, isDirectory⟩ :=
          isDirectory_iff.mp isPreferred.isDirectory
        obtain ⟨others, shape, many⟩ := hasScript.scripts_eq located isDirectory
        have notNone : others ≠ [] := by
          rintro rfl
          cases many
        simp only [edition?_eq_some_iff.mpr isPreferred, shape, firstTaken,
          if_neg notNone, many]

/-- A year without a known edition, and an edition whose scripts lie at no usual place. -/
def nestedDisk : Disk where
  nodes := [
    (["vs"], .directory),
    (["vs", "2022"], .directory),
    (["vs", "2022", "Preview"], .directory),
    (["vs", "2017"], .directory),
    (["vs", "2017", "BuildTools"], .directory),
    (["vs", "2017", "BuildTools", "a-b"], .directory),
    (["vs", "2017", "BuildTools", "a-b", "vcvarsall.bat"], .file [] 0o644),
    (["vs", "2017", "BuildTools", "a"], .directory),
    (["vs", "2017", "BuildTools", "a", "vcvarsall.bat"], .file [] 0o644)
  ]

/-- A world that holds a disk and nothing else. -/
def diskWorld (disk : Disk) : World where
  disk := disk
  environment := .empty

end Toolchain

end Provision
