import Provision.Disk.Tree
import Provision.Proofs.Disk.Files
import Provision.Proofs.Names

namespace Provision.Disk

/-!
# What a search of a tree finds

A search finds the files of its name that are reached without a link, each once,
in the order of the bytes of their components. The order in which a disk lists
its nodes has no part in it: two disks with the same nodes are searched alike.
-/

/-- The names that lead down from a location to a file called `name`, without a link. -/
inductive Reaches (disk : Disk) (name : FileName) : Location → Location → Prop where
  | here {location : Location} {content : Bytes} {mode : Nat} :
      disk.node? (location ++ [name]) = some (.file content mode) →
      Reaches disk name location [name]
  | descend {location : Location} {child : FileName} {names : Location} :
      disk.node? (location ++ [child]) = some .directory →
      Reaches disk name (location ++ [child]) names →
      Reaches disk name location (child :: names)

/-- Names as the system compares them, by their bytes. -/
def componentBytes (names : Location) : List Bytes :=
  names.map FileName.bytes

/-- What an entry of a directory adds to a search; `onward` is found below the entry. -/
def reachedAt (name child : FileName) (onward : List Location) :
    Option Node → List Location
  | some (.file ..) => if child = name then [[name]] else []
  | some .directory => onward.map (child :: ·)
  | _ => []

/-- The search of a tree, with the names that lead to a file in place of its location. -/
def reachedBelow (disk : Disk) (name : FileName) : (depth : Nat) → Location → List Location
  | 0, _ => []
  | depth + 1, location =>
      (sortedNames (disk.names location)).flatMap fun child =>
        let place := location ++ [child]
        reachedAt name child (reachedBelow disk name depth place) (disk.node? place)

theorem mem_reachedAt_iff
    {name child : FileName}
    {onward : List Location}
    {node : Option Node}
    {names : Location} :
    names ∈ reachedAt name child onward node ↔
      ((∃ content mode, node = some (.file content mode)) ∧
          child = name ∧ names = [name]) ∨
        (node = some .directory ∧ ∃ further ∈ onward, names = child :: further) := by
  rcases node with _ | node
  · simp [reachedAt]
  · cases node with
    | file content mode =>
        by_cases same : child = name <;> simp [reachedAt, same]
    | directory => simp [reachedAt, eq_comm]
    | link target => simp [reachedAt]
    | device device => simp [reachedAt]

/-- What an entry adds starts with the name of the entry. -/
theorem exists_cons_of_mem_reachedAt
    {name child : FileName}
    {onward : List Location}
    {node : Option Node}
    {names : Location}
    (member : names ∈ reachedAt name child onward node) :
    ∃ further, names = child :: further := by
  rcases mem_reachedAt_iff.mp member with ⟨-, rfl, rfl⟩ | ⟨-, further, -, rfl⟩
  · exact ⟨[], rfl⟩
  · exact ⟨further, rfl⟩

/-- Every file found lies below the location that was searched. -/
theorem filesBelow_eq_map
    (disk : Disk)
    (name : FileName)
    (depth : Nat)
    (location : Location) :
    disk.filesBelow name depth location =
      (disk.reachedBelow name depth location).map (location ++ ·) := by
  induction depth generalizing location with
  | zero =>
      rfl
  | succ depth inductionHypothesis =>
      rw [filesBelow, reachedBelow, List.map_flatMap]
      congr 1
      funext child
      dsimp only
      rw [inductionHypothesis]
      cases disk.node? (location ++ [child]) with
      | none => rfl
      | some node =>
          cases node with
          | file content mode =>
              by_cases same : child = name <;> simp [reachedAt, same]
          | directory => simp [reachedAt, Function.comp_def]
          | link target => rfl
          | device device => rfl

variable {disk : Disk} {name : FileName} {location : Location} {names : Location}

/-- A search that goes deep enough finds a file exactly where names reach one. -/
theorem mem_reachedBelow_iff
    {depth : Nat} :
    names ∈ disk.reachedBelow name depth location ↔
      disk.Reaches name location names ∧ names.length ≤ depth := by
  induction depth generalizing location names with
  | zero =>
      rw [reachedBelow]
      constructor
      · intro impossible
        cases impossible
      · rintro ⟨reaches, short⟩
        cases reaches <;> cases short
  | succ depth inductionHypothesis =>
      rw [reachedBelow, List.mem_flatMap]
      simp only [mem_sortedNames_iff, mem_names_iff, mem_reachedAt_iff]
      constructor
      · rintro ⟨child, -,
          ⟨⟨content, mode, isFile⟩, rfl, rfl⟩ |
            ⟨isDirectory, further, member, rfl⟩⟩
        · exact ⟨.here isFile, Nat.succ_le_succ (Nat.zero_le depth)⟩
        · obtain ⟨reaches, short⟩ := inductionHypothesis.mp member
          exact ⟨.descend isDirectory reaches, Nat.succ_le_succ short⟩
      · rintro ⟨reaches, short⟩
        cases reaches with
        | here isFile =>
            exact ⟨name, Option.ne_none_iff_exists'.mpr ⟨_, isFile⟩,
              .inl ⟨⟨_, _, isFile⟩, rfl, rfl⟩⟩
        | descend isDirectory reaches =>
            exact ⟨_, Option.ne_none_iff_exists'.mpr ⟨_, isDirectory⟩,
              .inr ⟨isDirectory, _,
                inductionHypothesis.mpr ⟨reaches, Nat.le_of_succ_le_succ short⟩, rfl⟩⟩

private theorem length_le_depth
    (stored : disk.node? location ≠ none) :
    location.length ≤ disk.depth := by
  by_cases root : location = []
  · rw [root]
    exact Nat.zero_le _
  · rw [node?_of_ne_root root, ne_eq, List.lookup_eq_none_iff] at stored
    simp only [bne_iff_ne, ne_eq, not_forall, not_not, exists_prop] at stored
    obtain ⟨entry, member, rfl⟩ := stored
    exact (le_foldl_max (fun entry => entry.1.length) disk.nodes 0).2 entry member

/-- The depth of a disk bounds how far down files are. -/
theorem Reaches.length_le
    (reaches : disk.Reaches name location names) :
    location.length + names.length ≤ disk.depth := by
  induction reaches with
  | here isFile =>
      have stored := length_le_depth (by rw [isFile]; exact Option.some_ne_none _)
      simpa using stored
  | descend _ _ inductionHypothesis =>
      rw [List.length_append] at inductionHypothesis
      simp only [List.length_cons, List.length_nil] at inductionHypothesis ⊢
      omega

/-- Files are found in the order of the bytes of their components. -/
theorem pairwise_reachedBelow
    (disk : Disk)
    (name : FileName)
    (depth : Nat)
    (location : Location) :
    (disk.reachedBelow name depth location).Pairwise fun first second =>
      componentBytes first < componentBytes second := by
  induction depth generalizing location with
  | zero =>
      exact List.Pairwise.nil
  | succ depth inductionHypothesis =>
      rw [reachedBelow, List.pairwise_flatMap]
      constructor
      · intro child _
        dsimp only
        rcases disk.node? (location ++ [child]) with _ | node
        · exact List.Pairwise.nil
        · cases node with
          | file content mode =>
              rw [reachedAt]
              split
              · exact List.pairwise_singleton _ _
              · exact List.Pairwise.nil
          | directory =>
              refine List.pairwise_map.mpr ((inductionHypothesis _).imp ?_)
              intro first second before
              exact List.cons_lt_cons_iff.mpr (.inr ⟨rfl, before⟩)
          | link target => exact List.Pairwise.nil
          | device device => exact List.Pairwise.nil
      · refine (pairwise_sortedNames _).imp ?_
        intro child other before first inFirst second inSecond
        obtain ⟨firstFurther, rfl⟩ := exists_cons_of_mem_reachedAt inFirst
        obtain ⟨secondFurther, rfl⟩ := exists_cons_of_mem_reachedAt inSecond
        exact List.cons_lt_cons_iff.mpr (.inl before)

/-- The files of a name in the tree at a location, by the names that lead to them. -/
def reached (disk : Disk) (name : FileName) (location : Location) : List Location :=
  disk.reachedBelow name (disk.depth + 1) location

theorem mem_reached_iff :
    names ∈ disk.reached name location ↔ disk.Reaches name location names := by
  rw [reached, mem_reachedBelow_iff]
  constructor
  · exact And.left
  · intro reaches
    have bounded := reaches.length_le
    exact ⟨reaches, by omega⟩

theorem pairwise_reached
    (disk : Disk)
    (name : FileName)
    (location : Location) :
    (disk.reached name location).Pairwise fun first second =>
      componentBytes first < componentBytes second :=
  disk.pairwise_reachedBelow name (disk.depth + 1) location

theorem nodup_reached
    (disk : Disk)
    (name : FileName)
    (location : Location) :
    (disk.reached name location).Nodup := by
  refine (disk.pairwise_reached name location).imp ?_
  rintro first _ before rfl
  exact List.lt_irrefl _ before

/-- A path to a directory is no file, and the tree at the directory is searched. -/
theorem find_eq_map
    {dir : Location}
    {root : Path}
    (located : disk.locate .followed dir root = .ok location)
    (isDirectory : disk.node? location = some .directory)
    (name : FileName) :
    disk.find dir root name =
      (disk.reached name location).map fun names => names.foldl Path.child root := by
  have noFile : disk.isNamedFile dir root name = false := by
    rw [isNamedFile]
    cases kept : disk.locate .kept dir root with
    | error reason => rfl
    | ok place =>
        dsimp only
        split
        · rename_i content mode isFile
          obtain ⟨-, leads⟩ := locate_eq_ok_iff.mp kept
          obtain ⟨-, followed⟩ := locate_eq_ok_iff.mp located
          have same :=
            (leads.followed_of_noLink fun target isLink => by
              rw [isFile] at isLink
              cases isLink).unique followed
          rw [same, isDirectory] at isFile
          cases isFile
        · rfl
  rw [find, noFile, located]
  simp only [Bool.false_eq_true, ↓reduceIte, filesBelow_eq_map, List.map_map]
  congr 1
  funext names
  simp

section SameNodes

variable {other : Disk}

/-- Where a path leads depends on the nodes alone. -/
theorem locate_congr
    (same : ∀ location, other.node? location = disk.node? location)
    (last : LastLink)
    (dir : Location)
    (path : Path) :
    other.locate last dir path = disk.locate last dir path := by
  have advances :
      ∀ steps location,
        other.advance last location steps = disk.advance last location steps := by
    intro steps
    induction steps with
    | nil =>
        intro location
        rfl
    | cons step rest inductionHypothesis =>
        intro location
        simp only [advance, same, inductionHypothesis]
  have walks :
      ∀ links location steps,
        other.walk last links location steps = disk.walk last links location steps := by
    intro links
    induction links with
    | zero =>
        intro location steps
        unfold walk
        simp only [advances]
    | succ links inductionHypothesis =>
        intro location steps
        unfold walk
        simp only [advances, inductionHypothesis]
  rw [locate, locate, walks]

theorem target?_congr
    (same : ∀ location, other.node? location = disk.node? location)
    (dir : Location)
    (path : Path) :
    other.target? dir path = disk.target? dir path := by
  rw [target?, target?, locate_congr same]
  split
  · exact same _
  · rfl

theorem isFile_congr
    (same : ∀ location, other.node? location = disk.node? location)
    (dir : Location) :
    other.isFile dir = disk.isFile dir := by
  funext path
  rw [isFile, isFile, target?_congr same]

theorem isDirectory_congr
    (same : ∀ location, other.node? location = disk.node? location)
    (dir : Location) :
    other.isDirectory dir = disk.isDirectory dir := by
  funext path
  rw [isDirectory, isDirectory, target?_congr same]

theorem Reaches.of_sameNodes
    (same : ∀ location, other.node? location = disk.node? location)
    (reaches : disk.Reaches name location names) :
    other.Reaches name location names := by
  induction reaches with
  | here isFile =>
      exact .here ((same _).trans isFile)
  | descend isDirectory _ inductionHypothesis =>
      exact .descend ((same _).trans isDirectory) inductionHypothesis

/-- The order in which a disk lists its nodes has no part in a search. -/
theorem reached_congr
    (same : ∀ location, other.node? location = disk.node? location)
    (name : FileName)
    (location : Location) :
    other.reached name location = disk.reached name location := by
  refine List.Perm.eq_of_pairwise ?_ (other.pairwise_reached name location)
    (disk.pairwise_reached name location) ?_
  · intro first second _ _ before after
    exact (List.lt_asymm before after).elim
  · refine (List.perm_ext_iff_of_nodup (other.nodup_reached name location)
      (disk.nodup_reached name location)).mpr fun names => ?_
    rw [mem_reached_iff, mem_reached_iff]
    exact ⟨Reaches.of_sameNodes fun place => (same place).symm,
      Reaches.of_sameNodes same⟩

end SameNodes

end Provision.Disk
