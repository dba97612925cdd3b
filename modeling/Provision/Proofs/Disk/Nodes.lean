import Provision.Disk.Basic

namespace Provision.Disk

/-!
# Nodes after a change

What stands at a location after a node was put on a disk or removed from it. On
a disk that is rooted, every node stands in a directory; so below a location
that holds nothing there is nothing either.
-/

@[simp] theorem node?_root
    (disk : Disk) :
    disk.node? [] = some .directory :=
  rfl

theorem node?_of_ne_root
    {disk : Disk}
    {location : Location}
    (notRoot : location ≠ []) :
    disk.node? location = disk.nodes.lookup location := by
  simp [node?, notRoot]

private theorem lookup_cons
    (other present : Location)
    (stored : Node)
    (rest : List (Location × Node)) :
    ((present, stored) :: rest).lookup other =
      if other = present then some stored else rest.lookup other := by
  by_cases same : other = present
  · simp [same]
  · simp [List.lookup_cons, beq_eq_false_iff_ne.mpr same, same]

private theorem lookup_putNode
    {location other : Location}
    {node : Node}
    (nodes : List (Location × Node)) :
    (putNode location node nodes).lookup other =
      if other = location then some node else nodes.lookup other := by
  induction nodes with
  | nil =>
      rw [putNode, lookup_cons]
  | cons entry rest inductionHypothesis =>
      obtain ⟨present, stored⟩ := entry
      rw [putNode, lookup_cons]
      by_cases replaced : location = present
      · subst replaced
        rw [if_pos rfl, lookup_cons]
        split <;> rfl
      · rw [if_neg replaced, lookup_cons, inductionHypothesis]
        by_cases same : other = present
        · have different : ¬ other = location :=
            fun isLocation => replaced (isLocation.symm.trans same)
          rw [if_pos same, if_neg different, if_pos same]
        · rw [if_neg same, if_neg same]

/-- Only the location of a node changes when it is put on a disk. -/
theorem node?_put
    {location : Location}
    (notRoot : location ≠ [])
    (disk : Disk)
    (node : Node)
    (other : Location) :
    (disk.put location node).node? other =
      if other = location then some node else disk.node? other := by
  by_cases isRoot : other = []
  · subst isRoot
    simp [notRoot.symm]
  · rw [node?_of_ne_root isRoot, node?_of_ne_root isRoot]
    exact lookup_putNode disk.nodes

private theorem lookup_filter
    (keep : Location → Bool)
    (other : Location)
    (nodes : List (Location × Node)) :
    (nodes.filter fun entry => keep entry.1).lookup other =
      if keep other then nodes.lookup other else none := by
  induction nodes with
  | nil =>
      simp
  | cons entry rest inductionHypothesis =>
      obtain ⟨present, stored⟩ := entry
      rw [List.filter_cons, lookup_cons]
      by_cases same : other = present
      · subst same
        by_cases kept : keep other = true
        · rw [if_pos kept, lookup_cons, if_pos rfl, if_pos rfl, if_pos kept]
        · rw [if_neg kept, inductionHypothesis, if_neg kept, if_neg kept]
      · rw [if_neg same, ← inductionHypothesis]
        split
        · rw [lookup_cons, if_neg same]
        · rfl

/-- What is removed takes all that is below it with it, and nothing else. -/
theorem node?_remove
    {other : Location}
    (notRoot : other ≠ [])
    (disk : Disk)
    (location : Location) :
    (disk.remove location).node? other =
      if location <+: other then none else disk.node? other := by
  have kept :=
    lookup_filter (fun place => !location.isPrefixOf place) other disk.nodes
  rw [node?_of_ne_root notRoot, node?_of_ne_root notRoot, remove]
  refine kept.trans ?_
  simp only [← List.isPrefixOf_iff_prefix]
  cases location.isPrefixOf other <;> rfl

private theorem lookup_of_perm
    {first second : List (Location × Node)}
    (reordered : first.Perm second)
    (distinct : (first.map Prod.fst).Nodup)
    (location : Location) :
    first.lookup location = second.lookup location := by
  induction reordered with
  | nil =>
      rfl
  | cons entry _ inductionHypothesis =>
      obtain ⟨present, stored⟩ := entry
      rw [lookup_cons, lookup_cons,
        inductionHypothesis (List.nodup_cons.mp distinct).2]
  | swap entry next rest =>
      obtain ⟨place, node⟩ := entry
      obtain ⟨nextPlace, nextNode⟩ := next
      have different : nextPlace ≠ place := by
        rintro rfl
        simp at distinct
      simp only [lookup_cons]
      by_cases isPlace : location = place
      · have notNext : location ≠ nextPlace :=
          fun isNext => different (isNext.symm.trans isPlace)
        rw [if_neg notNext, if_pos isPlace, if_pos isPlace]
      · rw [if_neg isPlace, if_neg isPlace]
  | trans before _ ofFirst ofSecond =>
      exact (ofFirst distinct).trans
        (ofSecond ((before.map Prod.fst).nodup_iff.mp distinct))

/-- It makes no difference in which order a disk lists its nodes. -/
theorem node?_of_perm
    {disk other : Disk}
    (reordered : other.nodes.Perm disk.nodes)
    (distinct : (other.nodes.map Prod.fst).Nodup)
    (location : Location) :
    other.node? location = disk.node? location := by
  by_cases isRoot : location = []
  · rw [isRoot, node?_root, node?_root]
  · rw [node?_of_ne_root isRoot, node?_of_ne_root isRoot]
    exact lookup_of_perm reordered distinct location

/-- Every node stands in a directory. -/
def Rooted (disk : Disk) : Prop :=
  ∀ location, disk.node? location ≠ none →
    disk.node? location.dropLast = some .directory

/-- On a rooted disk, what is below a location is below a directory. -/
theorem Rooted.directory_of_below
    {disk : Disk}
    (rooted : disk.Rooted)
    {location : Location}
    {name : FileName}
    {below : Location}
    (stored : disk.node? (location ++ name :: below) ≠ none) :
    disk.node? location = some .directory := by
  induction below generalizing location name with
  | nil =>
      simpa using rooted _ stored
  | cons next below inductionHypothesis =>
      rw [← List.singleton_append, ← List.append_assoc] at stored
      have isDirectory := inductionHypothesis stored
      have parent :=
        rooted (location ++ [name])
          (by rw [isDirectory]; exact Option.some_ne_none _)
      rwa [List.dropLast_concat] at parent

/-- On a rooted disk, only directories have something below them. -/
theorem Rooted.eq_of_prefix
    {disk : Disk}
    (rooted : disk.Rooted)
    {location other : Location}
    (notDirectory : disk.node? location ≠ some .directory)
    (below : location <+: other)
    (stored : disk.node? other ≠ none) :
    other = location := by
  obtain ⟨names, rfl⟩ := below
  cases names with
  | nil =>
      exact List.append_nil location
  | cons name names =>
      exact (notDirectory (rooted.directory_of_below stored)).elim

end Provision.Disk
