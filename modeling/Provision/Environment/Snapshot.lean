import Provision.Names
import Provision.Unicode.Classes

namespace Provision

/-!
# Snapshots of an environment

A snapshot holds the variables of an environment at one moment: names with
their values in ascending order of names, each name once. A snapshot can be
read off the dump that `set` or `env` prints.
-/

/-- Variables in ascending order of their names. -/
def Ascending (entries : List (String × String)) : Prop :=
  entries.Pairwise fun earlier later => earlier.1 < later.1

/-- The variables of an environment at one moment. -/
structure Snapshot where
  entries : List (String × String)
  ascending : Ascending entries

namespace Snapshot

/-- The snapshot without variables. -/
def empty : Snapshot where
  entries := []
  ascending := List.Pairwise.nil

/-- Give a variable its value in an ascending list. -/
def insertEntry (name value : String) : List (String × String) → List (String × String)
  | [] => [(name, value)]
  | (other, present) :: rest =>
      if name < other then
        (name, value) :: (other, present) :: rest
      else if name = other then
        (name, value) :: rest
      else
        (other, present) :: insertEntry name value rest

/-- A variable of the changed list is the one inserted or was there before. -/
theorem mem_insertEntry
    {name value : String}
    {entry : String × String}
    {entries : List (String × String)}
    (member : entry ∈ insertEntry name value entries) :
    entry = (name, value) ∨ entry ∈ entries := by
  induction entries with
  | nil =>
      simpa [insertEntry] using member
  | cons first rest inductionHypothesis =>
      obtain ⟨other, present⟩ := first
      simp only [insertEntry] at member
      split at member
      · simpa using member
      · split at member
        · rcases List.mem_cons.1 member with same | inRest
          · exact Or.inl same
          · exact Or.inr (List.mem_cons_of_mem _ inRest)
        · rcases List.mem_cons.1 member with same | inRest
          · exact Or.inr (same ▸ List.mem_cons_self)
          · rcases inductionHypothesis inRest with inserted | before
            · exact Or.inl inserted
            · exact Or.inr (List.mem_cons_of_mem _ before)

/-- Giving a variable its value keeps the order. -/
theorem ascending_insertEntry
    {entries : List (String × String)}
    (name value : String)
    (ascending : Ascending entries) :
    Ascending (insertEntry name value entries) := by
  induction entries with
  | nil =>
      exact List.pairwise_singleton _ _
  | cons first rest inductionHypothesis =>
      obtain ⟨other, present⟩ := first
      obtain ⟨belowRest, restAscending⟩ := List.pairwise_cons.1 ascending
      simp only [insertEntry]
      split
      · rename_i below
        refine List.pairwise_cons.2 ⟨?_, ascending⟩
        intro entry member
        rcases List.mem_cons.1 member with same | inRest
        · exact same ▸ below
        · exact String.lt_trans below (belowRest entry inRest)
      · rename_i notBelow
        split
        · rename_i same
          refine List.pairwise_cons.2 ⟨?_, restAscending⟩
          intro entry inRest
          exact same ▸ belowRest entry inRest
        · rename_i different
          refine List.pairwise_cons.2 ⟨?_, inductionHypothesis restAscending⟩
          intro entry member
          rcases mem_insertEntry member with inserted | inRest
          · subst inserted
            have notAbove : other ≤ name := String.not_lt.1 notBelow
            exact String.not_le.1 fun above =>
              different (String.le_antisymm above notAbove)
          · exact belowRest entry inRest

/-- The snapshot with a variable given a value. -/
def insert (snapshot : Snapshot) (name value : String) : Snapshot where
  entries := insertEntry name value snapshot.entries
  ascending := ascending_insertEntry name value snapshot.ascending

/-- The snapshot without the variables whose names are dropped. -/
def dropNames (snapshot : Snapshot) (dropped : String → Bool) : Snapshot where
  entries := snapshot.entries.filter fun entry => !dropped entry.1
  ascending := snapshot.ascending.filter _

/-- The snapshot of a list of variables; of several values for a name, the last counts. -/
def ofList (entries : List (String × String)) : Snapshot :=
  entries.foldl (fun snapshot entry => snapshot.insert entry.1 entry.2) empty

/-- Number of variables. -/
def size (snapshot : Snapshot) : Nat :=
  snapshot.entries.length

/-- The value of the variable with exactly this name. -/
def named? (snapshot : Snapshot) (name : String) : Option String :=
  snapshot.entries.lookup name

/-- The value of the first variable whose name differs at most in case. -/
def anyCase? (snapshot : Snapshot) (name : String) : Option String :=
  (snapshot.entries.find? fun entry => Name.sameIgnoringCase entry.1 name).map Prod.snd

/-- The value of a variable; a name in other letter case serves when the exact one is missing. -/
def get? (snapshot : Snapshot) (name : String) : Option String :=
  (snapshot.named? name).or (snapshot.anyCase? name)

/-- Drop every carriage return at the end of a line. -/
def dropReturns (line : Text) : Text :=
  (line.reverse.dropWhile (· == '\r')).reverse

/--
The variable that a line of a dump writes: its name, `=` and its value. A name
is not empty and holds no white space; any other line writes no variable.
-/
def entryOfLine? (line : Text) : Option (String × String) := do
  let (name, value) ← Text.splitOnce? ['='] (dropReturns line)
  if name.isEmpty || name.any Unicode.isWhitespace then
    none
  else
    some (String.ofList name, String.ofList value)

/-- Read the dump that `set` or `env` prints. -/
def parse (dump : Text) : Snapshot :=
  ofList (dump.lines.filterMap entryOfLine?)

end Snapshot

end Provision
