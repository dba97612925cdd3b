import Mathlib.Data.List.DropRight
import Mathlib.Data.List.Sort
import Provision.Proofs.Environment.Snapshots
import Provision.Proofs.Text.Pieces

namespace Provision.Snapshot

/-!
# Reading dumps back

A dump writes every variable on a line of its own, and whatever else was printed
stands on lines that write no variable. However the lines are ordered and end,
reading the dump gives the variables that were written, and nothing else.
-/

/-- A variable that fits on a line of a dump. -/
structure Writable (entry : String × String) : Prop where
  named : entry.1 ≠ ""
  unsigned : '=' ∉ entry.1.toList
  unspaced : ∀ c ∈ entry.1.toList, Unicode.isWhitespace c = false
  unbroken : '\n' ∉ entry.2.toList
  endsInText : entry.2.toList.getLast? ≠ some '\r'

theorem writable_iff
    {entry : String × String} :
    Writable entry ↔
      entry.1 ≠ "" ∧ '=' ∉ entry.1.toList ∧
        entry.1.toList.any Unicode.isWhitespace = false ∧
        '\n' ∉ entry.2.toList ∧ entry.2.toList.getLast? ≠ some '\r' := by
  have noSpace :
      entry.1.toList.any Unicode.isWhitespace = false ↔
        ∀ c ∈ entry.1.toList, Unicode.isWhitespace c = false := by
    simp
  rw [noSpace]
  constructor
  · rintro ⟨named, unsigned, unspaced, unbroken, endsInText⟩
    exact ⟨named, unsigned, unspaced, unbroken, endsInText⟩
  · rintro ⟨named, unsigned, unspaced, unbroken, endsInText⟩
    exact ⟨named, unsigned, unspaced, unbroken, endsInText⟩

instance (entry : String × String) : Decidable (Writable entry) :=
  decidable_of_iff _ writable_iff.symm

/-- The line that writes a variable. -/
def lineOf (entry : String × String) : Text :=
  entry.1.toList ++ '=' :: entry.2.toList

/-- A line that writes no variable. -/
inductive Noise : Text → Prop where
  | unsigned
      {line : Text}
      (noSign : '=' ∉ line) :
      Noise line
  | nameless (rest : Text) :
      Noise ('=' :: rest)
  | spaced
      {front : Text}
      (rest : Text)
      (noSign : '=' ∉ front)
      (blank : ∃ c ∈ front, Unicode.isWhitespace c = true) :
      Noise (front ++ '=' :: rest)

/-- How a line of a dump ends. -/
inductive LineEnding where
  | feed
  | returnAndFeed
  deriving Repr, DecidableEq

def LineEnding.chars : LineEnding → Text
  | feed => ['\n']
  | returnAndFeed => ['\r', '\n']

/--
The texts that write variables, in the order in which they are written. Every
line ends in its own way, and the last one need not end at all.
-/
inductive Dumps : List (String × String) → Text → Prop where
  | nothing :
      Dumps [] []
  | lastEntry
      {entry : String × String}
      (writable : Writable entry) :
      Dumps [entry] (lineOf entry)
  | lastNoise
      {line : Text}
      (unbroken : '\n' ∉ line)
      (noise : Noise line) :
      Dumps [] line
  | nextEntry
      {entry : String × String}
      {entries : List (String × String)}
      {later : Text}
      (writable : Writable entry)
      (ending : LineEnding)
      (rest : Dumps entries later) :
      Dumps (entry :: entries) (lineOf entry ++ ending.chars ++ later)
  | nextNoise
      {line later : Text}
      {entries : List (String × String)}
      (unbroken : '\n' ∉ line)
      (noise : Noise line)
      (ending : LineEnding)
      (rest : Dumps entries later) :
      Dumps entries (line ++ ending.chars ++ later)

section Lines

variable {line front : Text} {entry : String × String}

theorem dropReturns_concat
    (line : Text) :
    dropReturns (line ++ ['\r']) = dropReturns line :=
  List.rdropWhile_concat_pos _ line '\r' rfl

/-- What does not end in a carriage return stays as it is. -/
theorem dropReturns_eq_self
    (endsInText : line.getLast? ≠ some '\r') :
    dropReturns line = line := by
  refine List.rdropWhile_eq_self_iff.mpr fun nonempty isReturn => endsInText ?_
  rw [List.getLast?_eq_some_getLast nonempty, beq_iff_eq.mp isReturn]

/-- Carriage returns are dropped behind any other character. -/
theorem dropReturns_append_sign
    (front back : Text) :
    dropReturns (front ++ '=' :: back) = front ++ '=' :: dropReturns back := by
  induction back using List.reverseRecOn with
  | nil =>
      exact List.rdropWhile_concat_neg _ front '=' (by decide)
  | append_singleton back last inductionHypothesis =>
      have regrouped :
          front ++ '=' :: (back ++ [last]) = front ++ '=' :: back ++ [last] := by
        simp
      by_cases isReturn : last = '\r'
      · rw [regrouped, isReturn, dropReturns_concat, dropReturns_concat,
          inductionHypothesis]
      · have endsInText (text : Text) : (text ++ [last]).getLast? ≠ some '\r' := by
          simpa using isReturn
        rw [dropReturns_eq_self (endsInText back), regrouped,
          dropReturns_eq_self (endsInText _)]

/-- A line with an equals sign writes a variable if a name stands before the sign. -/
theorem entryOfLine?_append_sign
    (back : Text)
    (unsigned : '=' ∉ front) :
    entryOfLine? (front ++ '=' :: back) =
      if front.isEmpty || front.any Unicode.isWhitespace then none
      else some (String.ofList front, String.ofList (dropReturns back)) := by
  rw [entryOfLine?, dropReturns_append_sign, Text.splitOnce?_append_cons _ unsigned]
  rfl

theorem entryOfLine?_lineOf
    (writable : Writable entry) :
    entryOfLine? (lineOf entry) = some entry := by
  have hasName : ¬(entry.1.toList.isEmpty || entry.1.toList.any Unicode.isWhitespace) := by
    simpa using ⟨writable.named, writable.unspaced⟩
  rw [lineOf, entryOfLine?_append_sign _ writable.unsigned, if_neg hasName,
    dropReturns_eq_self writable.endsInText, String.ofList_toList, String.ofList_toList]

theorem entryOfLine?_of_noise
    (noise : Noise line) :
    entryOfLine? line = none := by
  cases noise with
  | unsigned noSign =>
      have stillNone : '=' ∉ dropReturns line :=
        fun member => noSign ((List.rdropWhile_prefix _ line).subset member)
      rw [entryOfLine?, Text.splitOnce?_of_notMem stillNone]
      rfl
  | nameless rest =>
      exact entryOfLine?_append_sign rest List.not_mem_nil
  | spaced rest noSign blank =>
      rw [entryOfLine?_append_sign rest noSign, if_pos]
      rw [Bool.or_eq_true, List.any_eq_true]
      exact .inr blank

/-- A carriage return more or less at the end of a line makes no difference. -/
theorem entryOfLine?_dropReturn
    (line : Text) :
    entryOfLine? (Text.dropReturn line) = entryOfLine? line := by
  rw [Text.dropReturn]
  split
  · rename_i endsInReturn
    have shape : line = line.dropLast ++ ['\r'] :=
      (List.dropLast_append_getLast? '\r' endsInReturn).symm
    conv_rhs => rw [shape, entryOfLine?, dropReturns_concat]
    rfl
  · rfl

/-- A line is read alike, however it ends. -/
theorem filterMap_lines_append_ending
    (ending : LineEnding)
    (later : Text)
    (unbroken : '\n' ∉ line) :
    (line ++ ending.chars ++ later).lines.filterMap entryOfLine? =
      (entryOfLine? line).toList ++ later.lines.filterMap entryOfLine? := by
  cases ending with
  | feed =>
      have shape : line ++ LineEnding.feed.chars ++ later = line ++ '\n' :: later := by
        simp [LineEnding.chars]
      rw [shape, Text.lines_append_cons later unbroken, List.filterMap_cons,
        entryOfLine?_dropReturn]
      cases entryOfLine? line <;> rfl
  | returnAndFeed =>
      have shape :
          line ++ LineEnding.returnAndFeed.chars ++ later =
            (line ++ ['\r']) ++ '\n' :: later := by
        simp [LineEnding.chars]
      have sameEntry : entryOfLine? (line ++ ['\r']) = entryOfLine? line := by
        rw [entryOfLine?, dropReturns_concat, entryOfLine?]
      rw [shape, Text.lines_append_cons later (by simpa using unbroken),
        List.filterMap_cons, entryOfLine?_dropReturn, sameEntry]
      cases entryOfLine? line <;> rfl

theorem newline_notMem_lineOf
    (writable : Writable entry) :
    '\n' ∉ lineOf entry := by
  rw [lineOf, List.mem_append, List.mem_cons, not_or, not_or]
  refine ⟨fun member => ?_, by decide, writable.unbroken⟩
  have unspaced := writable.unspaced '\n' member
  exact absurd unspaced (by decide)

end Lines

/-- The lines of a dump write the variables that it dumps, and no others. -/
theorem Dumps.filterMap_lines
    {entries : List (String × String)}
    {dump : Text}
    (dumps : Dumps entries dump) :
    dump.lines.filterMap entryOfLine? = entries := by
  induction dumps with
  | nothing =>
      rfl
  | @lastEntry entry writable =>
      have nonempty : ¬(lineOf entry).isEmpty := by simp [lineOf]
      rw [Text.lines_of_notMem (newline_notMem_lineOf writable), if_neg nonempty,
        List.filterMap_cons_some (entryOfLine?_lineOf writable), List.filterMap_nil]
  | lastNoise unbroken noise =>
      rw [Text.lines_of_notMem unbroken]
      split
      · rfl
      · rw [List.filterMap_cons_none (entryOfLine?_of_noise noise), List.filterMap_nil]
  | nextEntry writable ending rest inductionHypothesis =>
      rw [filterMap_lines_append_ending ending _ (newline_notMem_lineOf writable),
        entryOfLine?_lineOf writable, inductionHypothesis]
      rfl
  | nextNoise unbroken noise ending rest inductionHypothesis =>
      rw [filterMap_lines_append_ending ending _ unbroken,
        entryOfLine?_of_noise noise, inductionHypothesis]
      rfl

/-- Variables of different names are all in the snapshot that they are collected in. -/
theorem mem_ofList_iff
    {entries : List (String × String)}
    (distinct : entries.Pairwise fun earlier later => earlier.1 ≠ later.1)
    (entry : String × String) :
    entry ∈ (ofList entries).entries ↔ entry ∈ entries := by
  rw [ofList, mem_foldl_iff (fun _ _ entry => mem_insert_iff entry) distinct]
  simp [empty]

/-- A snapshot is the variables that it holds. -/
theorem eq_of_mem_iff
    {first second : Snapshot}
    (same : ∀ entry, entry ∈ first.entries ↔ entry ∈ second.entries) :
    first = second := by
  let before (earlier later : String × String) : Prop := earlier.1 < later.1
  have irreflexive : Std.Irrefl before := ⟨fun entry => String.lt_irrefl entry.1⟩
  have antisymmetric : Std.Antisymm before :=
    ⟨fun _ _ below above => (String.lt_irrefl _ (String.lt_trans below above)).elim⟩
  have sameEntries : first.entries = second.entries :=
    List.Pairwise.eq_of_mem_iff (r := before) first.ascending second.ascending same
  cases first
  cases second
  cases sameEntries
  rfl

/-- The variables of a snapshot, in any order, are collected to the snapshot. -/
theorem ofList_of_perm
    {entries : List (String × String)}
    {snapshot : Snapshot}
    (order : entries.Perm snapshot.entries) :
    ofList entries = snapshot := by
  have distinct : entries.Pairwise fun earlier later => earlier.1 ≠ later.1 := by
    rw [order.pairwise_iff Ne.symm]
    refine snapshot.ascending.imp ?_
    intro earlier later below same
    exact String.lt_irrefl _ (same ▸ below)
  apply eq_of_mem_iff
  intro entry
  rw [mem_ofList_iff distinct, order.mem_iff]

/--
A dump is read as what it was written from: every snapshot, its variables
written in any order, each on a line that ends in either way, the last one
perhaps not at all, and with any lines in between that write no variable.
-/
theorem parse_dump
    {snapshot : Snapshot}
    {entries : List (String × String)}
    {dump : Text}
    (dumps : Dumps entries dump)
    (order : entries.Perm snapshot.entries) :
    parse dump = snapshot := by
  rw [parse, dumps.filterMap_lines, ofList_of_perm order]

/-- Variables with an empty value, and with values that look like more than a value. -/
def loggedVariables : Snapshot :=
  ofList [("EMPTY", ""), ("INCLUDE", "x=y \r #z"), ("Path", "C:\\a;C:\\b ")]

/-- They are read back from between the messages of a script. -/
theorem loggedVariables_parsed :
    parse
        ("** Tools **\r\nPath=C:\\a;C:\\b \r\n=C:=C:\\\n\nINCLUDE=x=y \r #z\n" ++
          "set up = done\r\r\nEMPTY=").toList =
      loggedVariables := by
  have written :
      ("** Tools **\r\nPath=C:\\a;C:\\b \r\n=C:=C:\\\n\nINCLUDE=x=y \r #z\n" ++
          "set up = done\r\r\nEMPTY=").toList =
        "** Tools **".toList ++ LineEnding.returnAndFeed.chars ++
        (lineOf ("Path", "C:\\a;C:\\b ") ++ LineEnding.returnAndFeed.chars ++
        ('=' :: "C:=C:\\".toList ++ LineEnding.feed.chars ++
        ([] ++ LineEnding.feed.chars ++
        (lineOf ("INCLUDE", "x=y \r #z") ++ LineEnding.feed.chars ++
        ("set up ".toList ++ '=' :: " done\r".toList ++ LineEnding.returnAndFeed.chars ++
        lineOf ("EMPTY", "")))))) := by
    decide +kernel
  rw [written]
  have last : Dumps [("EMPTY", "")] (lineOf ("EMPTY", "")) :=
    .lastEntry (by decide)
  have fromInclude :=
    Dumps.nextEntry (by decide : Writable ("INCLUDE", "x=y \r #z")) .feed
      (.nextNoise (by decide)
        (.spaced " done\r".toList (by decide : '=' ∉ "set up ".toList)
          ⟨' ', by decide, by decide⟩)
        .returnAndFeed last)
  have fromPath :=
    Dumps.nextEntry (by decide : Writable ("Path", "C:\\a;C:\\b ")) .returnAndFeed
      (.nextNoise (by decide) (.nameless "C:=C:\\".toList) .feed
        (.nextNoise List.not_mem_nil (.unsigned List.not_mem_nil) .feed fromInclude))
  exact
    parse_dump
      (.nextNoise (by decide) (.unsigned (by decide)) .returnAndFeed fromPath)
      (by decide +kernel)

end Provision.Snapshot
