import Provision.Proofs.Environment.Activation
import Provision.Proofs.Environment.SearchLists
import Provision.Proofs.Toolchain.Outcomes

namespace Provision

/-!
# Activating again

What a dump told once is known when the dump is read again, unless the search
path was edited in between. Then a dump that tells of the search path puts it
back, and the same edit leads to the same environment as before. So does the
search for the compiler, which edits the search path if it has to. A dump that
does not tell of the search path leaves the edit as it is; the same edit is then
made twice, which shows unless what is added is a text.
-/

namespace Environment

variable {env : Environment} {dir : Path}

/-- Two environments that differ at most in the search path that is pending. -/
structure SameButPath (first second : Environment) : Prop where
  base : first.base = second.base
  pending :
    ∀ target, target ≠ Variable.path →
      first.pending.get? target = second.pending.get? target

theorem sameButPath_addPath
    (env : Environment)
    (place : SearchList.Place)
    (dir : Path) :
    SameButPath (env.addPath place dir) env where
  base := addPath_base env place dir
  pending target isOther := by
    rw [addPath]
    split
    · rfl
    · rw [Delta.get?_set, if_neg (Ne.symm isOther)]

/-- To add a directory takes no pending variable back. -/
theorem get?_eq_none_of_addPath
    {place : SearchList.Place}
    {target : Variable}
    (unchanged : (env.addPath place dir).pending.get? target = none) :
    env.pending.get? target = none := by
  rw [addPath] at unchanged
  split at unchanged
  · exact unchanged
  · rw [Delta.get?_set] at unchanged
    split at unchanged
    · cases unchanged
    · exact unchanged

theorem SameButPath.var?_eq
    {first second : Environment}
    {target : Variable}
    (same : SameButPath first second)
    (isOther : target ≠ .path) :
    first.var? target.name = second.var? target.name := by
  have found : Variable.ofName? target.name = some target :=
    Variable.ofName?_eq_some_iff.mpr (Name.sameIgnoringCase_refl _)
  rw [var?, var?, Delta.getNamed?, Delta.getNamed?, found, Option.bind_some,
    Option.bind_some, same.base, same.pending target isOther]

/-- A new directory leads to one environment from all that list the same entries. -/
theorem SameButPath.addPath_eq
    {first second : Environment}
    (same : SameButPath first second)
    (sameEntries : first.pathEntries = second.pathEntries)
    (place : SearchList.Place)
    (unsplit : SearchList.cannotHold dir = false)
    (new : SearchList.lists second.pathEntries dir = false) :
    first.addPath place dir = second.addPath place dir := by
  have samePending (value : String) :
      first.pending.set .path value = second.pending.set .path value := by
    apply Delta.ext_get?
    intro target
    rw [Delta.get?_set, Delta.get?_set]
    split
    · rfl
    · rename_i isOther
      exact same.pending target (Ne.symm isOther)
  rw [addPath_of_new place unsplit new,
    addPath_of_new place unsplit (by rw [sameEntries, new]), sameEntries, samePending,
    same.base]

/--
A directory that is added a second time at the same end makes no difference,
unless it can be listed and is no text: then it is listed once more.
-/
theorem addPath_addPath_iff
    (env : Environment)
    (place : SearchList.Place)
    (dir : Path) :
    (env.addPath place dir).addPath place dir = env.addPath place dir ↔
      dir.IsText ∨ SearchList.cannotHold dir = true := by
  cases unsplit : SearchList.cannotHold dir with
  | true =>
      simp [addPath, unsplit]
  | false =>
      rw [or_iff_left Bool.false_ne_true]
      constructor
      · intro same
        refine Classical.byContradiction fun noText => ?_
        have listable : SearchList.Listable dir := ⟨dir.isEmpty_of_not_isText noText, unsplit⟩
        have grows (env : Environment) :
            (env.addPath place dir).pathEntries.length = env.pathEntries.length + 1 := by
          rw [pathEntries_addPath_of_new place listable (lists_eq_false_of_not_isText env noText),
            SearchList.length_add]
        have twice := grows (env.addPath place dir)
        rw [same] at twice
        omega
      · intro isText
        cases new : SearchList.lists env.pathEntries dir with
        | true =>
            rw [addPath_of_listed place new, addPath_of_listed place new]
        | false =>
            cases nameless : dir.isEmpty with
            | false =>
                exact addPath_of_listed place
                  ((lists_addPath_iff env place ⟨nameless, unsplit⟩).mpr isText)
            | true =>
                -- It is not listed then, but written once more over itself.
                exact
                  (sameButPath_addPath env place dir).addPath_eq
                    (pathEntries_addPath_of_nameless place nameless unsplit new) place
                    unsplit new

/-- Changes that go on from those that are pending take their place. -/
theorem merge_pending
    {before after : Environment}
    (base : after.base = before.base)
    (grown :
      ∀ target, after.pending.get? target = none → before.pending.get? target = none) :
    before.merge after.pending = after := by
  obtain ⟨_, pending⟩ := after
  cases base
  rw [merge, mk.injEq]
  refine ⟨rfl, Delta.ext_get? fun target => ?_⟩
  rw [Delta.get?_merge]
  cases found : pending.get? target with
  | some value => rfl
  | none => rw [grown target found, Option.none_or]

end Environment

namespace Toolchain

open Environment

/-- All variables that may be changed and that a dump defines have their value of the dump. -/
def Knows (env : Environment) (dump : String) : Prop :=
  ∀ target : Variable, ∀ value,
    (Snapshot.parse dump.toList).get? target.name = some value →
      env.var? target.name = some value

variable {env : Environment} {dump : String} {target : Variable}

theorem readDump_base
    (env : Environment)
    (dump : String) :
    (readDump env dump).base = env.base :=
  rfl

/-- What a dump defines has its value once the dump was read. -/
theorem var?_readDump
    (distinct : env.base.CaseDistinct)
    (dumpDistinct : (Snapshot.parse dump.toList).CaseDistinct)
    (target : Variable) :
    (readDump env dump).var? target.name =
      ((Snapshot.parse dump.toList).get? target.name).or (env.var? target.name) :=
  var?_merge_diff_of_target distinct dumpDistinct (Name.sameIgnoringCase_refl _)

theorem knows_readDump
    (distinct : env.base.CaseDistinct)
    (dumpDistinct : (Snapshot.parse dump.toList).CaseDistinct) :
    Knows (readDump env dump) dump := by
  intro target value defined
  rw [var?_readDump distinct dumpDistinct, defined, Option.some_or]

/-- A variable that has its value of the dump already is not touched. -/
theorem get?_readDump_of_known
    (distinct : env.base.CaseDistinct)
    (dumpDistinct : (Snapshot.parse dump.toList).CaseDistinct)
    (known :
      ∀ value,
        (Snapshot.parse dump.toList).get? target.name = some value →
          env.var? target.name = some value) :
    (readDump env dump).pending.get? target = env.pending.get? target := by
  have unchanged : (env.snapshot.diff (Snapshot.parse dump.toList)).get? target = none := by
    rw [Option.eq_none_iff_forall_ne_some]
    intro value changed
    obtain ⟨defined, unknown⟩ := (get?_diff_snapshot distinct dumpDistinct).mp changed
    exact unknown (known value defined)
  rw [readDump, merge, Delta.get?_merge, unchanged, Option.none_or]

/-- A dump that is known tells nothing new. -/
theorem readDump_of_knows
    (distinct : env.base.CaseDistinct)
    (dumpDistinct : (Snapshot.parse dump.toList).CaseDistinct)
    (knows : Knows env dump) :
    readDump env dump = env := by
  have samePending : (readDump env dump).pending = env.pending :=
    Delta.ext_get? fun target =>
      get?_readDump_of_known distinct dumpDistinct (knows target)
  exact congrArg (mk env.base) samePending

/-- What is known is known wherever the search path is, if nothing else differs. -/
theorem knows_of_sameButPath
    {other : Environment}
    (same : SameButPath other env)
    (knows : Knows env dump)
    (knowsPath :
      ∀ value,
        (Snapshot.parse dump.toList).get? Variable.path.name = some value →
          other.var? Variable.path.name = some value) :
    Knows other dump := by
  intro target value defined
  by_cases isPath : target = .path
  · subst isPath
    exact knowsPath value defined
  · rw [same.var?_eq isPath, knows target value defined]

/-- A dump that is known tells at most a search path. -/
theorem sameButPath_readDump
    {other : Environment}
    (same : SameButPath other env)
    (distinct : other.base.CaseDistinct)
    (dumpDistinct : (Snapshot.parse dump.toList).CaseDistinct)
    (knows : Knows env dump) :
    SameButPath (readDump other dump) env where
  base := (readDump_base other dump).trans same.base
  pending target isOther := by
    have known (value : String)
        (defined : (Snapshot.parse dump.toList).get? target.name = some value) :
        other.var? target.name = some value := by
      rw [same.var?_eq isOther, knows target value defined]
    rw [get?_readDump_of_known distinct dumpDistinct known, same.pending target isOther]

/-- A dump that does not tell of the search path tells nothing new after it was edited. -/
theorem readDump_addPath_of_silent
    (distinct : env.base.CaseDistinct)
    (dumpDistinct : (Snapshot.parse dump.toList).CaseDistinct)
    (knows : Knows env dump)
    (silent : (Snapshot.parse dump.toList).get? Variable.path.name = none)
    (place : SearchList.Place)
    (dir : Path) :
    readDump (env.addPath place dir) dump = env.addPath place dir := by
  have same := sameButPath_addPath env place dir
  refine readDump_of_knows (same.base ▸ distinct) dumpDistinct
    (knows_of_sameButPath same knows fun value defined => ?_)
  rw [silent] at defined
  cases defined

/--
A dump that tells of the search path puts it back after a directory was added,
and adding the directory again makes up for it.
-/
theorem readDump_addPath_of_told
    {value : String}
    (distinct : env.base.CaseDistinct)
    (dumpDistinct : (Snapshot.parse dump.toList).CaseDistinct)
    (knows : Knows env dump)
    (told : (Snapshot.parse dump.toList).get? Variable.path.name = some value)
    (place : SearchList.Place)
    (dir : Path) :
    (readDump (env.addPath place dir) dump).var? Variable.path.name =
        env.var? Variable.path.name ∧
      (readDump (env.addPath place dir) dump).addPath place dir =
        env.addPath place dir := by
  have same := sameButPath_addPath env place dir
  cases unchanged :
      SearchList.lists env.pathEntries dir || SearchList.cannotHold dir with
  | true =>
      have notAdded : env.addPath place dir = env := if_pos unchanged
      rw [notAdded, readDump_of_knows distinct dumpDistinct knows]
      exact ⟨rfl, notAdded⟩
  | false =>
      obtain ⟨new, unsplit⟩ := Bool.or_eq_false_iff.mp unchanged
      generalize shape : env.addPath place dir = extended at same ⊢
      have extendedDistinct : extended.base.CaseDistinct := same.base ▸ distinct
      have putBack :
          (readDump extended dump).var? Variable.path.name =
            env.var? Variable.path.name := by
        rw [var?_readDump extendedDistinct dumpDistinct, told, knows .path value told,
          Option.some_or]
      have sameEntries : (readDump extended dump).pathEntries = env.pathEntries := by
        rw [pathEntries, putBack, pathEntries]
      have stillSame := sameButPath_readDump same extendedDistinct dumpDistinct knows
      exact ⟨putBack, by rw [stillSame.addPath_eq sameEntries place unsplit new, shape]⟩

section CompilerIn

variable {machine : Machine} {disk : Disk} {root : Path} {compiler : String}

/--
The search for the compiler put a directory in front of the search path that the
search path holds only as it is shown, and there the compiler is not found; nor
does the dump put the search path back. A further search adds it once more.
-/
structure Drifts (machine : Machine) (disk : Disk) (root : Path) (compiler : String)
    (env : Environment) (dump : String) : Prop where
  notFound : env.located machine disk compiler = none
  added :
    ∃ dir,
      (disk.find machine.directory root compiler).head?.bind Path.parent? = some dir ∧
        ¬ dir.IsText ∧ SearchList.cannotHold dir = false
  stillNotFound :
    (compilerIn machine disk root compiler env).2.located machine disk compiler = none
  silent : (Snapshot.parse dump.toList).get? Variable.path.name = none

theorem compilerIn_of_added
    {dir : Path}
    (notFound : env.located machine disk compiler = none)
    (place : (disk.find machine.directory root compiler).head?.bind Path.parent? = some dir) :
    compilerIn machine disk root compiler env =
      ((disk.find machine.directory root compiler).head?, env.addPath .front dir) := by
  rw [compilerIn_of_not_located notFound, place, Option.elim_some]

/--
The compiler that is searched for once more, in an environment into which the
dump was read again, is found as before and leaves the same environment, unless
the search path drifts.
-/
theorem compilerIn_readDump_of_not_drifts
    (distinct : env.base.CaseDistinct)
    (dumpDistinct : (Snapshot.parse dump.toList).CaseDistinct)
    (knows : Knows env dump)
    (stillNotFound :
      (compilerIn machine disk root compiler env).2.located machine disk compiler = none)
    (stays : ¬ Drifts machine disk root compiler env dump) :
    compilerIn machine disk root compiler
        (readDump (compilerIn machine disk root compiler env).2 dump) =
      compilerIn machine disk root compiler env := by
  have nothingNew := readDump_of_knows distinct dumpDistinct knows
  cases before : env.located machine disk compiler with
  | some path =>
      rw [compilerIn_of_located before, nothingNew, compilerIn_of_located before]
  | none =>
      cases place : (disk.find machine.directory root compiler).head?.bind Path.parent? with
      | none =>
          rw [compilerIn_of_not_located before, place, Option.elim_none, nothingNew,
            compilerIn_of_not_located before, place, Option.elim_none]
      | some dir =>
          have searched := compilerIn_of_added before place
          cases told : (Snapshot.parse dump.toList).get? Variable.path.name with
          | some value =>
              obtain ⟨putBack, addedAgain⟩ :=
                readDump_addPath_of_told distinct dumpDistinct knows told .front dir
              have missing := (located_congr putBack machine disk compiler).trans before
              rw [searched, compilerIn_of_added missing place, addedAgain]
          | none =>
              have settled : dir.IsText ∨ SearchList.cannotHold dir = true := by
                refine Classical.byContradiction fun unread => stays ?_
                rw [not_or, Bool.not_eq_true] at unread
                exact ⟨before, ⟨dir, place, unread⟩, stillNotFound, told⟩
              rw [searched] at stillNotFound ⊢
              rw [readDump_addPath_of_silent distinct dumpDistinct knows told,
                compilerIn_of_added stillNotFound place,
                (addPath_addPath_iff env .front dir).mpr settled]

/-- Where the search path drifts, the compiler is found as before in another environment. -/
theorem Drifts.compilerIn_readDump
    {searched : Option Path × Environment}
    (drifts : Drifts machine disk root compiler env dump)
    (distinct : env.base.CaseDistinct)
    (dumpDistinct : (Snapshot.parse dump.toList).CaseDistinct)
    (knows : Knows env dump)
    (isSearched : compilerIn machine disk root compiler env = searched) :
    ∃ drifted,
      compilerIn machine disk root compiler (readDump searched.2 dump) =
          (searched.1, drifted) ∧
        drifted ≠ searched.2 := by
  obtain ⟨notFound, ⟨dir, place, noText, unsplit⟩, stillNotFound, silent⟩ := drifts
  rw [compilerIn_of_added notFound place] at stillNotFound isSearched
  subst isSearched
  rw [readDump_addPath_of_silent distinct dumpDistinct knows silent]
  refine ⟨_, compilerIn_of_added stillNotFound place, fun same => ?_⟩
  rcases (addPath_addPath_iff env .front dir).mp same with isText | split
  · exact noText isText
  · rw [unsplit] at split
    cases split

/-- What an activation changes leads to the environment in which the compiler was found. -/
theorem merge_compilerIn_readDump
    (machine : Machine)
    (disk : Disk)
    (root : Path)
    (compiler : String)
    (env : Environment)
    (dump : String) :
    env.merge (compilerIn machine disk root compiler (readDump env dump)).2.pending =
      (compilerIn machine disk root compiler (readDump env dump)).2 := by
  have grown {target : Variable}
      (unchanged : (readDump env dump).pending.get? target = none) :
      env.pending.get? target = none := by
    rw [readDump, merge, Delta.get?_merge] at unchanged
    exact (Option.or_eq_none_iff.mp unchanged).2
  rcases compilerIn_environment machine disk root compiler (readDump env dump) with
    kept | ⟨dir, added⟩
  · rw [kept]
    exact merge_pending (readDump_base env dump) fun _ => grown
  · rw [added]
    refine
      merge_pending ((addPath_base _ .front dir).trans (readDump_base env dump))
        fun target unchanged => grown ?_
    exact get?_eq_none_of_addPath unchanged

/-- An activation succeeds by the output of the script. -/
theorem activationAfter_eq_some
    {reply : Reply}
    {activation : Activation}
    (succeeds : activationAfter machine root compiler env reply = some activation) :
    ∃ output,
      reply.outcome = .ok output ∧
        output.succeeded = true ∧
        activation.compiler =
          (compilerIn machine reply.disk root compiler (readDump env output.stdout)).1 ∧
        env.merge activation.delta =
          (compilerIn machine reply.disk root compiler (readDump env output.stdout)).2 := by
  cases outcome : reply.outcome with
  | error reason =>
      rw [activationAfter_of_error outcome] at succeeds
      cases succeeds
  | ok output =>
      rw [activationAfter_of_ok outcome] at succeeds
      split at succeeds
      · rename_i endsWell
        obtain rfl := Option.some.inj succeeds
        exact ⟨output, rfl, endsWell, rfl, merge_compilerIn_readDump _ _ _ _ _ _⟩
      · cases succeeds

/-- Only what ended well activates a toolchain. -/
theorem endedWell_of_activationAfter
    {reply : Reply}
    {activation : Activation}
    (succeeds : activationAfter machine root compiler env reply = some activation) :
    reply.endedWell = true := by
  obtain ⟨output, outcome, endsWell, -⟩ := activationAfter_eq_some succeeds
  rw [Reply.endedWell, outcome]
  exact endsWell

end CompilerIn

end Toolchain

end Provision
