import Provision.Environment.Effective
import Provision.Proofs.Environment.Deltas

namespace Provision.Environment

/-!
# Taking over an activated environment

The snapshot of an environment answers as the environment itself does, so what
differs from it in a dump is what the environment does not know yet. Merged
into the environment, the difference gives the variables that may be changed
the values of the dump, and leaves all others alone.
-/

/-- The environments that a run can come to from the one of its process. -/
inductive Reached (base : Snapshot) : Environment → Prop where
  | start : Reached base (ofSnapshot base)
  | merge {env : Environment} (delta : Delta) :
      Reached base env → Reached base (env.merge delta)
  | append {env : Environment} (dir : Path) :
      Reached base env → Reached base (env.appendPath dir)
  | prepend {env : Environment} (dir : Path) :
      Reached base env → Reached base (env.prependPath dir)

theorem addPath_base
    (env : Environment)
    (place : SearchList.Place)
    (dir : Path) :
    (env.addPath place dir).base = env.base := by
  rw [addPath]
  split <;> rfl

/-- No step of a run touches what the process started with. -/
theorem Reached.base_eq
    {base : Snapshot}
    {env : Environment}
    (reached : Reached base env) :
    env.base = base := by
  induction reached with
  | start =>
      rfl
  | merge delta _ inductionHypothesis =>
      exact inductionHypothesis
  | append dir _ inductionHypothesis =>
      exact (addPath_base _ .back dir).trans inductionHypothesis
  | prepend dir _ inductionHypothesis =>
      exact (addPath_base _ .front dir).trans inductionHypothesis

variable {env : Environment} {name : String}

/-- Lay one pending variable over a snapshot. -/
def overlay (snapshot : Snapshot) (entry : String × String) : Snapshot :=
  (snapshot.dropNames (Name.sameIgnoringCase · entry.1)).insert entry.1 entry.2

/-- What is laid over takes the place of every spelling of its name. -/
theorem mem_overlay_iff
    (snapshot : Snapshot)
    (pending entry : String × String) :
    entry ∈ (overlay snapshot pending).entries ↔
      entry = pending ∨
        (entry ∈ snapshot.entries ∧
          Name.sameIgnoringCase entry.1 pending.1 = false) := by
  rw [overlay, Snapshot.mem_insert_iff, Snapshot.mem_dropNames_iff]
  refine or_congr_right ⟨And.left, fun kept => ⟨kept, ?_⟩⟩
  intro sameName
  rw [sameName, Name.sameIgnoringCase_refl] at kept
  exact Bool.noConfusion kept.2

/-- The snapshot holds what is pending, and of the process what is not. -/
theorem mem_snapshot_iff
    (entry : String × String) :
    entry ∈ env.snapshot.entries ↔
      entry ∈ env.pending.entries ∨
        (entry ∈ env.base.entries ∧
          ∀ other ∈ env.pending.entries,
            Name.sameIgnoringCase entry.1 other.1 = false) :=
  Snapshot.mem_foldl_iff mem_overlay_iff env.pending.pairwise_entries entry

/-- Laying changes over a snapshot brings no spelling variants in. -/
theorem snapshot_caseDistinct
    (distinct : env.base.CaseDistinct) :
    env.snapshot.CaseDistinct := by
  intro first firstMember second secondMember same
  rcases mem_snapshot_iff first |>.mp firstMember with
      firstPending | ⟨firstInBase, firstFree⟩
  · rcases mem_snapshot_iff second |>.mp secondMember with
        secondPending | ⟨-, secondFree⟩
    · obtain ⟨firstTarget, firstName, -⟩ := Delta.mem_entries_iff first |>.mp firstPending
      obtain ⟨secondTarget, secondName, -⟩ := Delta.mem_entries_iff second |>.mp secondPending
      rw [firstName, secondName] at same ⊢
      rw [Variable.eq_of_sameIgnoringCase same]
    · rw [Name.sameIgnoringCase_comm, secondFree first firstPending] at same
      cases same
  · rcases mem_snapshot_iff second |>.mp secondMember with
        secondPending | ⟨secondInBase, -⟩
    · rw [firstFree second secondPending] at same
      cases same
    · exact distinct first firstInBase second secondInBase same

/-- What is laid over is the one spelling of its name. -/
theorem spellings_overlay_of_same
    (snapshot : Snapshot)
    {pending : String × String}
    (same : Name.sameIgnoringCase pending.1 name = true) :
    (overlay snapshot pending).spellings name = [pending] := by
  apply Snapshot.spellings_insert_of_none same
  rw [Snapshot.spellings, List.filter_eq_nil_iff]
  intro entry member sameEntry
  have kept := (Snapshot.mem_dropNames_iff entry).mp member
  rw [Name.sameIgnoringCase_congr sameEntry, Name.sameIgnoringCase_comm, same] at kept
  cases kept.2

/-- Other names keep their spellings. -/
theorem spellings_overlay_of_other
    (snapshot : Snapshot)
    {pending : String × String}
    (other : Name.sameIgnoringCase pending.1 name = false) :
    (overlay snapshot pending).spellings name = snapshot.spellings name := by
  rw [overlay, Snapshot.spellings_insert_of_other other, Snapshot.spellings,
    Snapshot.dropNames, List.filter_filter, Snapshot.spellings]
  apply List.filter_congr
  intro entry _
  cases same : Name.sameIgnoringCase entry.1 name with
  | false =>
      rfl
  | true =>
      rw [Name.sameIgnoringCase_congr same, Name.sameIgnoringCase_comm, other]
      rfl

theorem spellings_foldl_overlay_of_others
    {pending : List (String × String)}
    {snapshot : Snapshot}
    (others : ∀ entry ∈ pending, Name.sameIgnoringCase entry.1 name = false) :
    (pending.foldl overlay snapshot).spellings name = snapshot.spellings name := by
  induction pending generalizing snapshot with
  | nil =>
      rfl
  | cons first rest inductionHypothesis =>
      obtain ⟨firstOther, restOthers⟩ := List.forall_mem_cons.mp others
      rw [List.foldl_cons, inductionHypothesis restOthers,
        spellings_overlay_of_other snapshot firstOther]

/-- What is not pending has the spellings of the process. -/
theorem spellings_snapshot_of_others
    (others : ∀ entry ∈ env.pending.entries, Name.sameIgnoringCase entry.1 name = false) :
    env.snapshot.spellings name = env.base.spellings name :=
  spellings_foldl_overlay_of_others others

/-- A pending variable is the one spelling of its name in the snapshot. -/
theorem spellings_snapshot_of_pending
    {entry : String × String}
    (isPending : entry ∈ env.pending.entries)
    (same : Name.sameIgnoringCase entry.1 name = true) :
    env.snapshot.spellings name = [entry] := by
  obtain ⟨front, back, shape⟩ := List.append_of_mem isPending
  have distinct := env.pending.pairwise_entries
  rw [shape] at distinct
  have laterOthers :
      ∀ later ∈ back, Name.sameIgnoringCase later.1 name = false := by
    intro later member
    have differs :=
      List.rel_of_pairwise_cons (List.pairwise_append.mp distinct).2.1 member
    rwa [Name.sameIgnoringCase_congr same, Name.sameIgnoringCase_comm] at differs
  change (env.pending.entries.foldl overlay env.base).spellings name = [entry]
  rw [shape, List.foldl_append, List.foldl_cons,
    spellings_foldl_overlay_of_others laterOthers, spellings_overlay_of_same _ same]

/-- The snapshot answers as the environment does. -/
theorem get?_snapshot
    (env : Environment)
    (name : String) :
    env.snapshot.get? name = env.var? name := by
  rw [var?]
  cases found : env.pending.getNamed? name with
  | none =>
      have others := Delta.getNamed?_eq_none_iff.mp found
      rw [Option.none_or, Snapshot.get?_eq_spellings,
        spellings_snapshot_of_others others, ← Snapshot.get?_eq_spellings]
  | some value =>
      obtain ⟨stored, isPending, same⟩ := Delta.getNamed?_eq_some_iff.mp found
      rw [Snapshot.get?_eq_spellings, spellings_snapshot_of_pending isPending same,
        List.lookup_cons]
      cases name == stored <;> rfl

/--
Looking a variable up in the snapshot of an environment finds what looking it up
in the environment finds: in every environment that a run can come to, under
every spelling, and also where the process has several spellings of one name.
Both find what is pending, or else what the process has.
-/
theorem views_agree
    {base : Snapshot}
    (reached : Reached base env)
    (name : String) :
    env.snapshot.get? name = env.var? name ∧
      env.var? name = (env.pending.getNamed? name).or (base.get? name) := by
  refine ⟨get?_snapshot env name, ?_⟩
  rw [var?, reached.base_eq]

/-- A process with several spellings of two names. -/
def spelledVariables : Snapshot :=
  .ofList [("PATH", "/bin"), ("Path", "/opt"), ("TEMP", "/t1"), ("Temp", "/t2"), ("path", "/x")]

/-- A change shows under every spelling; elsewhere the exact spelling counts, or the first. -/
theorem spelledVariables_agree :
    let env := ((ofSnapshot spelledVariables).merge { libDirs := some "/lib" }).appendPath "/qt"
    env.snapshot.get? "Path" = some "/bin:/qt" ∧
      env.snapshot.get? "lib" = some "/lib" ∧
      env.snapshot.get? "Temp" = some "/t2" ∧
      env.snapshot.get? "temp" = some "/t1" := by
  intro env
  have reached : Reached spelledVariables env :=
    .append "/qt" (.merge { libDirs := some "/lib" } .start)
  refine ⟨?_, ?_, ?_, ?_⟩
  · exact (views_agree reached "Path").1.trans (by decide +kernel)
  · exact (views_agree reached "lib").1.trans (by decide +kernel)
  · exact (views_agree reached "Temp").1.trans (by decide +kernel)
  · exact (views_agree reached "temp").1.trans (by decide +kernel)

/-- The delta that is merged holds what the environment does not know yet. -/
theorem get?_diff_snapshot
    {dump : Snapshot}
    {target : Variable}
    {value : String}
    (distinct : env.base.CaseDistinct)
    (dumpDistinct : dump.CaseDistinct) :
    (env.snapshot.diff dump).get? target = some value ↔
      dump.get? target.name = some value ∧
        env.var? target.name ≠ some value := by
  rw [Snapshot.get?_diff_eq_some_iff (snapshot_caseDistinct distinct) dumpDistinct,
    get?_snapshot]

theorem var?_merge
    (env : Environment)
    (delta : Delta)
    (name : String) :
    (env.merge delta).var? name = (delta.getNamed? name).or (env.var? name) := by
  simp only [var?, merge, Delta.getNamed?]
  cases Variable.ofName? name with
  | none => rfl
  | some target => simp [Option.or_assoc]

/-- Spellings of one name find the same in an environment. -/
theorem var?_congr
    {first second : String}
    (distinct : env.base.CaseDistinct)
    (same : Name.sameIgnoringCase first second = true) :
    env.var? first = env.var? second := by
  rw [← get?_snapshot, ← get?_snapshot]
  exact (snapshot_caseDistinct distinct).get?_congr same

/-- With the difference merged, a variable on the list has its value of the dump, if it has one. -/
theorem var?_merge_diff_of_target
    {dump : Snapshot}
    {target : Variable}
    (distinct : env.base.CaseDistinct)
    (dumpDistinct : dump.CaseDistinct)
    (same : Name.sameIgnoringCase target.name name = true) :
    (env.merge (env.snapshot.diff dump)).var? name =
      (dump.get? name).or (env.var? name) := by
  have merged := var?_merge env (env.snapshot.diff dump) name
  rw [Delta.getNamed?, Variable.ofName?_eq_some_iff.mpr same,
    Option.bind_some] at merged
  rw [merged, ← dumpDistinct.get?_congr same, ← var?_congr distinct same]
  cases inDump : dump.get? target.name with
  | none =>
      cases inDelta : (env.snapshot.diff dump).get? target with
      | none =>
          rfl
      | some value =>
          have defined := (get?_diff_snapshot distinct dumpDistinct).mp inDelta
          rw [inDump] at defined
          cases defined.1
  | some value =>
      by_cases known : env.var? target.name = some value
      · cases inDelta : (env.snapshot.diff dump).get? target with
        | none =>
            exact known
        | some other =>
            obtain ⟨defined, -⟩ := (get?_diff_snapshot distinct dumpDistinct).mp inDelta
            rw [inDump] at defined
            rw [defined]
      · rw [(get?_diff_snapshot distinct dumpDistinct).mpr ⟨inDump, known⟩]

/-- Outside the list, a variable stays what it is. -/
theorem var?_merge_of_foreign
    (delta : Delta)
    (foreign :
      ∀ target : Variable, Name.sameIgnoringCase target.name name = false) :
    (env.merge delta).var? name = env.var? name := by
  rw [var?_merge, Delta.getNamed?, Variable.ofName?_eq_none_iff.mpr foreign]
  rfl

/--
The law of activation, for every environment that a run can come to and every
dump, where neither holds spelling variants of one name. Of the variables that
may be changed, the merged environment has the values of the dump where it
defines one, under any spelling; all others are as before. The delta holds just
the values that are new, and no variable outside the list has an influence on it.
-/
theorem merge_diff_effective
    {base dump : Snapshot}
    (reached : Reached base env)
    (distinct : base.CaseDistinct)
    (dumpDistinct : dump.CaseDistinct) :
    (∀ name,
      (∃ target : Variable, Name.sameIgnoringCase target.name name = true) →
        (env.merge (env.snapshot.diff dump)).var? name =
          (dump.get? name).or (env.var? name)) ∧
    (∀ name,
      (∀ target : Variable, Name.sameIgnoringCase target.name name = false) →
        (env.merge (env.snapshot.diff dump)).var? name = env.var? name) ∧
    (∀ name value,
      (name, value) ∈ (env.snapshot.diff dump).entries ↔
        (∃ target : Variable, name = target.name) ∧
          dump.get? name = some value ∧
          env.var? name ≠ some value) ∧
    (∀ other : Snapshot,
      other.CaseDistinct →
        (∀ target : Variable, dump.get? target.name = other.get? target.name) →
          env.snapshot.diff dump = env.snapshot.diff other) := by
  rw [← reached.base_eq] at distinct
  refine ⟨?listed, ?foreign, ?delta, ?independent⟩
  case listed =>
    rintro name ⟨target, same⟩
    exact var?_merge_diff_of_target distinct dumpDistinct same
  case foreign =>
    exact fun name foreign => var?_merge_of_foreign _ foreign
  case delta =>
    intro name value
    rw [Delta.mem_entries_iff]
    constructor
    · rintro ⟨target, rfl, isValue⟩
      exact ⟨⟨target, rfl⟩, (get?_diff_snapshot distinct dumpDistinct).mp isValue⟩
    · rintro ⟨⟨target, rfl⟩, changed⟩
      exact ⟨target, rfl, (get?_diff_snapshot distinct dumpDistinct).mpr changed⟩
  case independent =>
    intro other otherDistinct agree
    apply Delta.ext_get?
    intro target
    apply Option.ext
    intro value
    rw [get?_diff_snapshot distinct dumpDistinct,
      get?_diff_snapshot distinct otherDistinct, agree target]

/-- A process with its own spelling of the search path. -/
def processVariables : Snapshot :=
  .ofList [("Path", "/bin"), ("USER", "dev")]

/-- A dump with another spelling, a variable that is new, and one that is foreign. -/
def vendorDump : Snapshot :=
  .ofList [("INCLUDE", "/vc/include"), ("SECRET", "x"), ("path", "/vc/bin:/bin")]

/-- The search path of the dump is found, and what is foreign is not let in. -/
theorem vendorDump_effective :
    let env := (ofSnapshot processVariables).appendPath "/opt/qt"
    let activated := env.merge (env.snapshot.diff vendorDump)
    env.var? "Path" = some "/bin:/opt/qt" ∧
      activated.var? "PATH" = some "/vc/bin:/bin" ∧
      activated.var? "Include" = some "/vc/include" ∧
      activated.var? "USER" = some "dev" ∧
      activated.var? "SECRET" = none := by
  intro env activated
  have reached : Reached processVariables env :=
    .append "/opt/qt" .start
  have distinct : processVariables.CaseDistinct := by
    decide +kernel
  have dumpDistinct : vendorDump.CaseDistinct := by
    decide +kernel
  obtain ⟨listed, foreign, -⟩ := merge_diff_effective reached distinct dumpDistinct
  refine ⟨by decide +kernel, ?_, ?_, ?_, ?_⟩
  · rw [listed "PATH" ⟨.path, by decide⟩]
    decide +kernel
  · rw [listed "Include" ⟨.includeDirs, by decide⟩]
    decide +kernel
  · rw [foreign "USER" fun target => by cases target <;> decide]
    decide +kernel
  · rw [foreign "SECRET" fun target => by cases target <;> decide]
    decide +kernel

end Provision.Environment
