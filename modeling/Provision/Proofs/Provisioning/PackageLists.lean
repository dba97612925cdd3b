import Provision.Proofs.Provisioning.Discipline

namespace Provision

/-!
# Package lists

On Unix no package is installed in a run unless the package lists were brought
up to date before, and lists that are up to date are not updated again. Lists
that could not be updated are: if that happened while Qt was to be installed,
what the isolated installer needs is installed by the package manager, too, and
the update is tried a second time.
-/

/-- Whether a command is one of the package manager. -/
def Invocation.managesPackages (invocation : Invocation) : Bool :=
  invocation.arguments.head? == some Platform.packageManager

/-- Whether a command installs packages. -/
def Invocation.installsPackages (invocation : Invocation) : Bool :=
  invocation.program == "sudo" &&
    [Platform.packageManager, "install"].isPrefixOf invocation.arguments

/-- How often the package lists were to be brought up to date. -/
def updates (exchanges : List Exchange) : Nat :=
  exchanges.countP (·.1 == Platform.updateLists)

/--
Packages are installed only while the lists are up to date, and the lists are
updated only while they are not.
-/
def UpdatesFirst : Bool → List Exchange → Prop
  | _, [] => True
  | updated, (invocation, reply) :: rest =>
      (invocation.installsPackages = true → updated = true) ∧
        (invocation = Platform.updateLists → updated = false) ∧
        UpdatesFirst
          (updated || (invocation == Platform.updateLists && reply.endedWell))
          rest

/-- Commands of other programs than the package manager. -/
def Unmanaged (exchanges : List Exchange) : Prop :=
  ∀ exchange ∈ exchanges, exchange.1.managesPackages = false

/-- What some commands do with the package lists. -/
structure ListsKept
    (before : Bool)
    (exchanges : List Exchange)
    (after : Bool) :
    Prop where
  ordered : UpdatesFirst before exchanges
  after_eq : after = (before || updatedLists exchanges)

section Laws

variable {updated before between after : Bool} {exchanges later : List Exchange}

@[simp] theorem updates_append
    (exchanges later : List Exchange) :
    updates (exchanges ++ later) = updates exchanges + updates later :=
  List.countP_append

theorem UpdatesFirst.append_iff :
    UpdatesFirst updated (exchanges ++ later) ↔
      UpdatesFirst updated exchanges ∧
        UpdatesFirst (updated || updatedLists exchanges) later := by
  induction exchanges generalizing updated with
  | nil => simp [UpdatesFirst]
  | cons exchange rest inductionHypothesis =>
      simp only [List.cons_append, UpdatesFirst, inductionHypothesis, succeeded_cons,
        Bool.or_assoc, and_assoc]

/-- The law, told of each command by those before it. -/
theorem UpdatesFirst.of_split
    {front back : List Exchange}
    {invocation : Invocation}
    {reply : Reply}
    (ordered : UpdatesFirst updated (front ++ (invocation, reply) :: back)) :
    (invocation.installsPackages = true → (updated || updatedLists front) = true) ∧
      (invocation = Platform.updateLists → (updated || updatedLists front) = false) := by
  obtain ⟨-, installs, updatesLists, -⟩ := append_iff.mp ordered
  exact ⟨installs, updatesLists⟩

theorem Invocation.of_unmanaged
    {invocation : Invocation}
    (unmanaged : invocation.managesPackages = false) :
    invocation.installsPackages = false ∧ invocation ≠ Platform.updateLists := by
  constructor
  · rw [← Bool.not_eq_true]
    intro installs
    obtain ⟨-, words⟩ := Bool.and_eq_true_iff.mp installs
    obtain ⟨rest, shape⟩ := List.isPrefixOf_iff_prefix.mp words
    rw [managesPackages, ← shape] at unmanaged
    cases unmanaged
  · rintro rfl
    cases unmanaged

namespace Unmanaged

theorem updates_eq
    (unmanaged : Unmanaged exchanges) :
    updates exchanges = 0 := by
  rw [updates, List.countP_eq_zero]
  intro exchange member
  simpa using (Invocation.of_unmanaged (unmanaged exchange member)).2

theorem updatedLists_eq
    (unmanaged : Unmanaged exchanges) :
    updatedLists exchanges = false :=
  succeeded_eq_false fun exchange member => by
    simpa using (Invocation.of_unmanaged (unmanaged exchange member)).2

theorem listsKept
    (unmanaged : Unmanaged exchanges)
    (updated : Bool) :
    ListsKept updated exchanges updated := by
  refine ⟨?_, by rw [unmanaged.updatedLists_eq, Bool.or_false]⟩
  induction exchanges with
  | nil => trivial
  | cons exchange rest inductionHypothesis =>
      obtain ⟨first, others⟩ := List.forall_mem_cons.mp unmanaged
      obtain ⟨installsNothing, isOther⟩ := Invocation.of_unmanaged first
      refine ⟨fun installs => ?_, fun isUpdate => (isOther isUpdate).elim, ?_⟩
      · rw [installsNothing] at installs
        cases installs
      · rw [beq_eq_false_iff_ne.mpr isOther, Bool.false_and, Bool.or_false]
        exact inductionHypothesis others

end Unmanaged

theorem ListsKept.append
    (first : ListsKept before exchanges between)
    (second : ListsKept between later after) :
    ListsKept before (exchanges ++ later) after where
  ordered := by
    rw [UpdatesFirst.append_iff, ← first.after_eq]
    exact ⟨first.ordered, second.ordered⟩
  after_eq := by
    rw [second.after_eq, first.after_eq, Bool.or_assoc, ← succeeded_append]

end Laws

section Parts

variable {settings : Settings} {machine : Machine} {start finish : Moment}
  {exchanges : List Exchange}

theorem Inspected.unmanaged
    {platform : Platform}
    {before after : Session}
    (inspected : Inspected platform before exchanges after) :
    Unmanaged exchanges := by
  intro exchange member
  have inspection := inspected.inspections exchange member
  generalize exchange.1 = invocation at inspection
  cases inspection <;> rfl

theorem Inspected.listsKept
    {platform : Platform}
    {before after : Session}
    (inspected : Inspected platform before exchanges after) :
    ListsKept before.listsUpdated exchanges after.listsUpdated := by
  rw [inspected.listsUpdated]
  exact inspected.unmanaged.listsKept _

/-- What it comes to when packages are installed, by what was known of the lists. -/
theorem PackagesInstalled.runs
    {tool : String}
    {packages : List String}
    {before after : Session}
    {outcome : Except Failure Unit}
    (installed : PackagesInstalled tool packages before exchanges outcome after) :
    (before.listsUpdated = true ∧
        ∃ reply, exchanges = [(Platform.installPackages packages, reply)]) ∨
      (before.listsUpdated = false ∧
        ∃ update failure,
          update.endedWell = false ∧
            exchanges = [(Platform.updateLists, update)] ∧
            outcome = .error failure) ∨
      before.listsUpdated = false ∧
        ∃ update reply,
          update.endedWell = true ∧
            exchanges =
              [(Platform.updateLists, update),
                (Platform.installPackages packages, reply)] := by
  have single
      {ran : List Exchange}
      {result : Except Failure Unit}
      (installers : InstallersRun tool [Platform.installPackages packages] ran result) :
      ∃ reply, ran = [(Platform.installPackages packages, reply)] := by
    cases installers with
    | stops fails => exact ⟨_, rfl⟩
    | goesOn succeeds rest =>
        cases rest
        exact ⟨_, rfl⟩
  have installers := installed.installers
  cases updated : before.listsUpdated with
  | true =>
      rw [updated] at installers
      exact .inl ⟨rfl, single installers⟩
  | false =>
      rw [updated] at installers
      cases installers with
      | stops fails => exact .inr (.inl ⟨rfl, _, _, fails, rfl, rfl⟩)
      | goesOn succeeds rest =>
          obtain ⟨reply, rfl⟩ := single rest
          exact .inr (.inr ⟨rfl, _, reply, succeeds, rfl⟩)

theorem PackagesInstalled.listsKept
    {tool : String}
    {packages : List String}
    {before after : Session}
    {outcome : Except Failure Unit}
    (installed : PackagesInstalled tool packages before exchanges outcome after) :
    ListsKept before.listsUpdated exchanges after.listsUpdated := by
  refine ⟨?_, installed.listsUpdated⟩
  rcases installed.runs with
    ⟨updated, reply, rfl⟩ |
      ⟨outdated, update, _, failed, rfl, -⟩ | ⟨outdated, update, reply, succeeded, rfl⟩
  · simp [UpdatesFirst, updated]
  · rw [outdated]
    exact ⟨nofun, fun _ => rfl, trivial⟩
  · rw [outdated]
    refine ⟨nofun, fun _ => rfl, ?_, ?_, trivial⟩
    · simp [succeeded]
    · simp

/-- The lists are to be updated once if they are not, and not at all if they are. -/
theorem PackagesInstalled.updates_add
    {tool : String}
    {packages : List String}
    {before after : Session}
    {outcome : Except Failure Unit}
    (installed : PackagesInstalled tool packages before exchanges outcome after) :
    updates exchanges + before.listsUpdated.toNat = 1 := by
  rcases installed.runs with
    ⟨updated, reply, rfl⟩ | ⟨outdated, update, _, -, rfl, -⟩ | ⟨outdated, update, reply, -, rfl⟩
  · simp [updates, updated]
  · simp [updates, outdated]
  · simp [updates, outdated]

theorem PackagesInstalled.updated
    {tool : String}
    {packages : List String}
    {before after : Session}
    (installed : PackagesInstalled tool packages before exchanges (.ok ()) after) :
    after.listsUpdated = true := by
  rw [installed.listsUpdated]
  rcases installed.runs with
    ⟨updated, -⟩ | ⟨-, update, _, -, -, isError⟩ | ⟨-, update, reply, succeeds, rfl⟩
  · rw [updated, Bool.true_or]
  · cases isError
  · simp [succeeds]

theorem Prepared.listsKept
    {outcome : Except Failure Unit}
    (prepared : Prepared machine .unix start exchanges outcome finish) :
    ListsKept start.session.listsUpdated exchanges finish.session.listsUpdated := by
  cases prepared with
  | unavailable missing => exact Unmanaged.listsKept (List.forall_mem_nil _) _
  | packages found installed => exact installed.listsKept

theorem ThroughIndex.unmanaged
    {settings : QtSettings}
    {home : Option Path}
    {commands : List Invocation}
    {index : Qt.Index}
    {outcome : Except Failure Qt.Resolution}
    {after : World}
    (through : ThroughIndex settings home commands index exchanges outcome after)
    (others : ∀ invocation ∈ commands, invocation.managesPackages = false) :
    Unmanaged exchanges :=
  through.forall_commands (·.managesPackages = false) others (fun _ => rfl) fun _ _ _ => rfl

theorem PlatformInstalled.listsKept
    {tool : Tool}
    {outcome : Except Failure (Option Qt.Resolution)}
    (installed :
      PlatformInstalled settings machine .unix tool start exchanges outcome finish) :
    ListsKept start.session.listsUpdated exchanges finish.session.listsUpdated := by
  cases installed with
  | packages ordinary installed => exact installed.listsKept
  | noQtPackages installed => exact installed.listsKept
  | qtPackages installed inspected => exact installed.listsKept.append inspected.listsKept

/-- What comes after the packages of the isolated installer has no use for the lists. -/
theorem Isolated.exists_prepared
    {outcome : Except Failure Qt.Resolution}
    (isolated : Isolated .unix settings machine start exchanges outcome finish) :
    ∃ earlier later prepared middle,
      exchanges = earlier ++ later ∧
        Prepared machine .unix start earlier prepared middle ∧
        finish.session = middle.session ∧
        Unmanaged later := by
  cases isolated with
  | unprepared prepared =>
      exact ⟨_, [], _, _, (List.append_nil _).symm, prepared, rfl, List.forall_mem_nil _⟩
  | homeless prepared noPlace =>
      exact ⟨_, [], _, _, (List.append_nil _).symm, prepared, rfl, List.forall_mem_nil _⟩
  | through prepared place through =>
      refine ⟨_, _, _, _, rfl, prepared, rfl, through.unmanaged ?_⟩
      exact List.forall_mem_cons.mpr ⟨rfl, List.forall_mem_singleton.mpr rfl⟩

theorem Isolated.listsKept
    {outcome : Except Failure Qt.Resolution}
    (isolated : Isolated .unix settings machine start exchanges outcome finish) :
    ListsKept start.session.listsUpdated exchanges finish.session.listsUpdated := by
  obtain ⟨earlier, later, _, middle, rfl, prepared, sameSession, unmanaged⟩ :=
    isolated.exists_prepared
  rw [sameSession]
  exact prepared.listsKept.append (unmanaged.listsKept _)

theorem ToolInstalled.listsKept
    {step : PlanStep}
    {outcome : Except Failure (Option Qt.Resolution)}
    (installed : ToolInstalled .unix settings machine step start exchanges outcome finish) :
    ListsKept start.session.listsUpdated exchanges finish.session.listsUpdated := by
  cases installed with
  | byPlatform notIsolated final runs installed => exact installed.listsKept
  | again isQt notIsolated fails installed runs isolated =>
      exact installed.listsKept.append isolated.listsKept
  | isolated isIsolated isolated => exact isolated.listsKept

theorem Lasting.unmanaged
    {platform : Platform}
    {env : Environment}
    {dir : Path}
    {disk after : Disk}
    (lasting : Lasting settings machine env dir disk platform exchanges after) :
    Unmanaged exchanges := by
  cases lasting with
  | stored elevation stored =>
      exact List.forall_mem_cons.mpr ⟨rfl, List.forall_mem_singleton.mpr rfl⟩
  | kept => exact List.forall_mem_nil _
  | appended chosen read absent appended => exact List.forall_mem_nil _

theorem Carried.listsKept
    {step : PlanStep}
    {outcome : Except Failure (ToolStatus × Option Qt.Resolution)}
    (carried : Carried .unix settings machine step start exchanges outcome finish) :
    ListsKept start.session.listsUpdated exchanges finish.session.listsUpdated := by
  cases carried with
  | skipped skips kept =>
      rw [kept]
      exact Unmanaged.listsKept (List.forall_mem_nil _) _
  | failed begun installed => exact installed.listsKept
  | probed begun installed sameTool inspected =>
      exact installed.listsKept.append inspected.listsKept
  | registered begun installed place registered =>
      rw [registered.listsUpdated]
      exact installed.listsKept.append (registered.lasting.unmanaged.listsKept _)

theorem PlatformInstalled.updates_add
    {tool : Tool}
    {outcome : Except Failure (Option Qt.Resolution)}
    (installed :
      PlatformInstalled settings machine .unix tool start exchanges outcome finish) :
    updates exchanges + start.session.listsUpdated.toNat = 1 := by
  cases installed with
  | packages ordinary installed => exact installed.updates_add
  | noQtPackages installed => exact installed.updates_add
  | qtPackages installed inspected =>
      rw [updates_append, inspected.unmanaged.updates_eq, Nat.add_zero]
      exact installed.updates_add

theorem PlatformInstalled.updated
    {tool : Tool}
    {resolution : Option Qt.Resolution}
    (installed :
      PlatformInstalled settings machine .unix tool start exchanges (.ok resolution) finish) :
    finish.session.listsUpdated = true := by
  generalize isOk : Except.ok resolution = outcome at installed
  cases installed with
  | packages ordinary installed =>
      obtain ⟨_, rfl, -⟩ := Except.map_eq_ok_iff.mp isOk.symm
      exact installed.updated
  | noQtPackages installed => cases isOk
  | qtPackages installed inspected =>
      rw [inspected.listsUpdated]
      exact installed.updated

/-- What the isolated installer needs makes for an update if the lists are not up to date. -/
theorem Isolated.updates_eq
    {outcome : Except Failure Qt.Resolution}
    (isolated : Isolated .unix settings machine start exchanges outcome finish) :
    updates exchanges =
      (Platform.unix.installerFound .guiRuntime machine start.session.env
          start.world.disk &&
        !start.session.listsUpdated).toNat := by
  obtain ⟨earlier, later, _, middle, rfl, prepared, -, unmanaged⟩ :=
    isolated.exists_prepared
  rw [updates_append, unmanaged.updates_eq, Nat.add_zero]
  cases prepared with
  | unavailable missing =>
      rw [missing]
      rfl
  | packages found installed =>
      have once := installed.updates_add
      rw [found]
      cases updated : start.session.listsUpdated with
      | false => simpa [updated] using once
      | true => simpa [updated] using once

/-- The step of an ordinary tool updates the lists at most once, and then for good. -/
theorem Carried.updates_add
    {step : PlanStep}
    {outcome : Except Failure (ToolStatus × Option Qt.Resolution)}
    (carried : Carried .unix settings machine step start exchanges outcome finish)
    (planned : Planned step.tool step)
    (ordinary : step.tool ≠ .guiRuntime) :
    (∃ result,
        outcome = .ok result ∧
          updates exchanges + start.session.listsUpdated.toNat =
            finish.session.listsUpdated.toNat) ∨
      ∃ failure,
        outcome = .error failure ∧
          updates exchanges + start.session.listsUpdated.toNat = 1 := by
  have onlyQt := planned.guiRuntime_of_isolated
  have notIsolated : step.action ≠ .installIsolated :=
    fun isIsolated => ordinary (onlyQt isIsolated)
  cases carried with
  | skipped skips kept =>
      refine .inl ⟨_, rfl, ?_⟩
      rw [kept]
      exact Nat.zero_add _
  | failed begun installed =>
      obtain ⟨-, installed⟩ := installed.of_ordinary ordinary notIsolated
      exact .inr ⟨_, rfl, installed.updates_add⟩
  | probed begun installed sameTool inspected =>
      obtain ⟨-, installed⟩ := installed.of_ordinary ordinary notIsolated
      refine .inl ⟨_, rfl, ?_⟩
      rw [updates_append, inspected.unmanaged.updates_eq, Nat.add_zero,
        inspected.listsUpdated, installed.updated]
      exact installed.updates_add
  | registered begun installed place registered =>
      exact (ordinary (installed.isQt_of_resolved onlyQt)).elim

end Parts

/--
To install Qt by the package manager fails before the package lists are up to
date, and the package manager is there for what the isolated installer needs.
-/
def RepeatsUpdate
    (settings : Settings)
    (machine : Machine)
    (begun : Moment) :
    Prop :=
  ∃ failure failed,
    (Platform.unix.install settings .guiRuntime).exec machine begun =
        (.error failure, failed) ∧
      failed.session.listsUpdated = false ∧
      Platform.unix.installerFound .guiRuntime machine failed.session.env
          failed.world.disk =
        true

section Steps

variable {settings : Settings} {machine : Machine} {start finish : Moment}
  {exchanges : List Exchange} {step : PlanStep}

/-- To install Qt updates the lists at most once, or else twice for a reason. -/
theorem ToolInstalled.updates_qt
    {outcome : Except Failure (Option Qt.Resolution)}
    (installed : ToolInstalled .unix settings machine step start exchanges outcome finish)
    (isQt : step.tool = .guiRuntime)
    (begun : step.action ≠ .skip) :
    (¬(step.action = .install ∧ RepeatsUpdate settings machine start) ∧
        updates exchanges + start.session.listsUpdated.toNat ≤ 1) ∨
      (step.action = .install ∧ RepeatsUpdate settings machine start) ∧
        updates exchanges + start.session.listsUpdated.toNat = 2 := by
  cases installed with
  | byPlatform notIsolated final runs installed =>
      refine .inl ⟨?_, Nat.le_of_eq installed.updates_add⟩
      rintro ⟨-, failure, failed, fails, -⟩
      rw [isQt] at runs
      cases runs.symm.trans fails
      exact final failure rfl isQt
  | @again _ _ failure failed _ _ _ notIsolated fails installed runs isolated =>
      have meant : step.action = .install := by
        cases action : step.action with
        | skip => exact (begun action).elim
        | install => rfl
        | installIsolated => exact (notIsolated action).elim
      have once := installed.updates_add
      have again := isolated.updates_eq
      rw [Provisioning.isolating, Moment.told_session, Moment.told_disk,
        Moment.complained_session, Moment.complained_disk] at again
      rw [updates_append, again]
      cases repeated :
          Platform.unix.installerFound .guiRuntime machine failed.session.env
              failed.world.disk &&
            !failed.session.listsUpdated with
      | false =>
          refine .inl ⟨?_, Nat.le_of_eq once⟩
          rintro ⟨-, _, _, fails', outdated, found⟩
          cases fails.symm.trans fails'
          rw [found, outdated] at repeated
          cases repeated
      | true =>
          obtain ⟨found, outdated⟩ := Bool.and_eq_true_iff.mp repeated
          refine .inr ⟨⟨meant, failure, failed, fails, by simpa using outdated, found⟩, ?_⟩
          rw [Bool.toNat_true]
          omega
  | isolated isIsolated isolated =>
      refine .inl ⟨fun ⟨meant, _⟩ => ?_, ?_⟩
      · rw [isIsolated] at meant
        cases meant
      · rw [isolated.updates_eq, Provisioning.isolating, Moment.told_session]
        cases start.session.listsUpdated with
        | false => exact Bool.toNat_le _
        | true => simp

theorem Carried.updates_qt
    {outcome : Except Failure (ToolStatus × Option Qt.Resolution)}
    (carried : Carried .unix settings machine step start exchanges outcome finish)
    (isQt : step.tool = .guiRuntime) :
    (¬(step.action = .install ∧ RepeatsUpdate settings machine (step.beginning start)) ∧
        updates exchanges + start.session.listsUpdated.toNat ≤ 1) ∨
      (step.action = .install ∧ RepeatsUpdate settings machine (step.beginning start)) ∧
        updates exchanges + start.session.listsUpdated.toNat = 2 := by
  cases carried with
  | skipped skips kept =>
      refine .inl ⟨fun ⟨meant, _⟩ => ?_, ?_⟩
      · rw [skips] at meant
        cases meant
      · exact Nat.le_trans (Nat.le_of_eq (Nat.zero_add _)) (Bool.toNat_le _)
  | failed begun installed => exact installed.updates_qt isQt begun
  | probed begun installed sameTool inspected =>
      rw [updates_append, inspected.unmanaged.updates_eq, Nat.add_zero]
      exact installed.updates_qt isQt begun
  | registered begun installed place registered =>
      rw [updates_append, registered.lasting.unmanaged.updates_eq, Nat.add_zero]
      exact installed.updates_qt isQt begun

/-- Ordinary tools update the lists once in turn, if at all. -/
theorem InTurn.updates_add
    {plan : List PlanStep}
    {segments : List (List Exchange)}
    {outcome : Except Failure (List (ToolStatus × Option Qt.Resolution))}
    (inTurn :
      InTurn (Stepped .unix settings machine) plan start segments outcome finish)
    (ordinary : ∀ step ∈ plan, Planned step.tool step ∧ step.tool ≠ .guiRuntime) :
    (∃ results,
        outcome = .ok results ∧
          updates segments.flatten + start.session.listsUpdated.toNat =
            finish.session.listsUpdated.toNat) ∨
      ∃ failure,
        outcome = .error failure ∧
          updates segments.flatten + start.session.listsUpdated.toNat = 1 := by
  induction inTurn with
  | done start => exact .inl ⟨[], rfl, Nat.zero_add _⟩
  | goesOn first rest inductionHypothesis =>
      -- What the first step makes of the lists is what the others begin with.
      obtain ⟨⟨planned, isOrdinary⟩, restOrdinary⟩ := List.forall_mem_cons.mp ordinary
      rcases first.carried.updates_add planned isOrdinary with
        ⟨_, -, firstUpdates⟩ | ⟨_, isError, -⟩
      · rw [List.flatten_cons, updates_append]
        rcases inductionHypothesis restOrdinary with
          ⟨results, rfl, restUpdates⟩ | ⟨failure, rfl, restUpdates⟩
        · exact .inl ⟨_, rfl, by omega⟩
        · exact .inr ⟨failure, rfl, by omega⟩
      · cases isError
  | stops first =>
      obtain ⟨planned, isOrdinary⟩ := (List.forall_mem_cons.mp ordinary).1
      rw [List.flatten_singleton]
      rcases first.carried.updates_add planned isOrdinary with
        ⟨_, isOk, -⟩ | ⟨_, isError, firstUpdates⟩
      · cases isOk
      · cases isError
        exact .inr ⟨_, rfl, firstUpdates⟩

theorem InTurn.listsKept
    {plan : List PlanStep}
    {segments : List (List Exchange)}
    {outcome : Except Failure (List (ToolStatus × Option Qt.Resolution))}
    (inTurn :
      InTurn (Stepped .unix settings machine) plan start segments outcome finish) :
    ListsKept start.session.listsUpdated segments.flatten finish.session.listsUpdated := by
  induction inTurn with
  | done start => exact Unmanaged.listsKept (List.forall_mem_nil _) _
  | goesOn first rest inductionHypothesis =>
      exact first.carried.listsKept.append inductionHypothesis
  | stops first =>
      rw [List.flatten_singleton]
      exact first.carried.listsKept

end Steps

/-- A run installs Qt in a way that updates the lists twice. -/
def UpdatesTwice
    (settings : Settings)
    (machine : Machine)
    (start : Moment) :
    Prop :=
  ∃ step moment,
    Reaches .unix settings machine start step moment ∧
      step.tool = .guiRuntime ∧
      step.action = .install ∧
      RepeatsUpdate settings machine (step.beginning moment)

section Runs

variable {settings : Settings} {machine : Machine} {start planned finish : Moment}
  {planning : List Exchange} {plan : List PlanStep} {segments : List (List Exchange)}
  {results : Except Failure (List (ToolStatus × Option Qt.Resolution))}

namespace ProvisioningRun

theorem listsKept
    (run :
      ProvisioningRun .unix settings machine start planning plan planned segments results
        finish) :
    ListsKept start.session.listsUpdated (planning ++ segments.flatten)
      finish.session.listsUpdated :=
  run.inspected.listsKept.append run.inTurn.listsKept

theorem updates_ordinary
    {front : List PlanStep}
    {before : List (List Exchange)}
    {outcome : Except Failure (List (ToolStatus × Option Qt.Resolution))}
    {moment : Moment}
    (run :
      ProvisioningRun .unix settings machine start planning plan planned segments results
        finish)
    (outdated : start.session.listsUpdated = false)
    (ordinary : List.Forall₂ Planned Tool.ordinary front)
    (inTurn : InTurn (Stepped .unix settings machine) front planned before outcome moment) :
    (∃ done,
        outcome = .ok done ∧
          updates (planning ++ before.flatten) = moment.session.listsUpdated.toNat) ∨
      ∃ failure, outcome = .error failure ∧ updates (planning ++ before.flatten) = 1 := by
  have counted :=
    inTurn.updates_add fun step member =>
      ⟨Planned.of_mem ordinary member, Planned.ne_guiRuntime ordinary member⟩
  rw [run.inspected.listsUpdated, outdated, Bool.toNat_false, Nat.add_zero] at counted
  rw [updates_append, run.inspected.unmanaged.updates_eq, Nat.zero_add]
  exact counted

end ProvisioningRun

end Runs

/--
In a run on Unix that begins with outdated package lists, packages are installed
only behind an update that succeeded, and there is no update behind one that
succeeded. There are two updates exactly if Qt is installed in a way that makes
for a second one, and else at most one.
-/
theorem package_lists_updated
    {settings : Settings}
    {machine : Machine}
    {start : Moment}
    (outdated : start.session.listsUpdated = false) :
    ∃ exchanges,
      Course machine start.world exchanges
          ((Provisioning.provision .unix settings).exec machine start).2.world ∧
        (∀ front invocation reply back,
          exchanges = front ++ (invocation, reply) :: back →
            (invocation.installsPackages = true → updatedLists front = true) ∧
              (invocation = Platform.updateLists → updatedLists front = false)) ∧
        (¬UpdatesTwice settings machine start → updates exchanges ≤ 1) ∧
        (UpdatesTwice settings machine start → updates exchanges = 2) := by
  obtain ⟨planning, plan, planned, segments, results, finish, run⟩ :=
    exists_provisioningRun .unix settings machine start
  rw [run.ends]
  refine ⟨_, run.course, ?_, fun onlyOnce => ?_, fun updatesTwice => ?_⟩
  · intro front invocation reply back shape
    have ordered := run.listsKept.ordered
    rw [shape, outdated] at ordered
    simpa using ordered.of_split
  · rcases run.ordinary_or_qt with
      ⟨front, failure, -, ordinary, inTurn⟩ |
        ⟨front, qt, before, last, done, outcome, moment, comes⟩
    · rcases run.updates_ordinary outdated ordinary inTurn with ⟨_, isOk, -⟩ | ⟨_, -, once⟩
      · cases isOk
      · exact Nat.le_of_eq once
    · rcases run.updates_ordinary outdated comes.ordinary comes.inTurn with
        ⟨_, -, before⟩ | ⟨_, isError, -⟩
      · rcases comes.stepped.carried.updates_qt comes.isQt.tool_eq with
          ⟨-, last⟩ | ⟨⟨meant, repeated⟩, -⟩
        · rw [comes.segments_eq, List.flatten_append, List.flatten_singleton,
            ← List.append_assoc, updates_append]
          omega
        · exact
            (onlyOnce
              ⟨qt, moment, run.reaches_qt comes, comes.isQt.tool_eq, meant, repeated⟩).elim
      · cases isError
  · obtain ⟨step, moment, reaches, isQt, meant, repeated⟩ := updatesTwice
    obtain ⟨front, before, last, done, outcome, comes⟩ := run.reached_qt reaches isQt
    rcases run.updates_ordinary outdated comes.ordinary comes.inTurn with
      ⟨_, -, before⟩ | ⟨_, isError, -⟩
    · rcases comes.stepped.carried.updates_qt isQt with ⟨once, -⟩ | ⟨-, last⟩
      · exact (once ⟨meant, repeated⟩).elim
      · rw [comes.segments_eq, List.flatten_append, List.flatten_singleton,
          ← List.append_assoc, updates_append]
        omega
    · cases isError

/-- A machine whose package lists cannot be brought up to date. -/
def offlineMachine : Machine where
  runner world invocation :=
    let code := if invocation = Platform.updateLists then 100 else 0
    { outcome := .ok (.ofProcess (some code) "" ""), disk := world.disk }
  home := some "/home/dev"

/-- Where the update fails for Qt, it is tried again for what the isolated installer needs. -/
theorem offlineMachine_updates_twice :
    toolStart.session.listsUpdated = false ∧
      UpdatesTwice {} offlineMachine toolStart ∧
      ∃ exchanges,
        Course offlineMachine toolStart.world exchanges
            ((Provisioning.provision .unix {}).exec offlineMachine toolStart).2.world ∧
          updates exchanges = 2 := by
  have outdated : toolStart.session.listsUpdated = false := rfl
  have updatesTwice : UpdatesTwice {} offlineMachine toolStart :=
    ⟨qtStep, _, ⟨foundSteps, [], _, _, rfl, rfl⟩, rfl, rfl, _, _, rfl, rfl, rfl⟩
  obtain ⟨exchanges, course, -, -, twice⟩ := package_lists_updated outdated
  exact ⟨outdated, updatesTwice, exchanges, course, twice updatesTwice⟩

/-- The update of the package lists that failed is run a second time. -/
theorem failedUpdate_repeated :
    ((Provisioning.provision .unix {}).exec offlineMachine toolStart).2.world.calls.count
        Platform.updateLists =
      2 := by
  decide +kernel

end Provision
