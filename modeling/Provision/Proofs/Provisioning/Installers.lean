import Provision.Proofs.Provisioning.Probes
import Provision.Proofs.Qt.Resolution

namespace Provision

/-!
# What installers run

Installers are run one after the other, up to the first that does not end well;
its failure tells of the command and of the reply. Qt comes from an index by
three questions and one installer, which installs what the questions settled.
-/

/-- Why an installer failed, by the reply to its command. -/
def Reply.installFailure
    (reply : Reply)
    (tool : String)
    (invocation : Invocation) :
    Failure :=
  match reply.outcome with
  | .error reason => .commandFailed invocation.shown reason.message
  | .ok output => .installFailed tool invocation.shown output.statusText

/-- Installers of a tool that are run in order, up to the first that fails. -/
inductive InstallersRun (tool : String) :
    List Invocation → List Exchange → Except Failure Unit → Prop where
  | done :
      InstallersRun tool [] [] (.ok ())
  | stops
      {invocation : Invocation}
      {commands : List Invocation}
      {reply : Reply}
      (fails : reply.endedWell = false) :
      InstallersRun tool (invocation :: commands) [(invocation, reply)]
        (.error (reply.installFailure tool invocation))
  | goesOn
      {invocation : Invocation}
      {commands : List Invocation}
      {reply : Reply}
      {exchanges : List Exchange}
      {outcome : Except Failure Unit}
      (succeeds : reply.endedWell = true)
      (rest : InstallersRun tool commands exchanges outcome) :
      InstallersRun tool (invocation :: commands) ((invocation, reply) :: exchanges)
        outcome

namespace InstallersRun

variable {tool : String} {commands : List Invocation} {exchanges : List Exchange}
  {outcome : Except Failure Unit} {failure : Failure}

/-- One installer is run, whatever the reply to it is. -/
theorem single
    (tool : String)
    (invocation : Invocation)
    (reply : Reply) :
    InstallersRun tool [invocation] [(invocation, reply)]
      (if reply.endedWell then .ok ()
        else .error (reply.installFailure tool invocation)) := by
  cases ended : reply.endedWell with
  | false => exact .stops ended
  | true => exact .goesOn ended .done

/-- Only the installers that are meant are run. -/
theorem mem_commands
    (installers : InstallersRun tool commands exchanges outcome) :
    ∀ exchange ∈ exchanges, exchange.1 ∈ commands := by
  induction installers with
  | done => exact List.forall_mem_nil _
  | stops => exact List.forall_mem_singleton.mpr List.mem_cons_self
  | goesOn _ _ inductionHypothesis =>
      refine List.forall_mem_cons.mpr ⟨List.mem_cons_self, fun exchange member => ?_⟩
      exact List.mem_cons_of_mem _ (inductionHypothesis exchange member)

/-- A failure is that of the last command. -/
theorem exists_last_of_error
    (installers : InstallersRun tool commands exchanges (.error failure)) :
    ∃ front invocation reply,
      exchanges = front ++ [(invocation, reply)] ∧
        reply.endedWell = false ∧
        failure = reply.installFailure tool invocation := by
  generalize isError : (Except.error failure : Except Failure Unit) = failed
    at installers
  induction installers with
  | done => cases isError
  | stops fails =>
      cases isError
      exact ⟨[], _, _, rfl, fails, rfl⟩
  | goesOn _ _ inductionHypothesis =>
      obtain ⟨front, invocation, reply, rfl, fails, isFailure⟩ := inductionHypothesis isError
      exact ⟨_ :: front, invocation, reply, rfl, fails, isFailure⟩

end InstallersRun

section Attempts

variable {machine : Machine} {world : World}

/-- An installer is one command, and the outcome is told by the reply to it. -/
theorem ensures_runInstaller
    (tool : String)
    (invocation : Invocation) :
    (runInstaller tool invocation).Ensures machine world
      fun exchanges outcome after =>
        ∃ reply,
          exchanges = [(invocation, reply)] ∧
            outcome =
              (if reply.endedWell then .ok ()
                else .error (reply.installFailure tool invocation)) ∧
            after.disk = reply.disk := by
  refine Attempt.ensures_bind (Attempt.ensures_status ?_)
  refine
    Attempt.ensures_bind
      (Attempt.ensures_orFail (Run.ensures_command fun reply => ?_))
  cases outcome : reply.outcome with
  | error reason =>
      exact ⟨reply, rfl, by simp [Reply.endedWell, Reply.installFailure, outcome], rfl⟩
  | ok output =>
      dsimp only [Except.mapError_ok]
      split
      · rename_i succeeded
        exact
          Attempt.ensures_pure
            ⟨reply, rfl, by simp [Reply.endedWell, outcome, succeeded], rfl⟩
      · rename_i failed
        exact
          Attempt.ensures_throw
            ⟨reply, rfl,
              by simp [Reply.endedWell, Reply.installFailure, outcome, failed], rfl⟩

end Attempts

section Places

/-- Where Qt is installed, if it is set or the home directory is known. -/
def QtSettings.installPlace? (settings : QtSettings) (home : Option Path) : Option Path :=
  settings.installDir.or (home.map (·.child "Qt"))

/-- Where the isolated installer lives, if it is set or the home directory is known. -/
def QtSettings.installerPlace? (settings : QtSettings) (home : Option Path) : Option Path :=
  settings.installerDir.or (home.map (·.child ".venv-qt-installer"))

/-- A place that is not known for want of a home directory. -/
def orHomeless : Option Path → Except Failure Path
  | some dir => .ok dir
  | none => .error .homeUnavailable

variable {machine : Machine} {world : World}

@[simp] theorem Attempt.exec_home :
    Attempt.home.exec machine world = (orHomeless machine.home, world) := by
  obtain ⟨runner, directory, home, elevated, refusal⟩ := machine
  cases home <;> rfl

@[simp] theorem QtSettings.exec_installPath
    (settings : QtSettings) :
    settings.installPath.exec machine world =
      (orHomeless (settings.installPlace? machine.home), world) := by
  rw [installPath, installPlace?]
  cases settings.installDir with
  | some dir => rfl
  | none =>
      rw [Attempt.exec_bind, Attempt.exec_home]
      cases machine.home <;> rfl

@[simp] theorem QtSettings.exec_installerPath
    (settings : QtSettings) :
    settings.installerPath.exec machine world =
      (orHomeless (settings.installerPlace? machine.home), world) := by
  rw [installerPath, installerPlace?]
  cases settings.installerDir with
  | some dir => rfl
  | none =>
      rw [Attempt.exec_bind, Attempt.exec_home]
      cases machine.home <;> rfl

end Places

namespace Qt

variable {machine : Machine} {world : World}

/-- The questions that a resolution answers, with the replies to them. -/
def Index.questions
    (index : Index)
    (resolution : Resolution)
    (versions architectures modules : Reply) :
    List Exchange :=
  [(index.listVersions, versions),
    (index.listArchitectures resolution.version, architectures),
    (index.listModules resolution.version resolution.architecture, modules)]

/-- Resolving fails before the first question, or it asks all three and succeeds. -/
theorem ensures_resolve
    (index : Index)
    (settings : QtSettings) :
    (resolve index settings).Ensures machine world fun exchanges outcome _ =>
      (∃ failure,
        fallbackVersion settings = .error failure ∧
          exchanges = [] ∧ outcome = .error failure) ∨
        ∃ resolution versions architectures modules,
          exchanges = index.questions resolution versions architectures modules ∧
            outcome = .ok resolution := by
  cases readable : Version.parse settings.fallbackVersion with
  | error reason =>
      have unreadable :
          fallbackVersion settings =
            .error (.configInvalid settingsFile
              ("qt.fallback_version: " ++ reason.message)) := by
        rw [fallbackVersion, readable]
      refine
        Attempt.ensures_of_exec ?_ (.done world)
          (.inl ⟨_, unreadable, rfl, rfl⟩)
      simp [resolve, unreadable]
  | ok fallback =>
      obtain ⟨version, versionWorld, versionReply, versionRuns, versionDialogue, -⟩ :=
        @exists_exec_resolveVersion machine world index settings.major fallback
      obtain ⟨architecture, architectureWorld, architectureReply, architectureRuns,
        architectureDialogue, -⟩ :=
        @exists_exec_resolveArchitecture machine versionWorld index settings version.value
      obtain ⟨modules, after, moduleReply, moduleRuns, moduleDialogue, -⟩ :=
        @exists_exec_resolveModules machine architectureWorld index settings
          version.value architecture.value
      -- Every question is asked: without an answer its stage settles on a fallback.
      have dialogue :=
        versionDialogue.append (architectureDialogue.append moduleDialogue)
      exact
        Attempt.ensures_of_exec
          (exec_resolve readable versionRuns architectureRuns moduleRuns)
          dialogue.course
          (.inr
            ⟨assembled version architecture modules, versionReply, architectureReply,
              moduleReply, rfl, rfl⟩)

end Qt

/-- Qt from an index: what is asked and run, how it ends, and the world behind it. -/
inductive FromIndex (settings : QtSettings) (home : Option Path) (index : Qt.Index) :
    List Exchange → Except Failure Qt.Resolution → World → Prop where
  | unresolved
      {failure : Failure}
      {after : World}
      (unreadable : Qt.fallbackVersion settings = .error failure) :
      FromIndex settings home index [] (.error failure) after
  | homeless
      {resolution : Qt.Resolution}
      {versions architectures modules : Reply}
      {after : World}
      (noPlace : settings.installPlace? home = none) :
      FromIndex settings home index
        (index.questions resolution versions architectures modules)
        (.error .homeUnavailable) after
  | failed
      {resolution : Qt.Resolution}
      {versions architectures modules reply : Reply}
      {dir : Path}
      {after : World}
      (place : settings.installPlace? home = some dir)
      (fails : reply.endedWell = false) :
      FromIndex settings home index
        (index.questions resolution versions architectures modules ++
          [(index.install resolution dir, reply)])
        (.error
          (reply.installFailure Tool.guiRuntime.shown (index.install resolution dir)))
        after
  | installed
      {resolution : Qt.Resolution}
      {versions architectures modules reply : Reply}
      {dir : Path}
      {after : World}
      (place : settings.installPlace? home = some dir)
      (succeeds : reply.endedWell = true)
      (disk : after.disk = reply.disk) :
      FromIndex settings home index
        (index.questions resolution versions architectures modules ++
          [(index.install resolution dir, reply)])
        (.ok resolution) after

theorem ensures_installFromIndex
    {machine : Machine}
    {world : World}
    (settings : QtSettings)
    (index : Qt.Index) :
    (installFromIndex settings index).Ensures machine world
      (FromIndex settings machine.home index) := by
  refine Attempt.ensures_bind ((Qt.ensures_resolve index settings).mono ?_)
  rintro exchanges outcome resolved
    (⟨failure, unreadable, rfl, rfl⟩ |
      ⟨resolution, versions, architectures, modules, rfl, rfl⟩)
  · exact .unresolved unreadable
  refine
    Attempt.ensures_bind
      (Attempt.ensures_of_exec (settings.exec_installPath) (.done _) ?_)
  cases place : settings.installPlace? machine.home with
  | none =>
      dsimp only [orHomeless]
      rw [List.append_nil]
      exact .homeless place
  | some dir =>
      refine Attempt.ensures_bind (Attempt.ensures_status ?_)
      refine Attempt.ensures_bind ((ensures_runInstaller _ _).mono ?_)
      rintro _ _ after ⟨reply, rfl, rfl, disk⟩
      cases ended : reply.endedWell with
      | false => exact .failed place ended
      | true => exact Attempt.ensures_pure (.installed place ended disk)

/-- Qt through an index, once the installers that the index needs have succeeded. -/
inductive ThroughIndex
    (settings : QtSettings)
    (home : Option Path)
    (commands : List Invocation)
    (index : Qt.Index) :
    List Exchange → Except Failure Qt.Resolution → World → Prop where
  | noIndex
      {exchanges : List Exchange}
      {failure : Failure}
      {after : World}
      (installers :
        InstallersRun Tool.guiRuntime.shown commands exchanges (.error failure)) :
      ThroughIndex settings home commands index exchanges (.error failure) after
  | fromIndex
      {exchanges later : List Exchange}
      {outcome : Except Failure Qt.Resolution}
      {after : World}
      (installers : InstallersRun Tool.guiRuntime.shown commands exchanges (.ok ()))
      (installed : FromIndex settings home index later outcome after) :
      ThroughIndex settings home commands index (exchanges ++ later) outcome after

section Commands

variable {settings : QtSettings} {home : Option Path} {index : Qt.Index}
  {exchanges : List Exchange} {outcome : Except Failure Qt.Resolution} {after : World}

/-- What holds of the commands of an index holds of all that are run. -/
theorem FromIndex.forall_commands
    (installed : FromIndex settings home index exchanges outcome after)
    (holds : Invocation → Prop)
    (asks : ∀ selection, holds (index.listing selection))
    (installs :
      ∀ resolution dir,
        settings.installPlace? home = some dir → holds (index.install resolution dir)) :
    ∀ exchange ∈ exchanges, holds exchange.1 := by
  have questions
      (resolution : Qt.Resolution)
      (versions architectures modules : Reply) :
      ∀ exchange ∈ index.questions resolution versions architectures modules,
        holds exchange.1 :=
    List.forall_mem_cons.mpr
      ⟨asks _, List.forall_mem_cons.mpr ⟨asks _, List.forall_mem_singleton.mpr (asks _)⟩⟩
  cases installed with
  | unresolved unreadable => exact List.forall_mem_nil _
  | homeless noPlace => exact questions _ _ _ _
  | failed place fails =>
      refine List.forall_mem_append.mpr ⟨questions _ _ _ _, ?_⟩
      exact List.forall_mem_singleton.mpr (installs _ _ place)
  | installed place succeeds disk =>
      refine List.forall_mem_append.mpr ⟨questions _ _ _ _, ?_⟩
      exact List.forall_mem_singleton.mpr (installs _ _ place)

/-- So it does if it holds of the installers as well that the index needs. -/
theorem ThroughIndex.forall_commands
    {commands : List Invocation}
    (through : ThroughIndex settings home commands index exchanges outcome after)
    (holds : Invocation → Prop)
    (others : ∀ invocation ∈ commands, holds invocation)
    (asks : ∀ selection, holds (index.listing selection))
    (installs :
      ∀ resolution dir,
        settings.installPlace? home = some dir → holds (index.install resolution dir)) :
    ∀ exchange ∈ exchanges, holds exchange.1 := by
  have ranOthers
      {outcome : Except Failure Unit}
      {ran : List Exchange}
      (installers : InstallersRun Tool.guiRuntime.shown commands ran outcome) :
      ∀ exchange ∈ ran, holds exchange.1 :=
    fun exchange member => others exchange.1 (installers.mem_commands exchange member)
  cases through with
  | noIndex installers => exact ranOthers installers
  | fromIndex installers installed =>
      refine List.forall_mem_append.mpr ⟨ranOthers installers, ?_⟩
      exact installed.forall_commands holds asks installs

end Commands

/-- One more installer that the index needs. -/
theorem ThroughIndex.ensures_cons
    {machine : Machine}
    {world : World}
    {settings : QtSettings}
    {invocation : Invocation}
    {commands : List Invocation}
    {index : Qt.Index}
    {rest : Attempt Qt.Resolution}
    (ensures :
      ∀ between,
        rest.Ensures machine between
          (ThroughIndex settings machine.home commands index)) :
    (runInstaller Tool.guiRuntime.shown invocation >>= fun _ => rest).Ensures machine world
      (ThroughIndex settings machine.home (invocation :: commands) index) := by
  refine Attempt.ensures_bind ((ensures_runInstaller _ _).mono ?_)
  rintro _ _ between ⟨reply, rfl, rfl, -⟩
  cases ended : reply.endedWell with
  | false => exact .noIndex (.stops ended)
  | true =>
      refine (ensures between).mono fun later outcome after through => ?_
      cases through with
      | noIndex installers => exact .noIndex (.goesOn ended installers)
      | fromIndex installers installed =>
          rw [List.singleton_append, ← List.cons_append]
          exact .fromIndex (.goesOn ended installers) installed

theorem ensures_throughIndex
    {machine : Machine}
    {world : World}
    (settings : QtSettings)
    (index : Qt.Index) :
    (installFromIndex settings index).Ensures machine world
      (ThroughIndex settings machine.home [] index) :=
  (ensures_installFromIndex settings index).mono fun _ _ _ => .fromIndex .done

end Provision
