import Provision.Proofs.Provisioning.SessionFrame

namespace Provision

/-!
# The discipline of a run

Installers are run on behalf of the tools that were found missing, in the order
of installation, and nothing is installed for a tool that was found. An
installer of an ordinary tool that fails ends the run then and there, and so does
a question that cannot be asked, where the answer is not assumed. For Qt there is
a second way, and only when that fails, too, does the run fail.
-/

/-- The installers that may be run on behalf of a tool. -/
inductive InstallerOf
    (platform : Platform)
    (settings : Settings)
    (home : Option Path) :
    Tool → Invocation → Prop where
  | updateLists
      (onUnix : platform = .unix)
      (tool : Tool) :
      InstallerOf platform settings home tool Platform.updateLists
  | packages
      (onUnix : platform = .unix)
      (tool : Tool) :
      InstallerOf platform settings home tool
        (Platform.installPackages (Platform.packagesOf tool))
  | interpreter
      {tool : Tool}
      (onWindows : platform = .windows)
      (ordinary : tool ≠ .guiRuntime)
      (notGuided : tool ≠ .compiler) :
      InstallerOf platform settings home tool
        (Platform.interpreterInstall (platform.executable tool))
  | indexProgram
      (onWindows : platform = .windows) :
      InstallerOf platform settings home .guiRuntime
        (Platform.interpreterInstall "aqtinstall")
  | environments
      (onUnix : platform = .unix) :
      InstallerOf platform settings home .guiRuntime
        (Platform.installPackages ["python3-venv"])
  | createInstaller
      {dir : Path}
      (place : settings.qt.installerPlace? home = some dir) :
      InstallerOf platform settings home .guiRuntime
        (Provisioning.createInstaller platform dir)
  | equipInstaller
      {dir : Path}
      (place : settings.qt.installerPlace? home = some dir) :
      InstallerOf platform settings home .guiRuntime
        (Provisioning.equipInstaller (dir.child platform.scriptsDir))
  | fromIndex
      {dir : Path}
      (place : settings.qt.installPlace? home = some dir)
      (index : Qt.Index)
      (resolution : Qt.Resolution) :
      InstallerOf platform settings home .guiRuntime (index.install resolution dir)

/-- A command by which a tool or the index is asked. -/
inductive Asks : Invocation → Prop where
  | inspection
      {invocation : Invocation}
      (inspection : Inspection invocation) :
      Asks invocation
  | listing (index : Qt.Index) (selection : List String) :
      Asks (index.listing selection)

theorem Asks.collected
    {invocation : Invocation}
    (asks : Asks invocation) :
    invocation.capture = .collected := by
  cases asks with
  | inspection inspection => exact inspection.collected
  | listing index selection => rfl

/-- Commands that only ask, and installers of a tool. -/
def Serves
    (platform : Platform)
    (settings : Settings)
    (home : Option Path)
    (tool : Tool)
    (exchanges : List Exchange) :
    Prop :=
  ∀ exchange ∈ exchanges,
    Asks exchange.1 ∨ InstallerOf platform settings home tool exchange.1

section Serving

variable {platform : Platform} {settings : Settings} {machine : Machine} {home : Option Path}
  {tool : Tool} {exchanges later : List Exchange} {start finish : Moment}

theorem Serves.append
    (first : Serves platform settings home tool exchanges)
    (second : Serves platform settings home tool later) :
    Serves platform settings home tool (exchanges ++ later) :=
  List.forall_mem_append.mpr ⟨first, second⟩

theorem Inspected.serves
    {before after : Session}
    (inspected : Inspected platform before exchanges after)
    (settings : Settings)
    (home : Option Path)
    (tool : Tool) :
    Serves platform settings home tool exchanges :=
  fun exchange member => .inl (.inspection (inspected.inspections exchange member))

theorem PackagesInstalled.serves
    {named : String}
    {packages : List String}
    {before after : Session}
    {outcome : Except Failure Unit}
    (installed : PackagesInstalled named packages before exchanges outcome after)
    (isInstaller :
      InstallerOf .unix settings home tool (Platform.installPackages packages)) :
    Serves .unix settings home tool exchanges := by
  intro exchange member
  refine .inr ?_
  rcases installed.command_cases exchange member with isUpdate | isInstall
  · rw [isUpdate]
    exact .updateLists rfl tool
  · rw [isInstall]
    exact isInstaller

theorem Prepared.serves
    {outcome : Except Failure Unit}
    (prepared : Prepared machine platform start exchanges outcome finish) :
    Serves platform settings home .guiRuntime exchanges := by
  cases prepared with
  | notNeeded => exact List.forall_mem_nil _
  | unavailable missing => exact List.forall_mem_nil _
  | packages found installed => exact installed.serves (.environments rfl)

theorem ThroughIndex.serves
    {commands : List Invocation}
    {index : Qt.Index}
    {outcome : Except Failure Qt.Resolution}
    {after : World}
    (through : ThroughIndex settings.qt home commands index exchanges outcome after)
    (areInstallers :
      ∀ invocation ∈ commands, InstallerOf platform settings home .guiRuntime invocation) :
    Serves platform settings home .guiRuntime exchanges := by
  refine
    through.forall_commands
      (fun invocation =>
        Asks invocation ∨ InstallerOf platform settings home .guiRuntime invocation)
      ?_ ?_ ?_
  · exact fun invocation member => .inr (areInstallers invocation member)
  · exact fun selection => .inl (.listing index selection)
  · exact fun resolution dir place => .inr (.fromIndex place index resolution)

theorem PlatformInstalled.serves
    {outcome : Except Failure (Option Qt.Resolution)}
    (installed :
      PlatformInstalled settings machine platform tool start exchanges outcome finish) :
    Serves platform settings machine.home tool exchanges := by
  cases installed with
  | packages ordinary installed => exact installed.serves (.packages rfl tool)
  | noQtPackages installed => exact installed.serves (.packages rfl _)
  | qtPackages installed inspected =>
      exact (installed.serves (.packages rfl _)).append (inspected.serves _ _ _)
  | guided inspected => exact inspected.serves _ _ _
  | unanswered asks => exact List.forall_mem_nil _
  | interpreter ordinary notGuided installers =>
      intro exchange member
      rw [List.mem_singleton.mp (installers.mem_commands exchange member)]
      exact .inr (.interpreter rfl ordinary notGuided)
  | index through =>
      exact through.serves (List.forall_mem_singleton.mpr (.indexProgram rfl))

theorem Isolated.serves
    {outcome : Except Failure Qt.Resolution}
    (isolated : Isolated platform settings machine start exchanges outcome finish) :
    Serves platform settings machine.home .guiRuntime exchanges := by
  cases isolated with
  | unprepared prepared => exact prepared.serves
  | homeless prepared noPlace => exact prepared.serves
  | through prepared place through =>
      refine prepared.serves.append (through.serves ?_)
      refine List.forall_mem_cons.mpr ⟨.createInstaller place, ?_⟩
      exact List.forall_mem_singleton.mpr (.equipInstaller place)

theorem ToolInstalled.serves
    {step : PlanStep}
    {outcome : Except Failure (Option Qt.Resolution)}
    (installed : ToolInstalled platform settings machine step start exchanges outcome finish)
    (onlyQt : step.action = .installIsolated → step.tool = .guiRuntime) :
    Serves platform settings machine.home step.tool exchanges := by
  cases installed with
  | byPlatform notIsolated final runs installed => exact installed.serves
  | again isQt notIsolated fails installed runs isolated =>
      rw [isQt]
      exact installed.serves.append isolated.serves
  | isolated isIsolated isolated =>
      rw [onlyQt isIsolated]
      exact isolated.serves

theorem Lasting.collected
    {env : Environment}
    {dir : Path}
    {disk after : Disk}
    (lasting : Lasting settings machine env dir disk platform exchanges after) :
    ∀ exchange ∈ exchanges, exchange.1.capture = .collected := by
  cases lasting with
  | stored elevation stored =>
      simp [Platform.elevationQuestion, Persistence.storeCommand]
  | kept => exact List.forall_mem_nil _
  | appended chosen read absent appended => exact List.forall_mem_nil _

/-- To carry out the step of an ordinary tool, nothing is run but for the tool. -/
theorem Carried.serves
    {step : PlanStep}
    {outcome : Except Failure (ToolStatus × Option Qt.Resolution)}
    (carried : Carried platform settings machine step start exchanges outcome finish)
    (planned : Planned step.tool step)
    (ordinary : step.tool ≠ .guiRuntime) :
    Serves platform settings machine.home step.tool exchanges := by
  have onlyQt := planned.guiRuntime_of_isolated
  cases carried with
  | skipped skips kept => exact List.forall_mem_nil _
  | failed begun installed => exact installed.serves onlyQt
  | probed begun installed sameTool inspected =>
      exact (installed.serves onlyQt).append (inspected.serves _ _ _)
  | registered begun installed place registered =>
      exact (ordinary (installed.isQt_of_resolved onlyQt)).elim

end Serving

/-- What a step of a plan runs: installers only for its own tool, nothing if it is skipped. -/
structure OnBehalf
    (platform : Platform)
    (settings : Settings)
    (home : Option Path)
    (step : PlanStep)
    (exchanges : List Exchange) :
    Prop where
  skipped : step.action = .skip → exchanges = []
  installers :
    ∀ exchange ∈ exchanges,
      exchange.1.capture = .shown →
        InstallerOf platform settings home step.tool exchange.1

/-- How a run goes on when Qt could not be installed by the platform. -/
structure FallsBack
    (platform : Platform)
    (settings : Settings)
    (machine : Machine)
    (start failed : Moment)
    (failure : Failure)
    (outcome : Except Failure Provisioned)
    (finish : Moment) :
    Prop where
  /-- The failure is reported, and the isolated installer is used from there. -/
  isolated :
    ∃ before later resolved isolated,
      let told := failed.complained ("Installing Qt failed: " ++ failure.message)
      Course machine start.world before failed.world ∧
        Course machine told.world later isolated.world ∧
        (Provisioning.installIsolated platform settings).exec machine told =
          (resolved, isolated) ∧
        Isolated platform settings machine (Provisioning.isolating told) later resolved
          isolated ∧
        /- It decides how the run ends. -/
        match resolved with
        | .error reason => outcome = .error reason ∧ finish = isolated
        | .ok resolution =>
            ∃ result, outcome = .ok result ∧ result.resolution = some resolution

/-- The discipline of a provisioning run. -/
structure Disciplined
    (platform : Platform)
    (settings : Settings)
    (machine : Machine)
    (start : Moment)
    (outcome : Except Failure Provisioned)
    (finish : Moment) :
    Prop where
  /--
  The commands of a run are those of planning, none of them an installer, and
  then those on behalf of the tools, in the order of installation.
  -/
  commands :
    ∃ planning plan planned segments,
      (InstallPlan.build platform settings).exec machine
            (Provisioning.checking platform start) =
          (plan, planned) ∧
        plan.map PlanStep.tool = Tool.all ∧
        (∀ step ∈ plan, step.action = .skip ↔ step.status.present = true) ∧
        Course machine start.world planning planned.world ∧
        (∀ exchange ∈ planning, exchange.1.capture = .collected) ∧
        Course machine planned.world segments.flatten finish.world ∧
        List.Forall₂ (OnBehalf platform settings machine.home)
          (plan.take segments.length) segments
  /-- If every tool was found, no installer is run. -/
  nothingMissing :
    ∀ plan planned,
      (InstallPlan.build platform settings).exec machine
            (Provisioning.checking platform start) =
          (plan, planned) →
        (∀ step ∈ plan, step.status.present = true) →
          ∃ exchanges,
            Course machine start.world exchanges finish.world ∧
              ∀ exchange ∈ exchanges, exchange.1.capture = .collected
  /-- A run that succeeds has a status for every tool, in order; what was found is kept. -/
  statuses :
    ∀ result,
      outcome = .ok result →
        result.statuses.map ToolStatus.tool = Tool.all ∧
          ∀ plan planned,
            (InstallPlan.build platform settings).exec machine
                  (Provisioning.checking platform start) =
                (plan, planned) →
              List.Forall₂
                (fun step status => step.action = .skip → status = step.status)
                plan result.statuses
  /--
  An ordinary tool that cannot be installed ends the run with its failing command;
  or with a question that could not be asked, if the answer is not assumed.
  -/
  ordinaryFails :
    ∀ step moment failure failed,
      Reaches platform settings machine start step moment →
        step.action ≠ .skip →
        step.tool ≠ .guiRuntime →
        (platform.install settings step.tool).exec machine (step.beginning moment) =
            (.error failure, failed) →
          outcome = .error failure ∧
            finish = failed ∧
            ((∃ before invocation reply,
                Course machine start.world (before ++ [(invocation, reply)]) finish.world ∧
                  reply.endedWell = false ∧
                  failure = reply.installFailure step.tool.shown invocation) ∨
              start.session.assumeYes = false ∧ ∃ reason, failure = .promptFailed reason)
  /-- If the platform cannot install Qt, the isolated installer is always used. -/
  qtFails :
    ∀ step moment failure failed,
      Reaches platform settings machine start step moment →
        step.action = .install →
        step.tool = .guiRuntime →
        (platform.install settings .guiRuntime).exec machine (step.beginning moment) =
            (.error failure, failed) →
          FallsBack platform settings machine start failed failure outcome finish
  /-- Once the run has come to Qt, it fails with the failure of the second way only. -/
  qtFailures :
    ∀ step moment failure,
      Reaches platform settings machine start step moment →
        step.tool = .guiRuntime →
        outcome = .error failure →
          ∃ reason, failure = .fallbackFailed Tool.guiRuntime.shown reason

theorem Serves.installers
    {platform : Platform}
    {settings : Settings}
    {home : Option Path}
    {tool : Tool}
    {exchanges : List Exchange}
    (serves : Serves platform settings home tool exchanges) :
    ∀ exchange ∈ exchanges,
      exchange.1.capture = .shown → InstallerOf platform settings home tool exchange.1 := by
  intro exchange member shown
  rcases serves exchange member with asks | isInstaller
  · rw [asks.collected] at shown
    cases shown
  · exact isInstaller

theorem OnBehalf.of_carried
    {platform : Platform}
    {settings : Settings}
    {machine : Machine}
    {step : PlanStep}
    {start finish : Moment}
    {exchanges : List Exchange}
    {outcome : Except Failure (ToolStatus × Option Qt.Resolution)}
    (carried : Carried platform settings machine step start exchanges outcome finish)
    (onlyQt : step.action = .installIsolated → step.tool = .guiRuntime) :
    OnBehalf platform settings machine.home step exchanges := by
  cases carried with
  | skipped skips kept =>
      exact ⟨fun _ => rfl, List.forall_mem_nil _⟩
  | failed begun installed =>
      exact ⟨fun skips => (begun skips).elim, (installed.serves onlyQt).installers⟩
  | probed begun installed sameTool inspected =>
      refine ⟨fun skips => (begun skips).elim, Serves.installers ?_⟩
      exact (installed.serves onlyQt).append (inspected.serves _ _ _)
  | registered begun installed place registered =>
      refine ⟨fun skips => (begun skips).elim, List.forall_mem_append.mpr ⟨?_, ?_⟩⟩
      · exact (installed.serves onlyQt).installers
      · intro exchange member shown
        rw [registered.lasting.collected exchange member] at shown
        cases shown

theorem Carried.status
    {platform : Platform}
    {settings : Settings}
    {machine : Machine}
    {step : PlanStep}
    {start finish : Moment}
    {exchanges : List Exchange}
    {result : ToolStatus × Option Qt.Resolution}
    (carried : Carried platform settings machine step start exchanges (.ok result) finish)
    (planned : Planned step.tool step) :
    result.1.tool = step.tool ∧ (step.action = .skip → result.1 = step.status) := by
  cases carried with
  | skipped skips kept => exact ⟨planned.status_tool, fun _ => rfl⟩
  | probed begun installed sameTool inspected =>
      exact ⟨sameTool, fun skips => (begun skips).elim⟩
  | registered begun installed place registered =>
      exact ⟨rfl, fun skips => (begun skips).elim⟩

/-- Where Qt is not meant, the failure is that of the last command, or of a question. -/
theorem PlatformInstalled.exists_last_of_error
    {platform : Platform}
    {settings : Settings}
    {machine : Machine}
    {tool : Tool}
    {start finish : Moment}
    {exchanges : List Exchange}
    {failure : Failure}
    (installed :
      PlatformInstalled settings machine platform tool start exchanges (.error failure)
        finish)
    (ordinary : tool ≠ .guiRuntime) :
    (∃ front invocation reply,
        exchanges = front ++ [(invocation, reply)] ∧
          reply.endedWell = false ∧
          failure = reply.installFailure tool.shown invocation) ∨
      start.session.assumeYes = false ∧ ∃ reason, failure = .promptFailed reason := by
  generalize isError : Except.error failure = outcome at installed
  cases installed with
  | packages _ installed =>
      cases Except.map_eq_error_iff.mp isError.symm
      exact .inl installed.installers.exists_last_of_error
  | interpreter _ _ installers =>
      cases Except.map_eq_error_iff.mp isError.symm
      exact .inl installers.exists_last_of_error
  | noQtPackages installed => exact (ordinary rfl).elim
  | qtPackages installed inspected => exact (ordinary rfl).elim
  | guided inspected => cases isError
  | unanswered asks =>
      cases isError
      exact .inr ⟨asks, _, rfl⟩
  | index through => exact (ordinary rfl).elim

section Runs

variable {platform : Platform} {settings : Settings} {machine : Machine}
  {start planned finish : Moment} {planning : List Exchange} {plan : List PlanStep}
  {segments : List (List Exchange)}
  {results : Except Failure (List (ToolStatus × Option Qt.Resolution))}

namespace ProvisioningRun

theorem onBehalf
    (run :
      ProvisioningRun platform settings machine start planning plan planned segments
        results finish) :
    List.Forall₂ (OnBehalf platform settings machine.home) (plan.take segments.length)
      segments :=
  run.inTurn.forall₂_segments fun _ member _ _ _ _ stepped =>
    .of_carried stepped.carried (Planned.of_mem run.steps member).guiRuntime_of_isolated

/-- If every tool was found, the commands of the run are those of planning. -/
theorem flatten_eq_nil
    (run :
      ProvisioningRun platform settings machine start planning plan planned segments
        results finish)
    (present : ∀ step ∈ plan, step.status.present = true) :
    segments.flatten = [] := by
  refine List.flatten_eq_nil_iff.mpr fun exchanges member => ?_
  obtain ⟨step, isStep, _, _, _, stepped⟩ := run.inTurn.exists_of_mem member
  have isPlanned := Planned.of_mem run.steps isStep
  have onBehalf := OnBehalf.of_carried stepped.carried isPlanned.guiRuntime_of_isolated
  exact onBehalf.skipped (isPlanned.skip_iff.mpr (present step isStep))

theorem statuses
    {results : List (ToolStatus × Option Qt.Resolution)}
    (run :
      ProvisioningRun platform settings machine start planning plan planned segments
        (.ok results) finish) :
    (results.map Prod.fst).map ToolStatus.tool = Tool.all ∧
      List.Forall₂ (fun step status => step.action = .skip → status = step.status) plan
        (results.map Prod.fst) := by
  have given :=
    run.inTurn.forall₂_results fun _ member _ _ _ _ stepped =>
      stepped.carried.status (Planned.of_mem run.steps member)
  constructor
  · have sameTools :
        List.Forall₂ Eq ((results.map Prod.fst).map ToolStatus.tool)
          (plan.map PlanStep.tool) := by
      rw [List.forall₂_map_left_iff, List.forall₂_map_left_iff, List.forall₂_map_right_iff]
      exact given.flip.imp fun _ _ => And.left
    rw [List.forall₂_eq_eq_eq] at sameTools
    rw [sameTools, Planned.tools_eq run.steps]
  · rw [List.forall₂_map_right_iff]
    exact given.imp fun _ _ => And.right

/-- The course of a run up to a step that it comes to. -/
theorem exists_course_to
    {step : PlanStep}
    {moment : Moment}
    (run :
      ProvisioningRun platform settings machine start planning plan planned segments
        results finish)
    (reaches : Reaches platform settings machine start step moment) :
    ∃ exchanges, Course machine start.world exchanges moment.world := by
  obtain ⟨_, _, before, _, _, _, -, -, -, inTurn, -⟩ := run.from_reached reaches
  have course := inTurn.course fun _ _ _ _ _ => Stepped.course
  exact ⟨_, run.planningCourse.append course⟩

/--
An ordinary tool that cannot be installed ends the run with its failing command,
or with a question that could not be asked.
-/
theorem ordinary_fails
    {step : PlanStep}
    {moment failed : Moment}
    {failure : Failure}
    (run :
      ProvisioningRun platform settings machine start planning plan planned segments
        results finish)
    (reaches : Reaches platform settings machine start step moment)
    (begun : step.action ≠ .skip)
    (ordinary : step.tool ≠ .guiRuntime)
    (fails :
      (platform.install settings step.tool).exec machine (step.beginning moment) =
        (.error failure, failed)) :
    results = .error failure ∧
      finish = failed ∧
      ((∃ before invocation reply,
          Course machine start.world (before ++ [(invocation, reply)]) finish.world ∧
            reply.endedWell = false ∧
            failure = reply.installFailure step.tool.shown invocation) ∨
        start.session.assumeYes = false ∧ ∃ reason, failure = .promptFailed reason) := by
  obtain ⟨earlier, courseTo⟩ := run.exists_course_to reaches
  have sameAnswers := run.assumeYes reaches
  obtain ⟨front, back, _, _, _, _, rfl, -, rfl, -, inTurn⟩ := run.from_reached reaches
  have isPlanned := Planned.of_mem run.steps (List.mem_append_right front List.mem_cons_self)
  have notIsolated : step.action ≠ .installIsolated :=
    fun isIsolated => ordinary (isPlanned.guiRuntime_of_isolated isIsolated)
  cases inTurn with
  | goesOn stepped later =>
      rcases stepped.carried.begun begun with
        ⟨_, isError, -⟩ | ⟨_, _, _, _, _, -, -, installed⟩
      · cases isError
      · obtain ⟨runs, -⟩ := installed.of_ordinary ordinary notIsolated
        cases fails.symm.trans runs
  | stops stepped =>
      rcases stepped.carried.begun begun with
        ⟨_, isError, installed⟩ | ⟨_, _, _, _, _, -, isOk, -⟩
      · cases isError
        obtain ⟨runs, installed⟩ := installed.of_ordinary ordinary notIsolated
        cases fails.symm.trans runs
        refine ⟨rfl, rfl, ?_⟩
        rcases installed.exists_last_of_error ordinary with
          ⟨front, invocation, reply, rfl, endedBadly, isFailure⟩ | ⟨asks, isFailure⟩
        · refine .inl ⟨earlier ++ front, invocation, reply, ?_, endedBadly, isFailure⟩
          rw [List.append_assoc]
          exact courseTo.append stepped.course
        · exact .inr ⟨sameAnswers.symm.trans asks, isFailure⟩
      · cases isOk

/-- Once the run has come to Qt, it fails with the failure of the second way only. -/
theorem qt_failures
    {step : PlanStep}
    {moment : Moment}
    {failure : Failure}
    {dir : Path}
    (run :
      ProvisioningRun platform settings machine start planning plan planned segments
        (.error failure) finish)
    (reaches : Reaches platform settings machine start step moment)
    (isQt : step.tool = .guiRuntime)
    (place : settings.qt.installerPlace? machine.home = some dir) :
    ∃ reason, failure = .fallbackFailed Tool.guiRuntime.shown reason := by
  obtain ⟨_, _, _, _, outcome, comes⟩ := run.reached_qt reaches isQt
  cases Except.map_eq_error_iff.mp comes.results_eq.symm
  cases comes.stepped.carried with
  | failed begun installed => exact installed.fallbackFailed isQt place

/-- If the platform cannot install Qt, the isolated installer is always used. -/
theorem qt_fails
    {step : PlanStep}
    {moment failed : Moment}
    {failure : Failure}
    (run :
      ProvisioningRun platform settings machine start planning plan planned segments
        results finish)
    (reaches : Reaches platform settings machine start step moment)
    (meant : step.action = .install)
    (isQt : step.tool = .guiRuntime)
    (fails :
      (platform.install settings .guiRuntime).exec machine (step.beginning moment) =
        (.error failure, failed)) :
    FallsBack platform settings machine start failed failure
      (results.map (Provisioned.ofResults finish.session.env)) finish := by
  obtain ⟨earlier, courseTo⟩ := run.exists_course_to reaches
  obtain ⟨_, _, _, done, outcome, comes⟩ := run.reached_qt reaches isQt
  cases comes.results_eq
  obtain ⟨between, course, -⟩ := (platform.ensures_install settings _).of_exec fails
  have courseToFailure :=
    courseTo.append (Course.append (.ofSilent (.status _)) course)
  rcases runs :
      (Provisioning.installIsolated platform settings).exec machine
        (failed.complained ("Installing Qt failed: " ++ failure.message)) with
    ⟨resolved, isolated⟩
  obtain ⟨later, courseFrom, isIsolated⟩ :=
    (Provisioning.ensures_installIsolated platform settings).of_exec runs
  refine ⟨_, later, _, _, courseToFailure, courseFrom, runs, isIsolated, ?_⟩
  have notIsolated : step.action ≠ .installIsolated := by
    rw [meant]
    nofun
  have begun : step.action ≠ .skip := by
    rw [meant]
    nofun
  rcases comes.stepped.carried.begun begun with
    ⟨reason, rfl, installed⟩ | ⟨_, _, status, resolution, _, -, rfl, installed⟩
  · obtain ⟨_, _, _, -, isError, -, decides, -⟩ :=
      installed.of_qt_failed isQt notIsolated fails
    cases Except.map_eq_error_iff.mp isError.symm
    cases runs.symm.trans decides
    exact ⟨rfl, rfl⟩
  · obtain ⟨_, _, _, -, isOk, -, decides, -⟩ :=
      installed.of_qt_failed isQt notIsolated fails
    obtain ⟨resolution, rfl, rfl⟩ := Except.map_eq_ok_iff.mp isOk.symm
    cases runs.symm.trans decides
    exact ⟨_, rfl, by simp [Provisioned.ofResults]⟩

end ProvisioningRun

end Runs

/-- Where the home directory is known, every provisioning run is disciplined. -/
theorem provision_disciplined
    {machine : Machine}
    {home : Path}
    (isHome : machine.home = some home)
    (platform : Platform)
    (settings : Settings)
    (start : Moment) :
    Disciplined platform settings machine start
      ((Provisioning.provision platform settings).exec machine start).1
      ((Provisioning.provision platform settings).exec machine start).2 := by
  obtain ⟨planning, plan, planned, segments, results, finish, run⟩ :=
    exists_provisioningRun platform settings machine start
  rw [run.ends]
  have place : ∃ dir, settings.qt.installerPlace? machine.home = some dir := by
    rw [QtSettings.installerPlace?, isHome]
    cases settings.qt.installerDir with
    | none => exact ⟨_, rfl⟩
    | some dir => exact ⟨_, rfl⟩
  obtain ⟨dir, place⟩ := place
  have onlyPlan
      {plan' : List PlanStep}
      {planned' : Moment}
      (builds :
        (InstallPlan.build platform settings).exec machine
            (Provisioning.checking platform start) =
          (plan', planned')) :
      plan' = plan ∧ planned' = planned := by
    cases run.builds.symm.trans builds
    exact ⟨rfl, rfl⟩
  constructor
  case commands =>
    exact
      ⟨planning, plan, planned, segments, run.builds, Planned.tools_eq run.steps,
        fun step member => (Planned.of_mem run.steps member).skip_iff,
        run.planningCourse,
        fun exchange member => (run.inspected.inspections exchange member).collected,
        run.inTurn.course fun _ _ _ _ _ => Stepped.course,
        run.onBehalf⟩
  case nothingMissing =>
    intro plan' planned' builds present
    obtain ⟨rfl, rfl⟩ := onlyPlan builds
    refine ⟨_, run.course, ?_⟩
    rw [run.flatten_eq_nil present, List.append_nil]
    exact fun exchange member => (run.inspected.inspections exchange member).collected
  case statuses =>
    intro result isOk
    obtain ⟨results, rfl, rfl⟩ := Except.map_eq_ok_iff.mp isOk
    refine ⟨run.statuses.1, fun plan' planned' builds => ?_⟩
    obtain ⟨rfl, rfl⟩ := onlyPlan builds
    exact run.statuses.2
  case ordinaryFails =>
    intro step moment failure failed reaches begun ordinary fails
    obtain ⟨rfl, rfl, failing⟩ := run.ordinary_fails reaches begun ordinary fails
    exact ⟨rfl, rfl, failing⟩
  case qtFails =>
    intro step moment failure failed reaches meant isQt fails
    exact run.qt_fails reaches meant isQt fails
  case qtFailures =>
    intro step moment failure reaches isQt isError
    cases Except.map_eq_error_iff.mp isError
    exact run.qt_failures reaches isQt place

/-- A disk with all tools but Qt, and with the package manager. -/
def toolDisk : Disk where
  nodes :=
    (["bin"], .directory) ::
      ["g++", "cmake", "ninja", "apt-get"].map fun (program : String) =>
        (["bin", program], .file [] 0o755)

/-- The start of a run that finds all tools but Qt on the search path. -/
def toolStart : Moment where
  session := { env := .ofSnapshot (.ofList [("PATH", "/bin")]) }
  world := { disk := toolDisk, environment := .empty }

/-- A machine on which every command ends well, except that there are no packages of Qt. -/
def qtlessMachine : Machine where
  runner world invocation :=
    let missing := Platform.installPackages (Platform.packagesOf .guiRuntime)
    let code := if invocation = missing then 100 else 0
    { outcome := .ok (.ofProcess (some code) "" ""), disk := world.disk }
  home := some "/home/dev"

/-- The steps of a plan by which all tools but Qt were found. -/
def foundSteps : List PlanStep := [
  ⟨.compiler, .skip, .found .compiler "/bin/g++"⟩,
  ⟨.buildGenerator, .skip, .found .buildGenerator "/bin/cmake"⟩,
  ⟨.buildRunner, .skip, .found .buildRunner "/bin/ninja"⟩
]

/-- The step of a plan by which Qt is to be installed. -/
def qtStep : PlanStep :=
  ⟨.guiRuntime, .install, .absent .guiRuntime⟩

/-- The tools that are found are kept as they are, and Qt is installed in the second way. -/
theorem qtlessMachine_falls_back :
    qtlessMachine.home = some (.ofText "/home/dev") ∧
      ∃ result finish failed failure,
        (Provisioning.provision .unix {}).exec qtlessMachine toolStart =
            (.ok result, finish) ∧
          result.statuses.map ToolStatus.tool = Tool.all ∧
          result.statuses.take 3 = foundSteps.map PlanStep.status ∧
          FallsBack .unix {} qtlessMachine toolStart failed failure (.ok result) finish := by
  have succeeds :
      ((Provisioning.provision .unix {}).exec qtlessMachine toolStart).1.toOption.map
          (fun _ => ()) =
        some () := by
    decide +kernel
  obtain ⟨result, finish, run, -⟩ := SessionAttempt.exists_exec_eq_ok succeeds
  have disciplined : Disciplined .unix {} qtlessMachine toolStart _ _ :=
    provision_disciplined rfl .unix {} toolStart
  rw [run] at disciplined
  obtain ⟨failed, failure, fallsBack⟩ :
      ∃ failed failure,
        FallsBack .unix {} qtlessMachine toolStart failed failure (.ok result) finish :=
    ⟨_, _, disciplined.qtFails qtStep _ _ _ ⟨foundSteps, [], _, _, rfl, rfl⟩ rfl rfl rfl⟩
  obtain ⟨tools, keeps⟩ := disciplined.statuses result rfl
  have kept :
      List.Forall₂
        (fun (step : PlanStep) status => step.action = .skip → status = step.status)
        (foundSteps ++ [qtStep]) result.statuses :=
    keeps _ _ rfl
  refine ⟨rfl, result, finish, failed, failure, run, tools, ?_, fallsBack⟩
  obtain ⟨statuses, _, _⟩ := result
  rcases kept with _ | ⟨compiler, _ | ⟨generator, _ | ⟨runner, _⟩⟩⟩
  rw [compiler rfl, generator rfl, runner rfl]
  rfl

end Provision
