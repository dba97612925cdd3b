import Provision.Proofs.Provisioning.Installs

namespace Provision

/-!
# Carrying out plans

The steps of a plan are carried out in turn. One that is skipped does nothing;
any other installs its tool and finds out what came of it. Qt from an index is
registered: its programs go to the end of the search path, and future shells are
told of them where that is possible.
-/

/-- The profile that is told of a new directory, if there is one. -/
def Platform.profile? (settings : Settings) (machine : Machine) : Option Path :=
  if machine.elevated then
    some (Persistence.systemProfile settings.projectName)
  else
    machine.home.map Persistence.userProfile

/-- Asks whether changes may be made for all users. -/
def Platform.elevationQuestion : Invocation where
  program := "net"
  arguments := ["session"]

/-- What is run so that future shells find a directory, and the disk behind it. -/
inductive Lasting
    (settings : Settings)
    (machine : Machine)
    (env : Environment)
    (dir : Path)
    (disk : Disk) :
    Platform → List Exchange → Disk → Prop where
  | stored (elevation stored : Reply) :
      Lasting settings machine env dir disk .windows
        [(Platform.elevationQuestion, elevation),
          (Persistence.storeCommand ((env.var? Variable.path.name).getD "")
            elevation.endedWell, stored)]
        stored.disk
  | kept :
      Lasting settings machine env dir disk .unix [] disk
  | appended
      {profile : Path}
      {present : Text}
      {after : Disk}
      (chosen : Platform.profile? settings machine = some profile)
      (read : Persistence.readProfile disk machine.directory profile = .ok present)
      (absent : Persistence.hasLine present (Persistence.exportLine dir) = false)
      (appended :
        disk.append machine.directory profile
            (Utf8.encode (Persistence.addition present (Persistence.exportLine dir))) =
          .ok after) :
      Lasting settings machine env dir disk .unix [] after

section Registration

variable {machine : Machine} {world : World} {start : Moment}

/-- A line is added by one step of the file system, or the disk stays as it was. -/
theorem Persistence.ensures_appendIfAbsent
    (profile : Path)
    (line : String) :
    (appendIfAbsent profile line).Ensures machine world fun exchanges _ after =>
      exchanges = [] ∧
        (after.disk = world.disk ∨
          ∃ present,
            readProfile world.disk machine.directory profile = .ok present ∧
              hasLine present line = false ∧
              world.disk.append machine.directory profile
                  (Utf8.encode (addition present line)) =
                .ok after.disk) := by
  refine
    Attempt.ensures_bind
      (Attempt.ensures_orFail (Run.ensures_silent (.fileStep _) ?_))
  rcases reads :
      (Run.readStep fun disk dir => readProfile disk dir profile).exec machine world with
    ⟨outcome, between⟩
  cases outcome with
  | error reason =>
      exact ⟨rfl, .inl (Run.readStep_error reads)⟩
  | ok present =>
      obtain ⟨read, sameDisk⟩ := Run.readStep_ok reads
      dsimp only [Except.mapError_ok]
      split
      · exact Attempt.ensures_pure ⟨rfl, .inl sameDisk⟩
      · rename_i absent
        refine
          Attempt.ensures_bind
            (Attempt.ensures_orFail (Run.ensures_silent (.fileStep _) ?_))
        rcases writes :
            (Run.writeStep fun disk dir =>
              disk.append dir profile (Utf8.encode (addition present line))).exec
                machine between with
          ⟨outcome, after⟩
        cases outcome with
        | error reason =>
            exact ⟨rfl, .inl ((Run.writeStep_error writes).trans sameDisk)⟩
        | ok =>
            refine Attempt.ensures_pure ⟨rfl, .inr ⟨present, read, by simpa using absent, ?_⟩⟩
            rw [← sameDisk]
            exact Run.writeStep_ok writes

theorem Persistence.ensures_storePath
    (value : String)
    (system : Bool) :
    (storePath value system).Ensures machine world fun exchanges _ after =>
      ∃ reply,
        exchanges = [(storeCommand value system, reply)] ∧ after.disk = reply.disk := by
  refine
    Attempt.ensures_bind
      (Attempt.ensures_orFail (Run.ensures_command fun reply => ?_))
  cases reply.outcome with
  | error reason =>
      exact ⟨reply, rfl, rfl⟩
  | ok output =>
      dsimp only [Except.mapError_ok]
      split
      · exact Attempt.ensures_pure ⟨reply, rfl, rfl⟩
      · exact Attempt.ensures_throw ⟨reply, rfl, rfl⟩

namespace Platform

theorem ensures_isElevated :
    (isElevated .windows).Ensures machine world fun exchanges elevated _ =>
      ∃ reply,
        exchanges = [(elevationQuestion, reply)] ∧ elevated = reply.endedWell := by
  refine Run.ensures_bind (Run.ensures_command fun reply => ?_)
  cases outcome : reply.outcome with
  | error reason =>
      exact Run.ensures_pure ⟨reply, rfl, by simp [Reply.endedWell, outcome]⟩
  | ok output =>
      exact Run.ensures_pure ⟨reply, rfl, by simp [Reply.endedWell, outcome]⟩

theorem ensures_persistPath_windows
    (settings : Settings)
    (env : Environment)
    (dir : Path) :
    (windows.persistPath settings env dir).Ensures machine world
      fun exchanges _ after =>
        Lasting settings machine env dir world.disk .windows exchanges after.disk := by
  refine Attempt.ensures_bind (Attempt.ensures_lift (ensures_isElevated.mono ?_))
  rintro _ _ between ⟨elevation, rfl, rfl⟩
  refine Attempt.ensures_bind ((Persistence.ensures_storePath _ _).mono ?_)
  rintro _ outcome after ⟨stored, rfl, sameDisk⟩
  have lasting :
      Lasting settings machine env dir world.disk .windows
        [(elevationQuestion, elevation),
          (Persistence.storeCommand ((env.var? Variable.path.name).getD "")
            elevation.endedWell, stored)]
        after.disk := by
    rw [sameDisk]
    exact .stored elevation stored
  cases outcome with
  | error failure =>
      exact lasting
  | ok =>
      dsimp only
      split
      · exact Attempt.ensures_pure lasting
      · refine Attempt.ensures_status ?_
        rw [Run.statusShown_disk]
        exact lasting

/-- A profile that is told of the directory, and whoever watches if that was needed. -/
theorem ensures_profileTold
    {settings : Settings}
    {profile : Path}
    (chosen : profile? settings machine = some profile)
    (env : Environment)
    (dir : Path) :
    (do
      if ← Persistence.appendIfAbsent profile (Persistence.exportLine dir) then
        Run.inform ("PATH updated in " ++ profile.text) :
      Attempt Unit).Ensures machine world fun exchanges _ after =>
        Lasting settings machine env dir world.disk .unix exchanges after.disk := by
  refine Attempt.ensures_bind ((Persistence.ensures_appendIfAbsent _ _).mono ?_)
  rintro _ outcome after ⟨rfl, changed⟩
  have lasting :
      Lasting settings machine env dir world.disk .unix [] after.disk := by
    rcases changed with sameDisk | ⟨present, read, absent, appended⟩
    · rw [sameDisk]
      exact .kept
    · exact .appended chosen read absent appended
  rcases outcome with failure | _ | _
  · exact lasting
  · exact Attempt.ensures_pure lasting
  · refine Attempt.ensures_status ?_
    rw [Run.statusShown_disk]
    exact lasting

theorem ensures_persistPath
    (platform : Platform)
    (settings : Settings)
    (env : Environment)
    (dir : Path) :
    (platform.persistPath settings env dir).Ensures machine world
      fun exchanges _ after =>
        Lasting settings machine env dir world.disk platform exchanges after.disk := by
  cases platform with
  | windows =>
      exact ensures_persistPath_windows settings env dir
  | unix =>
      have isElevated :
          (isElevated .unix).exec machine world = (machine.elevated, world) :=
        rfl
      refine
        Attempt.ensures_bind
          (Attempt.ensures_lift (Run.ensures_of_exec isElevated (.done world) ?_))
      dsimp only
      split
      · rename_i elevated
        refine Attempt.ensures_bind (Attempt.ensures_pure (ensures_profileTold ?_ env dir))
        rw [profile?, if_pos elevated]
      · rename_i notElevated
        refine
          Attempt.ensures_bind
            (Attempt.ensures_of_exec Attempt.exec_home (.done world) ?_)
        cases isHome : machine.home with
        | none =>
            -- Without a home directory it fails before anything is changed.
            exact .kept
        | some home =>
            refine Attempt.ensures_bind (Attempt.ensures_pure (ensures_profileTold ?_ env dir))
            rw [profile?, if_neg notElevated, isHome, Option.map_some]

end Platform

end Registration

/-- What it takes to register a directory of an installed Qt. -/
structure Registered
    (platform : Platform)
    (settings : Settings)
    (machine : Machine)
    (dir : Path)
    (start : Moment)
    (exchanges : List Exchange)
    (finish : Moment) :
    Prop where
  env : finish.session.env = start.session.env.addPath .back dir
  assumeYes : finish.session.assumeYes = start.session.assumeYes
  listsUpdated : finish.session.listsUpdated = start.session.listsUpdated
  lasting :
    Lasting settings machine finish.session.env dir start.world.disk platform exchanges
      finish.world.disk

/-- What it takes to install the tool of a step. -/
inductive ToolInstalled
    (platform : Platform)
    (settings : Settings)
    (machine : Machine)
    (step : PlanStep)
    (start : Moment) :
    List Exchange → Except Failure (Option Qt.Resolution) → Moment → Prop where
  /-- By the installer of the platform. Only that of Qt may not fail. -/
  | byPlatform
      {exchanges : List Exchange}
      {outcome : Except Failure (Option Qt.Resolution)}
      {finish : Moment}
      (notIsolated : step.action ≠ .installIsolated)
      (final : ∀ failure, outcome = .error failure → step.tool ≠ .guiRuntime)
      (runs :
        (platform.install settings step.tool).exec machine start = (outcome, finish))
      (installed :
        PlatformInstalled settings machine platform step.tool start exchanges outcome
          finish) :
      ToolInstalled platform settings machine step start exchanges outcome finish
  /-- By an isolated installer, after that of the platform failed. -/
  | again
      {exchanges later : List Exchange}
      {failure : Failure}
      {failed : Moment}
      {outcome : Except Failure Qt.Resolution}
      {finish : Moment}
      (isQt : step.tool = .guiRuntime)
      (notIsolated : step.action ≠ .installIsolated)
      (fails :
        (platform.install settings .guiRuntime).exec machine start =
          (.error failure, failed))
      (installed :
        PlatformInstalled settings machine platform .guiRuntime start exchanges
          (.error failure) failed)
      (runs :
        (Provisioning.installIsolated platform settings).exec machine
            (failed.complained ("Installing Qt failed: " ++ failure.message)) =
          (outcome, finish))
      (isolated :
        Isolated platform settings machine
          (Provisioning.isolating
            (failed.complained ("Installing Qt failed: " ++ failure.message)))
          later outcome finish) :
      ToolInstalled platform settings machine step start (exchanges ++ later)
        (outcome.map some) finish
  /-- By an isolated installer, because the platform has none. -/
  | isolated
      {exchanges : List Exchange}
      {outcome : Except Failure Qt.Resolution}
      {finish : Moment}
      (isIsolated : step.action = .installIsolated)
      (isolated :
        Isolated platform settings machine (Provisioning.isolating start) exchanges
          outcome finish) :
      ToolInstalled platform settings machine step start exchanges (outcome.map some)
        finish

namespace Provisioning

variable {machine : Machine} {start : Moment}

theorem ensures_registerQt
    {settings : Settings}
    {dir : Path}
    (place : settings.qt.installPlace? machine.home = some dir)
    (platform : Platform)
    (resolution : Qt.Resolution) :
    (registerQt platform settings resolution).Ensures machine start
      fun exchanges outcome finish =>
        outcome = .ok (Qt.binDir dir resolution) ∧
          Registered platform settings machine (Qt.binDir dir resolution) start exchanges
            finish := by
  have isPlace :
      settings.qt.installPath.exec machine start.world = (.ok dir, start.world) := by
    rw [QtSettings.exec_installPath, place, orHomeless]
  refine
    SessionAttempt.ensures_bind
      (SessionAttempt.ensures_ofAttempt
        (Attempt.ensures_of_exec isPlace (.done _) ?_))
  refine
    SessionAttempt.ensures_bind
      (SessionAttempt.ensures_lift (SessionRun.ensures_env ?_))
  refine
    SessionAttempt.ensures_bind
      (SessionAttempt.ensures_liftRun ((Environment.ensures_extendPath _ _ _).mono ?_))
  rintro _ env extended ⟨rfl, rfl, sameDisk⟩
  refine
    SessionAttempt.ensures_bind
      (SessionAttempt.ensures_lift (SessionRun.ensures_setEnv ?_))
  refine SessionAttempt.ensures_bind (SessionAttempt.ensures_status ?_)
  refine
    SessionAttempt.ensures_bind
      (SessionAttempt.ensures_outcome
        (SessionAttempt.ensures_ofAttempt
          ((platform.ensures_persistPath settings _ _).mono ?_)))
  intro exchanges outcome after lasting
  have registered
      {finish : Moment}
      (sameSession : finish.session = { start.session with
        env := start.session.env.addPath .back (Qt.binDir dir resolution) })
      (sameDisk' : finish.world.disk = after.disk) :
      Registered platform settings machine (Qt.binDir dir resolution) start exchanges
        finish := by
    rw [Moment.told_disk] at lasting
    refine ⟨by rw [sameSession], by rw [sameSession], by rw [sameSession], ?_⟩
    rw [sameSession, sameDisk', ← sameDisk]
    exact lasting
  simp only [List.nil_append]
  cases outcome with
  | ok =>
      refine SessionAttempt.ensures_pure ⟨rfl, ?_⟩
      rw [List.append_nil]
      exact registered rfl rfl
  | error failure =>
      refine SessionAttempt.ensures_bind (SessionAttempt.ensures_status ?_)
      refine SessionAttempt.ensures_pure ⟨rfl, ?_⟩
      rw [List.append_nil, List.append_nil]
      exact registered rfl (Moment.told_disk _ _)

/-- A tool is installed by its platform; Qt has a second way when that fails. -/
theorem ensures_installTool
    (platform : Platform)
    (settings : Settings)
    (step : PlanStep) :
    (installTool platform settings step).Ensures machine start
      (ToolInstalled platform settings machine step start) := by
  rw [installTool]
  split
  · rename_i isIsolated
    refine
      SessionAttempt.ensures_bind_pure
        ((ensures_installIsolated platform settings).mono ?_)
    intro exchanges outcome finish isolated
    exact .isolated isIsolated isolated
  · rename_i isQt notIsolated
    refine
      SessionAttempt.ensures_bind
        (SessionAttempt.ensures_outcome ((platform.ensures_install settings _).traced.mono ?_))
    rintro exchanges outcome middle ⟨runs, -, installed⟩
    cases outcome with
    | ok resolution =>
        refine SessionAttempt.ensures_pure ?_
        rw [List.append_nil]
        rw [← isQt] at runs installed
        exact .byPlatform notIsolated nofun runs installed
    | error failure =>
        -- The failure is reported and given up: how the second way ends is what counts.
        refine SessionAttempt.ensures_bind (SessionAttempt.ensures_complain ?_)
        refine
          SessionAttempt.ensures_bind_pure
            ((ensures_installIsolated platform settings).traced.mono ?_)
        rintro later outcome finish ⟨runsAgain, -, isolated⟩
        exact .again isQt notIsolated runs installed runsAgain isolated
  · rename_i notIsolated ordinary
    refine (platform.ensures_install settings step.tool).traced.mono ?_
    rintro exchanges outcome finish ⟨runs, -, installed⟩
    exact .byPlatform notIsolated (fun _ _ => ordinary) runs installed

end Provisioning

/-- The last of some commands installed Qt from an index that had been asked for it. -/
def EndsWithQt
    (settings : QtSettings)
    (home : Option Path)
    (exchanges : List Exchange)
    (resolution : Qt.Resolution)
    (after : World) :
    Prop :=
  ∃ front index later,
    exchanges = front ++ later ∧
      FromIndex settings home index later (.ok resolution) after

namespace EndsWithQt

variable {settings : QtSettings} {home : Option Path} {exchanges : List Exchange}
  {resolution : Qt.Resolution} {after : World}

theorem append
    (earlier : List Exchange)
    (ends : EndsWithQt settings home exchanges resolution after) :
    EndsWithQt settings home (earlier ++ exchanges) resolution after := by
  obtain ⟨front, index, later, rfl, installed⟩ := ends
  exact ⟨earlier ++ front, index, later, (List.append_assoc _ _ _).symm, installed⟩

theorem exists_place
    (ends : EndsWithQt settings home exchanges resolution after) :
    ∃ dir, settings.installPlace? home = some dir := by
  obtain ⟨front, index, later, -, installed⟩ := ends
  cases installed with
  | installed place => exact ⟨_, place⟩

end EndsWithQt

section Resolved

variable {platform : Platform} {settings : Settings} {machine : Machine} {start finish : Moment}
  {exchanges : List Exchange} {resolution : Qt.Resolution}

theorem ThroughIndex.endsWithQt
    {settings : QtSettings}
    {home : Option Path}
    {commands : List Invocation}
    {index : Qt.Index}
    {after : World}
    (through : ThroughIndex settings home commands index exchanges (.ok resolution) after) :
    EndsWithQt settings home exchanges resolution after := by
  cases through with
  | fromIndex installers installed => exact ⟨_, index, _, rfl, installed⟩

theorem PlatformInstalled.endsWithQt
    {tool : Tool}
    (installed :
      PlatformInstalled settings machine platform tool start exchanges
        (.ok (some resolution)) finish) :
    tool = .guiRuntime ∧
      EndsWithQt settings.qt machine.home exchanges resolution finish.world := by
  generalize isOk : Except.ok (some resolution) = outcome at installed
  cases installed with
  | packages ordinary installed =>
      obtain ⟨-, -, same⟩ := Except.map_eq_ok_iff.mp isOk.symm
      cases same
  | noQtPackages installed => cases isOk
  | qtPackages installed inspected => cases isOk
  | guided inspected => cases isOk
  | unanswered asks => cases isOk
  | interpreter ordinary notGuided installers =>
      obtain ⟨-, -, same⟩ := Except.map_eq_ok_iff.mp isOk.symm
      cases same
  | index through =>
      obtain ⟨_, rfl, same⟩ := Except.map_eq_ok_iff.mp isOk.symm
      cases same
      exact ⟨rfl, through.endsWithQt⟩

theorem Isolated.endsWithQt
    (isolated :
      Isolated platform settings machine start exchanges (.ok resolution) finish) :
    EndsWithQt settings.qt machine.home exchanges resolution finish.world := by
  generalize isOk : Except.ok resolution = outcome at isolated
  cases isolated with
  | unprepared prepared => cases isOk
  | homeless prepared noPlace => cases isOk
  | through prepared place through =>
      cases Except.mapError_eq_ok_iff.mp isOk.symm
      exact through.endsWithQt.append _

/-- What was resolved was installed from an index, at last. -/
theorem ToolInstalled.endsWithQt
    {step : PlanStep}
    (installed :
      ToolInstalled platform settings machine step start exchanges
        (.ok (some resolution)) finish) :
    EndsWithQt settings.qt machine.home exchanges resolution finish.world := by
  generalize isOk : Except.ok (some resolution) = outcome at installed
  cases installed with
  | byPlatform notIsolated final runs installed =>
      subst isOk
      exact installed.endsWithQt.2
  | again isQt notIsolated fails installed runs isolated =>
      obtain ⟨_, rfl, same⟩ := Except.map_eq_ok_iff.mp isOk.symm
      cases same
      exact isolated.endsWithQt.append _
  | isolated isIsolated isolated =>
      obtain ⟨_, rfl, same⟩ := Except.map_eq_ok_iff.mp isOk.symm
      cases same
      exact isolated.endsWithQt

/-- Only for Qt something is resolved. -/
theorem ToolInstalled.isQt_of_resolved
    {step : PlanStep}
    (installed :
      ToolInstalled platform settings machine step start exchanges
        (.ok (some resolution)) finish)
    (onlyQt : step.action = .installIsolated → step.tool = .guiRuntime) :
    step.tool = .guiRuntime := by
  generalize isOk : Except.ok (some resolution) = outcome at installed
  cases installed with
  | byPlatform notIsolated final runs installed =>
      subst isOk
      exact installed.endsWithQt.1
  | again isQt => exact isQt
  | isolated isIsolated => exact onlyQt isIsolated

/-- An ordinary tool is installed by its platform, and that decides. -/
theorem ToolInstalled.of_ordinary
    {step : PlanStep}
    {outcome : Except Failure (Option Qt.Resolution)}
    (installed : ToolInstalled platform settings machine step start exchanges outcome finish)
    (ordinary : step.tool ≠ .guiRuntime)
    (notIsolated : step.action ≠ .installIsolated) :
    (platform.install settings step.tool).exec machine start = (outcome, finish) ∧
      PlatformInstalled settings machine platform step.tool start exchanges outcome finish := by
  cases installed with
  | byPlatform _ final runs installed => exact ⟨runs, installed⟩
  | again isQt => exact (ordinary isQt).elim
  | isolated isIsolated => exact (notIsolated isIsolated).elim

/-- Where the platform fails to install Qt, the isolated installer decides. -/
theorem ToolInstalled.of_qt_failed
    {step : PlanStep}
    {outcome : Except Failure (Option Qt.Resolution)}
    {failure : Failure}
    {failed : Moment}
    (installed : ToolInstalled platform settings machine step start exchanges outcome finish)
    (isQt : step.tool = .guiRuntime)
    (notIsolated : step.action ≠ .installIsolated)
    (fails :
      (platform.install settings .guiRuntime).exec machine start =
        (.error failure, failed)) :
    ∃ earlier later resolved,
      exchanges = earlier ++ later ∧
        outcome = resolved.map some ∧
        PlatformInstalled settings machine platform .guiRuntime start earlier
          (.error failure) failed ∧
        (Provisioning.installIsolated platform settings).exec machine
            (failed.complained ("Installing Qt failed: " ++ failure.message)) =
          (resolved, finish) ∧
        Isolated platform settings machine
          (Provisioning.isolating
            (failed.complained ("Installing Qt failed: " ++ failure.message)))
          later resolved finish := by
  cases installed with
  | byPlatform _ final runs =>
      rw [isQt, fails] at runs
      cases runs
      exact (final failure rfl isQt).elim
  | again _ _ fails' installed runs isolated =>
      cases fails'.symm.trans fails
      exact ⟨_, _, _, rfl, rfl, installed, runs, isolated⟩
  | isolated isIsolated => exact (notIsolated isIsolated).elim

/-- The isolated installer fails by its own failures alone, where it has a place. -/
theorem Isolated.fallbackFailed
    {failure : Failure}
    {dir : Path}
    (isolated : Isolated platform settings machine start exchanges (.error failure) finish)
    (place : settings.qt.installerPlace? machine.home = some dir) :
    ∃ reason, failure = .fallbackFailed Tool.guiRuntime.shown reason := by
  generalize isError : Except.error failure = outcome at isolated
  cases isolated with
  | unprepared prepared =>
      cases isError
      exact ⟨_, rfl⟩
  | homeless prepared noPlace =>
      rw [place] at noPlace
      cases noPlace
  | through prepared place through =>
      obtain ⟨reason, -, rfl⟩ := Except.mapError_eq_error_iff.mp isError.symm
      exact ⟨reason.message, rfl⟩

theorem ToolInstalled.fallbackFailed
    {step : PlanStep}
    {failure : Failure}
    {dir : Path}
    (installed :
      ToolInstalled platform settings machine step start exchanges (.error failure) finish)
    (isQt : step.tool = .guiRuntime)
    (place : settings.qt.installerPlace? machine.home = some dir) :
    ∃ reason, failure = .fallbackFailed Tool.guiRuntime.shown reason := by
  generalize isError : Except.error failure = outcome at installed
  cases installed with
  | byPlatform _ final => exact (final failure isError.symm isQt).elim
  | again _ _ _ _ _ isolated =>
      cases Except.map_eq_error_iff.mp isError.symm
      exact isolated.fallbackFailed place
  | isolated _ isolated =>
      cases Except.map_eq_error_iff.mp isError.symm
      exact isolated.fallbackFailed place

end Resolved

/-- The moment when the install of a step has been announced. -/
def PlanStep.beginning (step : PlanStep) (moment : Moment) : Moment :=
  moment.told (step.tool.shown ++ " not found, installing...")

/-- What it takes to carry out a step. -/
inductive Carried
    (platform : Platform)
    (settings : Settings)
    (machine : Machine)
    (step : PlanStep)
    (start : Moment) :
    List Exchange → Except Failure (ToolStatus × Option Qt.Resolution) → Moment → Prop where
  | skipped
      {finish : Moment}
      (skips : step.action = .skip)
      (kept : finish.session = start.session) :
      Carried platform settings machine step start [] (.ok (step.status, none)) finish
  | failed
      {exchanges : List Exchange}
      {failure : Failure}
      {finish : Moment}
      (begun : step.action ≠ .skip)
      (installed :
        ToolInstalled platform settings machine step (step.beginning start) exchanges
          (.error failure) finish) :
      Carried platform settings machine step start exchanges (.error failure) finish
  /-- The tool is looked for again. -/
  | probed
      {exchanges later : List Exchange}
      {status : ToolStatus}
      {middle finish : Moment}
      (begun : step.action ≠ .skip)
      (installed :
        ToolInstalled platform settings machine step (step.beginning start) exchanges
          (.ok none) middle)
      (sameTool : status.tool = step.tool)
      (inspected : Inspected platform middle.session later finish.session) :
      Carried platform settings machine step start (exchanges ++ later)
        (.ok (status, none)) finish
  | registered
      {exchanges later : List Exchange}
      {resolution : Qt.Resolution}
      {dir : Path}
      {middle finish : Moment}
      (begun : step.action ≠ .skip)
      (installed :
        ToolInstalled platform settings machine step (step.beginning start) exchanges
          (.ok (some resolution)) middle)
      (place : settings.qt.installPlace? machine.home = some dir)
      (registered :
        Registered platform settings machine (Qt.binDir dir resolution) middle later
          finish) :
      Carried platform settings machine step start (exchanges ++ later)
        (.ok
          ({ ToolStatus.found step.tool (Qt.binDir dir resolution) with
              detail := some resolution.version.shown },
            some resolution))
        finish

/-- Only for Qt something is resolved. -/
theorem Carried.unresolved
    {platform : Platform}
    {settings : Settings}
    {machine : Machine}
    {step : PlanStep}
    {start finish : Moment}
    {exchanges : List Exchange}
    {result : ToolStatus × Option Qt.Resolution}
    (carried : Carried platform settings machine step start exchanges (.ok result) finish)
    (planned : Planned step.tool step)
    (ordinary : step.tool ≠ .guiRuntime) :
    result.2 = none := by
  cases carried with
  | skipped skips kept => rfl
  | probed begun installed sameTool inspected => rfl
  | registered begun installed place registered =>
      exact (ordinary (installed.isQt_of_resolved planned.guiRuntime_of_isolated)).elim

/-- A step that is not skipped installs its tool, and only that can fail. -/
theorem Carried.begun
    {platform : Platform}
    {settings : Settings}
    {machine : Machine}
    {step : PlanStep}
    {start finish : Moment}
    {exchanges : List Exchange}
    {outcome : Except Failure (ToolStatus × Option Qt.Resolution)}
    (carried : Carried platform settings machine step start exchanges outcome finish)
    (begun : step.action ≠ .skip) :
    (∃ failure,
        outcome = .error failure ∧
          ToolInstalled platform settings machine step (step.beginning start) exchanges
            (.error failure) finish) ∨
      ∃ earlier later status resolution middle,
        exchanges = earlier ++ later ∧
          outcome = .ok (status, resolution) ∧
          ToolInstalled platform settings machine step (step.beginning start) earlier
            (.ok resolution) middle := by
  cases carried with
  | skipped skips => exact (begun skips).elim
  | failed _ installed => exact .inl ⟨_, rfl, installed⟩
  | probed _ installed => exact .inr ⟨_, _, _, _, _, rfl, rfl, installed⟩
  | registered _ installed => exact .inr ⟨_, _, _, _, _, rfl, rfl, installed⟩

namespace Provisioning

variable {machine : Machine} {start : Moment}

/-- A tool that is not known from an index is looked for. -/
theorem ensures_statusAfterInstall_none
    (platform : Platform)
    (settings : Settings)
    (tool : Tool) :
    (statusAfterInstall platform settings tool none).Ensures machine start
      fun exchanges outcome finish =>
        ∃ status,
          outcome = .ok status ∧ status.tool = tool ∧
            Inspected platform start.session exchanges finish.session := by
  refine
    SessionAttempt.ensures_bind
      (SessionAttempt.ensures_lift ((platform.ensures_probe settings tool).mono ?_))
  rintro exchanges status finish ⟨sameTool, inspected⟩
  dsimp only
  split
  · refine SessionAttempt.ensures_pure ⟨status, rfl, sameTool, ?_⟩
    rwa [List.append_nil]
  · refine SessionAttempt.ensures_bind (SessionAttempt.ensures_status ?_)
    refine SessionAttempt.ensures_pure ⟨status, rfl, sameTool, ?_⟩
    simpa using inspected

theorem ensures_statusAfterInstall_some
    {settings : Settings}
    {dir : Path}
    (place : settings.qt.installPlace? machine.home = some dir)
    (platform : Platform)
    (tool : Tool)
    (resolution : Qt.Resolution) :
    (statusAfterInstall platform settings tool (some resolution)).Ensures machine start
      fun exchanges outcome finish =>
        outcome =
            .ok { ToolStatus.found tool (Qt.binDir dir resolution) with
              detail := some resolution.version.shown } ∧
          Registered platform settings machine (Qt.binDir dir resolution) start exchanges
            finish := by
  refine
    SessionAttempt.ensures_bind_pure ((ensures_registerQt place platform resolution).mono ?_)
  rintro exchanges _ finish ⟨rfl, registered⟩
  exact ⟨rfl, registered⟩

theorem ensures_carryOut
    (platform : Platform)
    (settings : Settings)
    (step : PlanStep) :
    (carryOut platform settings step).Ensures machine start
      (Carried platform settings machine step start) := by
  have installs
      (begun : step.action ≠ .skip) :
      (do
        Run.announce (step.tool.shown ++ " not found, installing...")
        let resolution ← installTool platform settings step
        let status ← statusAfterInstall platform settings step.tool resolution
        return (status, resolution) :
        SessionAttempt (ToolStatus × Option Qt.Resolution)).Ensures machine start
        (Carried platform settings machine step start) := by
    refine SessionAttempt.ensures_bind (SessionAttempt.ensures_status ?_)
    refine SessionAttempt.ensures_bind ((ensures_installTool platform settings step).mono ?_)
    intro exchanges outcome middle installed
    rcases outcome with failure | _ | resolution
    · exact .failed begun installed
    · refine
        SessionAttempt.ensures_bind_pure
          ((ensures_statusAfterInstall_none platform settings step.tool).mono ?_)
      rintro later _ finish ⟨status, rfl, sameTool, inspected⟩
      rw [List.nil_append]
      exact .probed begun installed sameTool inspected
    · obtain ⟨dir, place⟩ := installed.endsWithQt.exists_place
      refine
        SessionAttempt.ensures_bind_pure
          ((ensures_statusAfterInstall_some place platform step.tool resolution).mono ?_)
      rintro later _ finish ⟨rfl, registered⟩
      rw [List.nil_append]
      exact .registered begun installed place registered
  rw [carryOut]
  cases action : step.action with
  | install => exact installs (by rw [action]; nofun)
  | installIsolated => exact installs (by rw [action]; nofun)
  | skip =>
      dsimp only
      rw [reportPresent]
      split
      · refine SessionAttempt.ensures_bind (SessionAttempt.ensures_status ?_)
        exact SessionAttempt.ensures_pure (.skipped action rfl)
      · refine SessionAttempt.ensures_bind (SessionAttempt.ensures_status ?_)
        exact SessionAttempt.ensures_pure (.skipped action rfl)

end Provisioning

end Provision
