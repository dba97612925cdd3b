import Provision.Proofs.Provisioning.Installers

namespace Provision

/-!
# How platforms install

On Unix the package lists are brought up to date first, unless that was done
before in the session, and then the packages are installed. On Windows there is
one installer for each tool but the compiler, which the user installs before
going on. What a platform needs for an isolated installer comes from the package
manager, where that is found.
-/

/-- Whether one of some commands brought the package lists up to date. -/
abbrev updatedLists (exchanges : List Exchange) : Bool :=
  succeeded (· == Platform.updateLists) exchanges

/-- The commands that install packages. -/
def packageCommands (listsUpdated : Bool) (packages : List String) : List Invocation :=
  (if listsUpdated then [] else [Platform.updateLists]) ++
    [Platform.installPackages packages]

/-- What it takes to install packages, and what the session knows afterwards. -/
structure PackagesInstalled
    (tool : String)
    (packages : List String)
    (before : Session)
    (exchanges : List Exchange)
    (outcome : Except Failure Unit)
    (after : Session) :
    Prop where
  installers :
    InstallersRun tool (packageCommands before.listsUpdated packages) exchanges outcome
  env : after.env = before.env
  assumeYes : after.assumeYes = before.assumeYes
  listsUpdated : after.listsUpdated = (before.listsUpdated || updatedLists exchanges)

/-- Nothing is run but to update the lists and to install the packages. -/
theorem PackagesInstalled.command_cases
    {tool : String}
    {packages : List String}
    {before after : Session}
    {exchanges : List Exchange}
    {outcome : Except Failure Unit}
    (installed : PackagesInstalled tool packages before exchanges outcome after) :
    ∀ exchange ∈ exchanges,
      exchange.1 = Platform.updateLists ∨
        exchange.1 = Platform.installPackages packages := by
  intro exchange member
  have isCommand := installed.installers.mem_commands exchange member
  rcases List.mem_append.mp isCommand with isUpdate | isInstall
  · split at isUpdate
    · cases isUpdate
    · exact .inl (List.mem_singleton.mp isUpdate)
  · exact .inr (List.mem_singleton.mp isInstall)

@[simp] theorem Platform.installPackages_ne_updateLists
    (packages : List String) :
    installPackages packages ≠ updateLists := by
  simp [installPackages, updateLists, packageCommand, Invocation.onTerminal]

variable {machine : Machine} {start : Moment}

theorem Platform.ensures_packageInstall
    (tool : String)
    (packages : List String) :
    (packageInstall tool packages).Ensures machine start fun exchanges outcome finish =>
      PackagesInstalled tool packages start.session exchanges outcome
        finish.session := by
  refine SessionAttempt.ensures_bind (SessionAttempt.ensures_get ?_)
  dsimp only
  cases updated : start.session.listsUpdated with
  | true =>
      refine SessionAttempt.ensures_ofAttempt ((ensures_runInstaller _ _).mono ?_)
      rintro _ _ after ⟨reply, rfl, rfl, -⟩
      refine ⟨?_, rfl, rfl, by simp [updated]⟩
      rw [updated]
      exact .single tool _ reply
  | false =>
      refine
        SessionAttempt.ensures_bind
          (SessionAttempt.ensures_ofAttempt ((ensures_runInstaller _ _).mono ?_))
      rintro _ _ between ⟨update, rfl, rfl, -⟩
      cases ended : update.endedWell with
      | false =>
          refine ⟨?_, rfl, rfl, by simp [updated, updatedLists, ended]⟩
          rw [updated]
          exact .stops ended
      | true =>
          -- From here on the session knows that the lists are up to date.
          refine SessionAttempt.ensures_bind (SessionAttempt.ensures_modify ?_)
          refine SessionAttempt.ensures_ofAttempt ((ensures_runInstaller _ _).mono ?_)
          rintro _ _ after ⟨reply, rfl, rfl, -⟩
          refine ⟨?_, rfl, rfl, by simp [updatedLists, ended]⟩
          rw [updated]
          exact .goesOn ended (.single tool _ reply)

/-- What it takes to get ready for an isolated installer. -/
inductive Prepared (machine : Machine) :
    Platform → Moment → List Exchange → Except Failure Unit → Moment → Prop where
  | notNeeded (start : Moment) :
      Prepared machine .windows start [] (.ok ()) start
  | unavailable
      {start : Moment}
      (missing :
        Platform.unix.installerFound .guiRuntime machine start.session.env
          start.world.disk = false) :
      Prepared machine .unix start [] (.ok ()) start
  | packages
      {start finish : Moment}
      {exchanges : List Exchange}
      {outcome : Except Failure Unit}
      (found :
        Platform.unix.installerFound .guiRuntime machine start.session.env
          start.world.disk = true)
      (installed :
        PackagesInstalled Tool.guiRuntime.shown ["python3-venv"] start.session exchanges
          outcome finish.session) :
      Prepared machine .unix start exchanges outcome finish

theorem Platform.ensures_prepareFallback
    (platform : Platform) :
    platform.prepareFallback.Ensures machine start (Prepared machine platform start) := by
  cases platform with
  | windows =>
      exact SessionAttempt.ensures_pure (.notNeeded start)
  | unix =>
      refine
        SessionAttempt.ensures_bind
          (SessionAttempt.ensures_lift (Platform.ensures_hasInstaller ?_))
      cases found :
          unix.installerFound .guiRuntime machine start.session.env start.world.disk with
      | false =>
          exact SessionAttempt.ensures_pure (.unavailable found)
      | true =>
          exact (ensures_packageInstall _ _).mono fun _ _ _ => .packages found

/-- What it takes to install a tool in the way of the platform. -/
inductive PlatformInstalled (settings : Settings) (machine : Machine) :
    Platform → Tool → Moment → List Exchange → Except Failure (Option Qt.Resolution) →
      Moment → Prop where
  | packages
      {tool : Tool}
      {start finish : Moment}
      {exchanges : List Exchange}
      {outcome : Except Failure Unit}
      (ordinary : tool ≠ .guiRuntime)
      (installed :
        PackagesInstalled tool.shown (Platform.packagesOf tool) start.session exchanges
          outcome finish.session) :
      PlatformInstalled settings machine .unix tool start exchanges
        (outcome.map fun _ => none) finish
  | noQtPackages
      {start finish : Moment}
      {exchanges : List Exchange}
      {failure : Failure}
      (installed :
        PackagesInstalled Tool.guiRuntime.shown (Platform.packagesOf .guiRuntime)
          start.session exchanges (.error failure) finish.session) :
      PlatformInstalled settings machine .unix .guiRuntime start exchanges
        (.error failure) finish
  | qtPackages
      {start middle finish : Moment}
      {exchanges later : List Exchange}
      (installed :
        PackagesInstalled Tool.guiRuntime.shown (Platform.packagesOf .guiRuntime)
          start.session exchanges (.ok ()) middle.session)
      (inspected : Inspected .unix middle.session later finish.session) :
      PlatformInstalled settings machine .unix .guiRuntime start (exchanges ++ later)
        (.ok none) finish
  /-- The user installs the compiler, which is looked for if the user goes on. -/
  | guided
      {start finish : Moment}
      {exchanges : List Exchange}
      (inspected : Inspected .windows start.session exchanges finish.session) :
      PlatformInstalled settings machine .windows .compiler start exchanges (.ok none)
        finish
  /-- The user could not be asked, and the answer is not assumed. -/
  | unanswered
      {start : Moment}
      {reason : String}
      {after : World}
      (asks : start.session.assumeYes = false) :
      PlatformInstalled settings machine .windows .compiler start []
        (.error (.promptFailed reason)) { start with world := after }
  | interpreter
      {tool : Tool}
      {start : Moment}
      {exchanges : List Exchange}
      {outcome : Except Failure Unit}
      {after : World}
      (ordinary : tool ≠ .guiRuntime)
      (notGuided : tool ≠ .compiler)
      (installers :
        InstallersRun tool.shown
          [Platform.interpreterInstall (Platform.windows.executable tool)] exchanges
          outcome) :
      PlatformInstalled settings machine .windows tool start exchanges
        (outcome.map fun _ => none) { start with world := after }
  | index
      {start : Moment}
      {exchanges : List Exchange}
      {outcome : Except Failure Qt.Resolution}
      {after : World}
      (through :
        ThroughIndex settings.qt machine.home [Platform.interpreterInstall "aqtinstall"]
          (.onPath Platform.windows.host) exchanges outcome after) :
      PlatformInstalled settings machine .windows .guiRuntime start exchanges
        (outcome.map some) { start with world := after }

namespace Platform

theorem ensures_installQtPackages
    (settings : Settings) :
    (installQtPackages settings).Ensures machine start fun exchanges outcome finish =>
      PlatformInstalled settings machine .unix .guiRuntime start exchanges
        (outcome.map fun _ => none) finish := by
  refine SessionAttempt.ensures_bind (SessionAttempt.ensures_status ?_)
  refine SessionAttempt.ensures_bind ((ensures_packageInstall _ _).mono ?_)
  intro exchanges outcome middle installed
  cases outcome with
  | error failure =>
      exact .noQtPackages installed
  | ok =>
      refine
        SessionAttempt.ensures_bind
          (SessionAttempt.ensures_liftRun
            ((Qt.ensures_installedVersion settings.qt.major).mono ?_))
      intro later version after inspections
      have installedQt (finish : Moment) (kept : finish.session = middle.session) :
          PlatformInstalled settings machine .unix .guiRuntime start
            ([] ++ (exchanges ++ (later ++ []))) (.ok none) finish := by
        rw [List.nil_append, List.append_nil]
        exact .qtPackages installed (kept ▸ .ofInspections .unix _ inspections)
      cases version with
      | some version => exact SessionAttempt.ensures_status (installedQt _ rfl)
      | none => exact SessionAttempt.ensures_status (installedQt _ rfl)

theorem ensures_guideCompilerInstall
    (settings : Settings) :
    (guideCompilerInstall settings).Ensures machine start fun exchanges outcome finish =>
      PlatformInstalled settings machine .windows .compiler start exchanges
        (outcome.map fun _ => none) finish := by
  refine SessionAttempt.ensures_bind (SessionAttempt.ensures_status ?_)
  refine SessionAttempt.ensures_bind (SessionAttempt.ensures_status ?_)
  refine SessionAttempt.ensures_bind (SessionAttempt.ensures_status ?_)
  refine SessionAttempt.ensures_bind (SessionAttempt.ensures_goesOn ?_)
  cases answer : machine.answer _ with
  | error failure =>
      obtain ⟨asks, reason, rfl⟩ := Machine.answer_eq_error answer
      exact .unanswered asks
  | ok goesOn =>
      cases goesOn with
      | false =>
          exact SessionAttempt.ensures_status (.guided (.refl .windows _))
      | true =>
          refine
            SessionAttempt.ensures_bind
              (SessionAttempt.ensures_lift
                ((ensures_probeCompiler .windows settings).mono ?_))
          rintro exchanges status finish ⟨-, inspected⟩
          dsimp only
          split
          · exact SessionAttempt.ensures_pure (.guided (by simpa using inspected))
          · exact SessionAttempt.ensures_status (.guided (by simpa using inspected))

/-- Every platform installs a tool in its way, and in no other. -/
theorem ensures_install
    (platform : Platform)
    (settings : Settings)
    (tool : Tool) :
    (platform.install settings tool).Ensures machine start
      (PlatformInstalled settings machine platform tool start) := by
  cases platform with
  | unix =>
      have packages
          (ordinary : tool ≠ .guiRuntime) :
          (packageInstall tool.shown (packagesOf tool) >>= fun _ =>
            pure none).Ensures machine start
              (PlatformInstalled settings machine .unix tool start) :=
        SessionAttempt.ensures_bind_pure
          ((ensures_packageInstall _ _).mono fun _ _ _ => .packages ordinary)
      cases tool with
      | compiler => exact packages nofun
      | buildGenerator => exact packages nofun
      | buildRunner => exact packages nofun
      | guiRuntime =>
          exact SessionAttempt.ensures_bind_pure (ensures_installQtPackages settings)
  | windows =>
      have interpreter
          (ordinary : tool ≠ .guiRuntime)
          (notGuided : tool ≠ .compiler) :
          (SessionAttempt.ofAttempt
              (runInstaller tool.shown (interpreterInstall (windows.executable tool))) >>=
            fun _ => pure none).Ensures machine start
              (PlatformInstalled settings machine .windows tool start) := by
        refine
          SessionAttempt.ensures_bind_pure
            (SessionAttempt.ensures_ofAttempt ((ensures_runInstaller _ _).mono ?_))
        rintro _ _ after ⟨reply, rfl, rfl, -⟩
        exact .interpreter ordinary notGuided (.single _ _ reply)
      cases tool with
      | buildGenerator => exact interpreter nofun nofun
      | buildRunner => exact interpreter nofun nofun
      | compiler =>
          exact SessionAttempt.ensures_bind_pure (ensures_guideCompilerInstall settings)
      | guiRuntime =>
          have through :
              (runInstaller Tool.guiRuntime.shown (interpreterInstall "aqtinstall") >>=
                fun _ => installFromIndex settings.qt (.onPath windows.host)).Ensures
                  machine start.world
                  (ThroughIndex settings.qt machine.home
                    [interpreterInstall "aqtinstall"] (.onPath windows.host)) :=
            ThroughIndex.ensures_cons fun _ => ensures_throughIndex _ _
          refine SessionAttempt.ensures_ofAttempt ?_
          rw [← bind_assoc]
          refine Attempt.ensures_bind (through.mono fun exchanges outcome after through => ?_)
          cases outcome with
          | error failure =>
              exact .index through
          | ok resolution =>
              refine Attempt.ensures_pure ?_
              rw [List.append_nil]
              exact .index through

end Platform

/-!
## The isolated installer

Qt has a second way, which every platform has: an environment of its own is
created, the program of the index is installed into it, and Qt comes from that
index.
-/

/-- What it takes to install Qt with an isolated installer. -/
inductive Isolated
    (platform : Platform)
    (settings : Settings)
    (machine : Machine)
    (start : Moment) :
    List Exchange → Except Failure Qt.Resolution → Moment → Prop where
  | unprepared
      {exchanges : List Exchange}
      {failure : Failure}
      {finish : Moment}
      (prepared : Prepared machine platform start exchanges (.error failure) finish) :
      Isolated platform settings machine start exchanges
        (.error (Provisioning.isolatedFailure failure)) finish
  | homeless
      {exchanges : List Exchange}
      {finish : Moment}
      (prepared : Prepared machine platform start exchanges (.ok ()) finish)
      (noPlace : settings.qt.installerPlace? machine.home = none) :
      Isolated platform settings machine start exchanges (.error .homeUnavailable) finish
  | through
      {exchanges later : List Exchange}
      {outcome : Except Failure Qt.Resolution}
      {middle : Moment}
      {after : World}
      {dir : Path}
      (prepared : Prepared machine platform start exchanges (.ok ()) middle)
      (place : settings.qt.installerPlace? machine.home = some dir)
      (through :
        ThroughIndex settings.qt machine.home
          [Provisioning.createInstaller platform dir,
            Provisioning.equipInstaller (dir.child platform.scriptsDir)]
          (.atPath ((dir.child platform.scriptsDir).child "aqt") platform.host)
          later outcome after) :
      Isolated platform settings machine start (exchanges ++ later)
        (outcome.mapError Provisioning.isolatedFailure) { middle with world := after }

namespace Provisioning

/-- The moment when the second way of installing Qt has been announced. -/
def isolating (moment : Moment) : Moment :=
  moment.told "Creating a virtual environment for aqtinstall..."

theorem ensures_installIsolated
    (platform : Platform)
    (settings : Settings) :
    (installIsolated platform settings).Ensures machine start
      (Isolated platform settings machine (isolating start)) := by
  refine SessionAttempt.ensures_bind (SessionAttempt.ensures_status ?_)
  refine
    SessionAttempt.ensures_bind
      (SessionAttempt.ensures_orIsolatedFailure (platform.ensures_prepareFallback.mono ?_))
  intro exchanges outcome middle prepared
  cases outcome with
  | error failure =>
      exact .unprepared prepared
  | ok =>
      refine
        SessionAttempt.ensures_bind
          (SessionAttempt.ensures_ofAttempt
            (Attempt.ensures_of_exec (settings.qt.exec_installerPath) (.done _) ?_))
      cases place : settings.qt.installerPlace? machine.home with
      | none =>
          dsimp only [orHomeless]
          rw [List.append_nil]
          exact .homeless prepared place
      | some dir =>
          refine
            SessionAttempt.ensures_orIsolatedFailure
              (SessionAttempt.ensures_ofAttempt
                (Attempt.Ensures.mono
                  (ThroughIndex.ensures_cons fun _ =>
                    ThroughIndex.ensures_cons fun _ => ensures_throughIndex _ _)
                  fun later outcome after through => ?_))
          rw [List.nil_append]
          exact .through prepared place through

end Provisioning

end Provision
