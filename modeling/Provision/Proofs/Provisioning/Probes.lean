import Provision.Proofs.Provisioning.Sessions
import Provision.Proofs.Toolchain.Outcomes

namespace Provision

/-!
# Looking at tools

To look at a tool takes no installer: the commands that are run tell the version
of Qt or activate the vendor's compiler. What the process started with is left
alone, and so is the whole environment on Unix.
-/

/-- A command that looks at a tool. -/
inductive Inspection : Invocation → Prop where
  | askVersion
      {program : String}
      (isQmake : program ∈ Qt.qmakeNames) :
      Inspection { program := program, arguments := ["-v"] }
  | activation (script : Path) (architecture : String) :
      Inspection (Toolchain.activationCommand script architecture)

/-- The output of a command that looks at a tool is read, and not shown. -/
theorem Inspection.collected
    {invocation : Invocation}
    (inspection : Inspection invocation) :
    invocation.capture = .collected := by
  cases inspection <;> rfl

/-- What a session may come to while tools are looked at. -/
structure Inspected
    (platform : Platform)
    (before : Session)
    (exchanges : List Exchange)
    (after : Session) :
    Prop where
  inspections : ∀ exchange ∈ exchanges, Inspection exchange.1
  assumeYes : after.assumeYes = before.assumeYes
  listsUpdated : after.listsUpdated = before.listsUpdated
  base : after.env.base = before.env.base
  onUnix : platform = .unix → after.env = before.env

namespace Inspected

variable {platform : Platform} {before between after : Session}
  {exchanges later : List Exchange}

theorem ofInspections
    (platform : Platform)
    (session : Session)
    (inspections : ∀ exchange ∈ exchanges, Inspection exchange.1) :
    Inspected platform session exchanges session where
  inspections := inspections
  assumeYes := rfl
  listsUpdated := rfl
  base := rfl
  onUnix _ := rfl

theorem refl
    (platform : Platform)
    (session : Session) :
    Inspected platform session [] session :=
  ofInspections platform session (List.forall_mem_nil _)

theorem trans
    (first : Inspected platform before exchanges between)
    (rest : Inspected platform between later after) :
    Inspected platform before (exchanges ++ later) after where
  inspections := List.forall_mem_append.mpr ⟨first.inspections, rest.inspections⟩
  assumeYes := rest.assumeYes.trans first.assumeYes
  listsUpdated := rest.listsUpdated.trans first.listsUpdated
  base := rest.base.trans first.base
  onUnix isUnix := (rest.onUnix isUnix).trans (first.onUnix isUnix)

end Inspected

@[simp] theorem ToolStatus.ofSearch_tool
    (tool : Tool)
    (found : Option Path) :
    (ofSearch tool found).tool = tool := by
  cases found <;> rfl

@[simp] theorem ToolStatus.ofSearch_present
    (tool : Tool)
    (found : Option Path) :
    (ofSearch tool found).present = found.isSome := by
  cases found <;> rfl

variable {machine : Machine} {world : World} {start : Moment}

namespace Qt

theorem ensures_askVersion
    (major : Nat)
    {program : String}
    (isQmake : program ∈ qmakeNames) :
    (askVersion major program).Ensures machine world fun exchanges _ _ =>
      ∀ exchange ∈ exchanges, Inspection exchange.1 := by
  refine Run.ensures_bind (Run.ensures_command fun reply => ?_)
  have inspection :
      ∀ exchange ∈ [(({ program := program, arguments := ["-v"] } : Invocation), reply)],
        Inspection exchange.1 :=
    List.forall_mem_singleton.mpr (.askVersion isQmake)
  cases reply.outcome with
  | error reason =>
      exact Run.ensures_pure inspection
  | ok output =>
      dsimp only
      split
      · exact Run.ensures_pure inspection
      · exact Run.ensures_pure inspection

theorem ensures_firstReported
    (major : Nat)
    {programs : List String}
    (areQmakes : ∀ program ∈ programs, program ∈ qmakeNames) :
    (firstReported major programs).Ensures machine world fun exchanges _ _ =>
      ∀ exchange ∈ exchanges, Inspection exchange.1 := by
  induction programs generalizing world with
  | nil =>
      exact Run.ensures_pure (List.forall_mem_nil _)
  | cons program rest inductionHypothesis =>
      obtain ⟨isQmake, restAreQmakes⟩ := List.forall_mem_cons.mp areQmakes
      refine Run.ensures_bind ((ensures_askVersion major isQmake).mono ?_)
      intro exchanges version between inspections
      cases version with
      | some version =>
          exact Run.ensures_pure (by simpa using inspections)
      | none =>
          refine (inductionHypothesis restAreQmakes).mono ?_
          intro later _ _ laterInspections
          exact List.forall_mem_append.mpr ⟨inspections, laterInspections⟩

theorem ensures_installedVersion
    (major : Nat) :
    (installedVersion major).Ensures machine world fun exchanges _ _ =>
      ∀ exchange ∈ exchanges, Inspection exchange.1 :=
  ensures_firstReported major fun _ => id

end Qt

theorem ensures_probeQt
    (settings : Settings)
    (env : Environment) :
    (probeQt settings env).Ensures machine world fun exchanges status _ =>
      (∀ exchange ∈ exchanges, Inspection exchange.1) ∧ status.tool = .guiRuntime := by
  refine Run.ensures_bind ((Qt.ensures_installedVersion settings.qt.major).mono ?_)
  intro exchanges version between inspections
  have noMore : ∀ exchange ∈ exchanges ++ [], Inspection exchange.1 := by
    simpa using inspections
  cases version with
  | none =>
      exact Run.ensures_pure ⟨noMore, rfl⟩
  | some version =>
      refine Run.ensures_bind (Environment.ensures_find? ?_)
      cases env.located machine between.disk "qmake6" with
      | some found =>
          exact Run.ensures_pure ⟨noMore, rfl⟩
      | none =>
          refine Run.ensures_bind (Environment.ensures_find? ?_)
          exact Run.ensures_pure ⟨noMore, rfl⟩

/--
What probing the compiler on Windows comes to: it is found, or else its toolchain
is missing, cannot be activated, or was activated.
-/
inductive CompilerProbed
    (settings : Settings)
    (machine : Machine)
    (start : Moment) :
    List Exchange → ToolStatus → Moment → Prop where
  | present
      {path : Path}
      (found :
        start.session.env.located machine start.world.disk
          (Platform.windows.executable .compiler) = some path) :
      CompilerProbed settings machine start [] (.found .compiler path) start
  | missing
      {finish : Moment}
      (notFound :
        start.session.env.located machine start.world.disk
          (Platform.windows.executable .compiler) = none)
      (notLocated :
        Toolchain.located? settings.toolchain start.world.disk machine.directory = none)
      (session : finish.session = start.session)
      (disk : finish.world.disk = start.world.disk) :
      CompilerProbed settings machine start [] (.absent .compiler) finish
  | refused
      {asked : World}
      {finish : Moment}
      {installation : Toolchain.Installation}
      (notFound :
        start.session.env.located machine start.world.disk
          (Platform.windows.executable .compiler) = none)
      (isLocated :
        Toolchain.located? settings.toolchain start.world.disk machine.directory =
          some installation)
      (askedDisk : asked.disk = start.world.disk)
      (fails :
        Toolchain.activationAfter machine installation.root
          (Platform.windows.executable .compiler) start.session.env
          (machine.runner asked installation.activation) = none)
      (session : finish.session = start.session)
      (disk : finish.world.disk = (machine.runner asked installation.activation).disk) :
      CompilerProbed settings machine start
        [(installation.activation, machine.runner asked installation.activation)]
        (.absent .compiler) finish
  | activated
      {asked : World}
      {finish : Moment}
      {installation : Toolchain.Installation}
      {activation : Toolchain.Activation}
      (notFound :
        start.session.env.located machine start.world.disk
          (Platform.windows.executable .compiler) = none)
      (isLocated :
        Toolchain.located? settings.toolchain start.world.disk machine.directory =
          some installation)
      (askedDisk : asked.disk = start.world.disk)
      (succeeds :
        Toolchain.activationAfter machine installation.root
          (Platform.windows.executable .compiler) start.session.env
          (machine.runner asked installation.activation) = some activation)
      (session :
        finish.session =
          { start.session with env := start.session.env.merge activation.delta })
      (disk : finish.world.disk = (machine.runner asked installation.activation).disk) :
      CompilerProbed settings machine start
        [(installation.activation, machine.runner asked installation.activation)]
        (.ofSearch .compiler activation.compiler) finish

namespace CompilerProbed

variable {settings : Settings} {finish : Moment} {exchanges : List Exchange}
  {status : ToolStatus}

theorem tool
    (probed : CompilerProbed settings machine start exchanges status finish) :
    status.tool = .compiler := by
  cases probed with
  | present found => rfl
  | missing notFound notLocated session disk => rfl
  | refused notFound isLocated askedDisk fails session disk => rfl
  | activated notFound isLocated askedDisk succeeds session disk =>
      exact ToolStatus.ofSearch_tool _ _

/-- To probe the compiler is to look at it. -/
theorem inspected
    (probed : CompilerProbed settings machine start exchanges status finish) :
    Inspected .windows start.session exchanges finish.session := by
  have inspection (installation : Toolchain.Installation) (reply : Reply) :
      ∀ exchange ∈ [(installation.activation, reply)], Inspection exchange.1 :=
    List.forall_mem_singleton.mpr (.activation installation.script Toolchain.hostArchitecture)
  cases probed with
  | present found => exact .refl .windows _
  | missing notFound notLocated session disk =>
      rw [session]
      exact .refl .windows _
  | refused notFound isLocated askedDisk fails session disk =>
      rw [session]
      exact .ofInspections .windows _ (inspection _ _)
  | activated notFound isLocated askedDisk succeeds session disk =>
      rw [session]
      exact
        { inspections := inspection _ _
          assumeYes := rfl
          listsUpdated := rfl
          base := rfl
          onUnix := nofun }

end CompilerProbed

namespace Platform

theorem ensures_activateCompiler
    (settings : Settings)
    (notFound :
      start.session.env.located machine start.world.disk (windows.executable .compiler) =
        none) :
    (activateCompiler settings (windows.executable .compiler)).Ensures machine start
      (CompilerProbed settings machine start) := by
  refine SessionRun.ensures_bind (SessionRun.ensures_status ?_)
  refine
    SessionRun.ensures_bind
      (SessionRun.ensures_lift ((Toolchain.ensures_locate settings.toolchain).mono ?_))
  rintro _ installation between ⟨rfl, isLocated, sameDisk⟩
  rw [Moment.told_disk] at isLocated sameDisk
  cases installation with
  | none =>
      refine SessionRun.ensures_bind (SessionRun.ensures_status ?_)
      refine SessionRun.ensures_pure (.missing notFound isLocated.symm rfl ?_)
      rw [Moment.told_disk, sameDisk]
  | some installation =>
      refine SessionRun.ensures_bind (SessionRun.ensures_status ?_)
      refine SessionRun.ensures_bind (SessionRun.ensures_env ?_)
      refine
        SessionRun.ensures_bind
          (SessionRun.ensures_lift ((Toolchain.ensures_activate _ _ _ _ _).mono ?_))
      rintro _ activation after ⟨rfl, isActivation, replyDisk⟩
      have askedDisk
          (line : String) :
          (Run.statusShown line between).disk = start.world.disk :=
        (Run.statusShown_disk line).trans sameDisk
      cases activation with
      | none =>
          exact
            SessionRun.ensures_pure
              (.refused notFound isLocated.symm (askedDisk _) isActivation.symm rfl replyDisk)
      | some activation =>
          -- Only here does looking change the environment: what is pending, not the base.
          refine SessionRun.ensures_bind (SessionRun.ensures_setEnv ?_)
          exact
            SessionRun.ensures_pure
              (.activated notFound isLocated.symm (askedDisk _) isActivation.symm rfl replyDisk)

/-- On Windows the compiler is found, or its toolchain is activated. -/
theorem ensures_probeCompiler_windows
    (settings : Settings) :
    (windows.probeCompiler settings).Ensures machine start
      (CompilerProbed settings machine start) := by
  refine SessionRun.ensures_bind (SessionRun.ensures_env ?_)
  refine SessionRun.ensures_bind (SessionRun.ensures_lift (Environment.ensures_find? ?_))
  cases found :
      start.session.env.located machine start.world.disk (windows.executable .compiler) with
  | some path =>
      exact SessionRun.ensures_pure (.present found)
  | none =>
      exact ensures_activateCompiler settings found

theorem ensures_probeCompiler
    (platform : Platform)
    (settings : Settings) :
    (platform.probeCompiler settings).Ensures machine start
      fun exchanges status finish =>
        status.tool = .compiler ∧ Inspected platform start.session exchanges finish.session := by
  cases platform with
  | unix =>
      refine SessionRun.ensures_bind (SessionRun.ensures_env ?_)
      refine SessionRun.ensures_bind (SessionRun.ensures_lift (Environment.ensures_find? ?_))
      exact SessionRun.ensures_pure ⟨ToolStatus.ofSearch_tool _ _, .refl .unix _⟩
  | windows =>
      refine (ensures_probeCompiler_windows settings).mono ?_
      exact fun exchanges status finish probed => ⟨probed.tool, probed.inspected⟩

/-- To probe a tool is to look at it, and the status is that of the tool. -/
theorem ensures_probe
    (platform : Platform)
    (settings : Settings)
    (tool : Tool) :
    (platform.probe settings tool).Ensures machine start
      fun exchanges status finish =>
        status.tool = tool ∧ Inspected platform start.session exchanges finish.session := by
  have searched
      (other : Tool) :
      (do
          return ToolStatus.ofSearch other
            (← (← SessionRun.env).find? (platform.executable other)) :
        SessionRun ToolStatus).Ensures machine start fun exchanges status finish =>
        status.tool = other ∧ Inspected platform start.session exchanges finish.session := by
    refine SessionRun.ensures_bind (SessionRun.ensures_env ?_)
    refine SessionRun.ensures_bind (SessionRun.ensures_lift (Environment.ensures_find? ?_))
    exact SessionRun.ensures_pure ⟨ToolStatus.ofSearch_tool _ _, .refl platform _⟩
  cases tool with
  | compiler => exact ensures_probeCompiler platform settings
  | buildGenerator => exact searched .buildGenerator
  | buildRunner => exact searched .buildRunner
  | guiRuntime =>
      refine SessionRun.ensures_bind (SessionRun.ensures_env ?_)
      refine SessionRun.ensures_lift ((ensures_probeQt settings _).mono ?_)
      rintro exchanges status after ⟨inspections, sameTool⟩
      exact ⟨sameTool, .ofInspections platform _ inspections⟩

/-- Whether the installer of a platform for a tool is found on a disk. -/
def installerFound
    (platform : Platform)
    (tool : Tool)
    (machine : Machine)
    (env : Environment)
    (disk : Disk) :
    Bool :=
  match platform, tool with
  | windows, .compiler => true
  | windows, _ => (env.located machine disk "pip").isSome
  | unix, _ => (env.located machine disk packageManager).isSome

@[simp] theorem exec_hasInstaller
    (platform : Platform)
    (tool : Tool) :
    (platform.hasInstaller tool).exec machine start =
      (platform.installerFound tool machine start.session.env start.world.disk, start) := by
  cases platform with
  | unix => rfl
  | windows => cases tool <;> rfl

theorem ensures_hasInstaller
    {platform : Platform}
    {tool : Tool}
    {holds : List Exchange → Bool → Moment → Prop}
    (told :
      holds []
        (platform.installerFound tool machine start.session.env start.world.disk)
        start) :
    (platform.hasInstaller tool).Ensures machine start holds := by
  rw [SessionRun.Ensures, exec_hasInstaller]
  exact ⟨[], .done _, told⟩

end Platform

/-!
## Plans

A plan has a step for every tool, in the order of installation. A step is
skipped exactly if its probe found the tool, and only Qt can be installed
without the installer of the platform. To plan is to look at the tools, nothing
more.
-/

/-- The step that a plan may have for a tool. -/
structure Planned (tool : Tool) (step : PlanStep) : Prop where
  tool_eq : step.tool = tool
  status_tool : step.status.tool = tool
  skip_iff : step.action = .skip ↔ step.status.present = true
  guiRuntime_of_isolated : step.action = .installIsolated → tool = .guiRuntime

/-- The tools that are no part of Qt, in the order of installation. -/
def Tool.ordinary : List Tool :=
  [compiler, buildGenerator, buildRunner]

theorem Tool.ne_guiRuntime_of_mem_ordinary
    {tool : Tool}
    (member : tool ∈ ordinary) :
    tool ≠ .guiRuntime := by
  rintro rfl
  revert member
  decide

namespace InstallPlan

variable {machine : Machine} {start : Moment}

theorem ensures_decide
    (platform : Platform)
    (status : ToolStatus)
    (tool : Tool) :
    (decide platform status tool).Ensures machine start fun exchanges action finish =>
      exchanges = [] ∧ finish = start ∧
        (action = .skip ↔ status.present = true) ∧
        (action = .installIsolated → tool = .guiRuntime) := by
  rw [decide]
  split
  · rename_i present
    exact SessionRun.ensures_pure ⟨rfl, rfl, by simp [present], nofun⟩
  · rename_i missing
    split
    · exact SessionRun.ensures_pure ⟨rfl, rfl, by simp [missing], nofun⟩
    · rename_i isQt
      have isQt : tool = .guiRuntime := by simpa using isQt
      refine SessionRun.ensures_bind (Platform.ensures_hasInstaller ?_)
      split
      · exact SessionRun.ensures_pure ⟨rfl, rfl, by simp [missing], nofun⟩
      · exact SessionRun.ensures_pure ⟨rfl, rfl, by simp [missing], fun _ => isQt⟩

theorem ensures_step
    (platform : Platform)
    (settings : Settings)
    (tool : Tool) :
    (step platform settings tool).Ensures machine start fun exchanges step finish =>
      Planned tool step ∧ Inspected platform start.session exchanges finish.session := by
  refine SessionRun.ensures_bind ((platform.ensures_probe settings tool).mono ?_)
  rintro exchanges status middle ⟨sameTool, inspected⟩
  refine SessionRun.ensures_bind ((ensures_decide platform status tool).mono ?_)
  rintro _ action _ ⟨rfl, rfl, skips, isolated⟩
  refine SessionRun.ensures_pure ⟨⟨rfl, sameTool, skips, isolated⟩, ?_⟩
  simpa using inspected

/-- A plan is built by looking at the tools. -/
theorem ensures_build
    (platform : Platform)
    (settings : Settings) :
    (build platform settings).Ensures machine start fun exchanges plan finish =>
      List.Forall₂ Planned Tool.all plan ∧
        Inspected platform start.session exchanges finish.session := by
  rw [build]
  refine
    SessionRun.ensures_mapM
      (fun begun exchanges finish => Inspected platform begun.session exchanges finish.session)
      (fun moment => .refl platform moment.session) .trans ?_
  intro tool begun
  exact ensures_step platform settings tool

end InstallPlan

namespace Planned

variable {tools : List Tool} {plan front back : List PlanStep} {step : PlanStep}

theorem tools_eq
    (planned : List.Forall₂ Planned tools plan) :
    plan.map PlanStep.tool = tools := by
  induction planned with
  | nil => rfl
  | cons first rest inductionHypothesis =>
      rw [List.map_cons, first.tool_eq, inductionHypothesis]

theorem of_mem
    (planned : List.Forall₂ Planned tools plan)
    (member : step ∈ plan) :
    Planned step.tool step := by
  induction planned with
  | nil => cases member
  | cons first rest inductionHypothesis =>
      rcases List.mem_cons.mp member with rfl | inRest
      · exact first.tool_eq.symm ▸ first
      · exact inductionHypothesis inRest

theorem ne_guiRuntime
    (ordinary : List.Forall₂ Planned Tool.ordinary plan)
    (member : step ∈ plan) :
    step.tool ≠ .guiRuntime := by
  apply Tool.ne_guiRuntime_of_mem_ordinary
  rw [← tools_eq ordinary]
  exact List.mem_map_of_mem member

/-- No step comes after that of Qt. -/
theorem back_eq_nil
    (planned : List.Forall₂ Planned Tool.all (front ++ step :: back))
    (isQt : step.tool = .guiRuntime) :
    back = [] := by
  have tools := tools_eq planned
  rw [List.map_append, List.map_cons, isQt] at tools
  rcases front with _ | ⟨_, _ | ⟨_, _ | ⟨_, _ | ⟨_, front⟩⟩⟩⟩ <;> simp_all [Tool.all]

end Planned

/-- The last step of a plan is that of Qt. -/
theorem Planned.exists_split
    {plan : List PlanStep}
    (planned : List.Forall₂ Planned Tool.all plan) :
    ∃ front qt,
      plan = front ++ [qt] ∧ List.Forall₂ Planned Tool.ordinary front ∧
        Planned .guiRuntime qt := by
  cases planned with
  | cons compiler rest =>
      cases rest with
      | cons generator rest =>
          cases rest with
          | cons runner rest =>
              cases rest with
              | cons qt rest =>
                  cases rest
                  exact
                    ⟨[_, _, _], _, rfl, .cons compiler (.cons generator (.cons runner .nil)),
                      qt⟩

end Provision
