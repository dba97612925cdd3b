import Provision.Proofs.Environment.SearchLists
import Provision.Proofs.Provisioning.Discipline

namespace Provision

/-!
# What is installed is what is registered

Qt is resolved from its index exactly if an installer of the index succeeded.
The last of these installed what was resolved, at the place whose programs are
then put on the search path, told to future shells and reported. The search path
lists them under their own name only if that is a text.
-/

/-- Whether a command installs Qt from its index. -/
def Invocation.installsQt (invocation : Invocation) : Bool :=
  invocation.arguments.head? == some "install-qt"

section Successes

variable {platform : Platform} {settings : Settings} {machine : Machine}
  {start finish : Moment} {exchanges : List Exchange}

theorem Inspection.installsQt
    {invocation : Invocation}
    (inspection : Inspection invocation) :
    invocation.installsQt = false := by
  cases inspection <;> rfl

theorem Inspected.installedQt
    {before after : Session}
    (inspected : Inspected platform before exchanges after) :
    succeeded Invocation.installsQt exchanges = false :=
  succeeded_eq_false fun exchange member =>
    (inspected.inspections exchange member).installsQt

theorem PackagesInstalled.installedQt
    {named : String}
    {packages : List String}
    {before after : Session}
    {outcome : Except Failure Unit}
    (installed : PackagesInstalled named packages before exchanges outcome after) :
    succeeded Invocation.installsQt exchanges = false :=
  succeeded_eq_false fun exchange member => by
    rcases installed.command_cases exchange member with isUpdate | isInstall
    · rw [isUpdate]
      rfl
    · rw [isInstall]
      rfl

theorem Prepared.installedQt
    {outcome : Except Failure Unit}
    (prepared : Prepared machine platform start exchanges outcome finish) :
    succeeded Invocation.installsQt exchanges = false := by
  cases prepared with
  | notNeeded => rfl
  | unavailable missing => rfl
  | packages found installed => exact installed.installedQt

/-- An index installs Qt exactly if it comes to a result. -/
theorem FromIndex.installedQt
    {settings : QtSettings}
    {home : Option Path}
    {index : Qt.Index}
    {outcome : Except Failure Qt.Resolution}
    {after : World}
    (installed : FromIndex settings home index exchanges outcome after) :
    succeeded Invocation.installsQt exchanges = outcome.toBool := by
  have questions
      (resolution : Qt.Resolution)
      (versions architectures modules : Reply) :
      succeeded Invocation.installsQt
          (index.questions resolution versions architectures modules) =
        false :=
    rfl
  have install
      (resolution : Qt.Resolution)
      (dir : Path)
      (reply : Reply) :
      succeeded Invocation.installsQt [(index.install resolution dir, reply)] =
        reply.endedWell := by
    simp [Invocation.installsQt, Qt.Index.install, Invocation.onTerminal]
  cases installed with
  | unresolved unreadable => rfl
  | homeless noPlace => rfl
  | failed place fails => rw [succeeded_append, questions, install, fails]; rfl
  | installed place succeeds disk => rw [succeeded_append, questions, install, succeeds]; rfl

theorem ThroughIndex.installedQt
    {settings : QtSettings}
    {home : Option Path}
    {commands : List Invocation}
    {index : Qt.Index}
    {outcome : Except Failure Qt.Resolution}
    {after : World}
    (through : ThroughIndex settings home commands index exchanges outcome after)
    (others : ∀ invocation ∈ commands, invocation.installsQt = false) :
    succeeded Invocation.installsQt exchanges = outcome.toBool := by
  have ranOthers
      {outcome : Except Failure Unit}
      {ran : List Exchange}
      (installers : InstallersRun Tool.guiRuntime.shown commands ran outcome) :
      succeeded Invocation.installsQt ran = false :=
    succeeded_eq_false fun exchange member =>
      others exchange.1 (installers.mem_commands exchange member)
  cases through with
  | noIndex installers => exact ranOthers installers
  | fromIndex installers installed =>
      rw [succeeded_append, ranOthers installers, Bool.false_or, installed.installedQt]

theorem Isolated.installedQt
    {outcome : Except Failure Qt.Resolution}
    (isolated : Isolated platform settings machine start exchanges outcome finish) :
    succeeded Invocation.installsQt exchanges = outcome.toBool := by
  cases isolated with
  | unprepared prepared => exact prepared.installedQt
  | homeless prepared noPlace => exact prepared.installedQt
  | through prepared place through =>
      rename_i outcome _ _ _
      rw [succeeded_append, prepared.installedQt, Bool.false_or,
        through.installedQt (by simp [Invocation.installsQt, Provisioning.createInstaller,
          Provisioning.equipInstaller, Invocation.onTerminal])]
      cases outcome <;> rfl

theorem PlatformInstalled.installedQt
    {tool : Tool}
    {outcome : Except Failure (Option Qt.Resolution)}
    (installed :
      PlatformInstalled settings machine platform tool start exchanges outcome finish) :
    succeeded Invocation.installsQt exchanges = outcome.toOption.join.isSome := by
  cases installed with
  | packages ordinary installed =>
      rename_i outcome
      rw [installed.installedQt]
      cases outcome <;> rfl
  | noQtPackages installed => exact installed.installedQt
  | qtPackages installed inspected =>
      rw [succeeded_append, installed.installedQt, inspected.installedQt]
      rfl
  | guided inspected => exact inspected.installedQt
  | unanswered asks => rfl
  | @interpreter _ _ _ outcome _ ordinary notGuided installers =>
      have others :
          succeeded Invocation.installsQt exchanges = false :=
        succeeded_eq_false fun exchange member => by
          rw [List.mem_singleton.mp (installers.mem_commands exchange member)]
          rfl
      rw [others]
      cases outcome <;> rfl
  | @index _ _ outcome _ through =>
      rw [through.installedQt (List.forall_mem_singleton.mpr rfl)]
      cases outcome <;> rfl

/-- An installer of the index succeeded exactly if something was resolved. -/
theorem ToolInstalled.installedQt
    {step : PlanStep}
    {outcome : Except Failure (Option Qt.Resolution)}
    (installed : ToolInstalled platform settings machine step start exchanges outcome finish) :
    succeeded Invocation.installsQt exchanges = outcome.toOption.join.isSome := by
  cases installed with
  | byPlatform notIsolated final runs installed => exact installed.installedQt
  | @again _ _ _ _ outcome _ isQt notIsolated fails installed runs isolated =>
      rw [succeeded_append, installed.installedQt, isolated.installedQt]
      cases outcome <;> rfl
  | @isolated _ outcome _ isIsolated isolated =>
      rw [isolated.installedQt]
      cases outcome <;> rfl

theorem Lasting.installedQt
    {env : Environment}
    {dir : Path}
    {disk after : Disk}
    (lasting : Lasting settings machine env dir disk platform exchanges after) :
    ∀ exchange ∈ exchanges, exchange.1.installsQt = false := by
  cases lasting with
  | stored elevation stored =>
      simp [Invocation.installsQt, Platform.elevationQuestion, Persistence.storeCommand]
  | kept => exact List.forall_mem_nil _
  | appended chosen read absent appended => exact List.forall_mem_nil _

theorem Carried.installedQt
    {step : PlanStep}
    {result : ToolStatus × Option Qt.Resolution}
    (carried : Carried platform settings machine step start exchanges (.ok result) finish) :
    succeeded Invocation.installsQt exchanges = result.2.isSome := by
  cases carried with
  | skipped skips kept => rfl
  | probed begun installed sameTool inspected =>
      rw [succeeded_append, installed.installedQt, inspected.installedQt]
      rfl
  | registered begun installed place registered =>
      rw [succeeded_append, installed.installedQt,
        succeeded_eq_false registered.lasting.installedQt]
      rfl

end Successes

section Commands

variable {platform : Platform} {settings : Settings} {machine : Machine}
  {home : Option Path} {tool : Tool} {exchanges : List Exchange}

theorem Asks.installsQt
    {invocation : Invocation}
    (asks : Asks invocation) :
    invocation.installsQt = false := by
  cases asks with
  | inspection inspection => exact inspection.installsQt
  | listing index selection => rfl

/-- No ordinary tool makes an index install Qt. -/
theorem Serves.installsQt
    (serves : Serves platform settings home tool exchanges)
    (ordinary : tool ≠ .guiRuntime) :
    ∀ exchange ∈ exchanges, exchange.1.installsQt = false := by
  rintro ⟨invocation, reply⟩ member
  rcases serves _ member with asks | isInstaller
  · exact asks.installsQt
  · cases isInstaller with
    | updateLists => rfl
    | packages => rfl
    | interpreter => rfl
    | indexProgram => exact (ordinary rfl).elim
    | environments => exact (ordinary rfl).elim
    | createInstaller => exact (ordinary rfl).elim
    | equipInstaller => exact (ordinary rfl).elim
    | fromIndex => exact (ordinary rfl).elim

/-- Whether a command stores a search path for future shells. -/
def Invocation.storesPath (invocation : Invocation) : Bool :=
  invocation.arguments.head? == some "PATH"

/-- To install a tool stores no search path. -/
theorem Serves.storesPath
    (serves : Serves platform settings home tool exchanges) :
    ∀ exchange ∈ exchanges, exchange.1.storesPath = false := by
  rintro ⟨invocation, reply⟩ member
  rcases serves _ member with asks | isInstaller
  · cases asks with
    | inspection inspection => cases inspection <;> rfl
    | listing => rfl
  · cases isInstaller <;> rfl

end Commands

/-- The directory of the Qt programs has a name. -/
theorem Qt.binDir_nonempty
    (dir : Path)
    (resolution : Resolution) :
    (binDir dir resolution).isEmpty = false :=
  Path.isEmpty_child _ (by decide)

/-- The command that stores the search path of an environment. -/
def StoresPathOf (env : Environment) (invocation : Invocation) : Prop :=
  ∃ system,
    invocation =
      Persistence.storeCommand ((env.var? Variable.path.name).getD "") system

theorem Lasting.storesPath
    {platform : Platform}
    {settings : Settings}
    {machine : Machine}
    {env : Environment}
    {dir : Path}
    {disk after : Disk}
    {exchanges : List Exchange}
    (lasting : Lasting settings machine env dir disk platform exchanges after) :
    ∀ exchange ∈ exchanges,
      exchange.1.storesPath = true → StoresPathOf env exchange.1 := by
  cases lasting with
  | stored elevation stored =>
      refine List.forall_mem_cons.mpr ⟨nofun, ?_⟩
      exact List.forall_mem_singleton.mpr fun _ => ⟨elevation.endedWell, rfl⟩
  | kept => exact List.forall_mem_nil _
  | appended chosen read absent appended => exact List.forall_mem_nil _

/-- A step that succeeds stores no search path but that of the session it leaves. -/
theorem Carried.storesPath
    {platform : Platform}
    {settings : Settings}
    {machine : Machine}
    {step : PlanStep}
    {start finish : Moment}
    {exchanges : List Exchange}
    {result : ToolStatus × Option Qt.Resolution}
    (carried : Carried platform settings machine step start exchanges (.ok result) finish)
    (onlyQt : step.action = .installIsolated → step.tool = .guiRuntime) :
    ∀ exchange ∈ exchanges,
      exchange.1.storesPath = true → StoresPathOf finish.session.env exchange.1 := by
  have storesNothing
      {tool : Tool}
      {ran : List Exchange}
      (serves : Serves platform settings machine.home tool ran) :
      ∀ exchange ∈ ran,
        exchange.1.storesPath = true → StoresPathOf finish.session.env exchange.1 := by
    intro exchange member stores
    rw [serves.storesPath exchange member] at stores
    cases stores
  cases carried with
  | skipped skips kept => exact List.forall_mem_nil _
  | probed begun installed sameTool inspected =>
      exact
        storesNothing
          ((installed.serves onlyQt).append (inspected.serves settings machine.home step.tool))
  | registered begun installed place registered =>
      exact
        List.forall_mem_append.mpr
          ⟨storesNothing (installed.serves onlyQt), registered.lasting.storesPath⟩

/-- What a run leaves that installed Qt from its index, in a directory. -/
structure QtRegistered
    (platform : Platform)
    (settings : Settings)
    (machine : Machine)
    (result : Provisioned)
    (resolution : Qt.Resolution)
    (dir : Path)
    (installed : Disk)
    (later : List Exchange)
    (after : Disk) :
    Prop where
  place : settings.qt.installPlace? machine.home = some dir
  status :
    result.statuses.getLast? =
      some
        { ToolStatus.found .guiRuntime (Qt.binDir dir resolution) with
          detail := some resolution.version.shown }
  /-- The programs are listed, unless that is impossible, exactly if their path is a text. -/
  listed :
    SearchList.cannotHold (Qt.binDir dir resolution) = false →
      (SearchList.lists result.environment.pathEntries (Qt.binDir dir resolution) = true ↔
        (Qt.binDir dir resolution).IsText)
  /-- Future shells are told of the same directory, and nothing else is run. -/
  lasting :
    Lasting settings machine result.environment (Qt.binDir dir resolution) installed
      platform later after
  noOther : ∀ exchange ∈ later, exchange.1.installsQt = false

theorem Carried.registered_of_resolved
    {platform : Platform}
    {settings : Settings}
    {machine : Machine}
    {step : PlanStep}
    {start finish : Moment}
    {exchanges : List Exchange}
    {status : ToolStatus}
    {resolution : Qt.Resolution}
    (carried :
      Carried platform settings machine step start exchanges
        (.ok (status, some resolution)) finish)
    (isQt : step.tool = .guiRuntime)
    (done : List (ToolStatus × Option Qt.Resolution)) :
    ∃ (front : List Exchange) (index : Qt.Index) (versions architectures modules : Reply)
      (dir : Path) (install : Reply) (later : List Exchange),
      exchanges =
          front ++
            (index.questions resolution versions architectures modules ++
              (index.install resolution dir, install) :: later) ∧
        install.endedWell = true ∧
        QtRegistered platform settings machine
          (Provisioned.ofResults finish.session.env (done ++ [(status, some resolution)]))
          resolution dir install.disk later finish.world.disk := by
  cases carried with
  | registered begun installed place registered =>
      obtain ⟨front, index, asked, rfl, fromIndex⟩ := installed.endsWithQt
      cases fromIndex with
      | @installed _ versions architectures modules reply _ _ samePlace succeeds disk =>
          cases place.symm.trans samePlace
          refine
            ⟨front, index, versions, architectures, modules, _, reply, _, ?_, succeeds,
              place, ?_, ?_, ?_, registered.lasting.installedQt⟩
          · simp only [List.append_assoc, List.singleton_append]
          · simp [Provisioned.ofResults, isQt]
          · intro unsplit
            change SearchList.lists finish.session.env.pathEntries _ = true ↔ _
            rw [registered.env]
            exact
              Environment.lists_addPath_iff _ .back ⟨Qt.binDir_nonempty _ _, unsplit⟩
          · rw [← disk]
            exact registered.lasting

/-- A machine on which every command ends well and prints nothing. -/
def willingMachine (home : Path) : Machine where
  runner world _ := { outcome := .ok (.ofProcess (some 0) "" ""), disk := world.disk }
  home := some home

/-- The start of a run on a disk without files. -/
def bareStart : Moment where
  session := { env := .ofSnapshot .empty }
  world := { disk := .empty, environment := .empty }

/-- What is resolved where the index tells nothing. -/
def defaultResolution : Qt.Resolution where
  version := ⟨6, 5, 3⟩
  architecture := "gcc_64"
  modules := ["qt5compat", "qtbase"]
  fallbacks := [.version, .architecture, .modules]

/-- A home directory whose name is no text. -/
def accentedHome : Path where
  bytes := Utf8.encode "/home/d".toList ++ [0xE9] ++ Utf8.encode "v".toList

end Provision
