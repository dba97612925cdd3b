import Provision.Proofs.Provisioning.Probes
import Provision.Proofs.Toolchain.Reactivation

namespace Provision

/-!
# Probing the compiler again

A run probes the compiler up to three times. The dump of a second activation
puts the search path back to that of the script, if it tells of one, and the
search for the compiler takes the same directory in again. So a second probe
leaves the environment as the first one left it, unless the search path drifts;
and what cannot be activated never changes it.
-/

/-- A machine whose commands answer by the disk alone, and leave the disk as it is. -/
structure Machine.Steady (machine : Machine) : Prop where
  outcome
      {world other : World}
      (sameDisk : world.disk = other.disk)
      (invocation : Invocation) :
    (machine.runner world invocation).outcome = (machine.runner other invocation).outcome
  disk
      (world : World)
      (invocation : Invocation) :
    (machine.runner world invocation).disk = world.disk

variable {machine : Machine} {env : Environment}

namespace Platform

variable {settings : Settings} {world other : World}

/-- The activation of the toolchain that a machine has, for the compiler of Windows. -/
def activated?
    (settings : Settings)
    (machine : Machine)
    (world : World)
    (env : Environment) :
    Option Toolchain.Activation :=
  (Toolchain.located? settings.toolchain world.disk machine.directory).bind
    fun installation =>
      Toolchain.activationAfter machine installation.root (windows.executable .compiler)
        env (machine.runner world installation.activation)

/-- The compiler that a probe finds on Windows, and the environment that it leaves. -/
def probedCompiler
    (settings : Settings)
    (machine : Machine)
    (world : World)
    (env : Environment) :
    Option Path × Environment :=
  match env.located machine world.disk (windows.executable .compiler) with
  | some path => (some path, env)
  | none =>
      match activated? settings machine world env with
      | none => (none, env)
      | some activation => (activation.compiler, env.merge activation.delta)

theorem probedCompiler_of_located
    (settings : Settings)
    {path : Path}
    (found :
      env.located machine world.disk (windows.executable .compiler) = some path) :
    probedCompiler settings machine world env = (some path, env) := by
  rw [probedCompiler, found]

theorem probedCompiler_of_not_activated
    (notFound : env.located machine world.disk (windows.executable .compiler) = none)
    (fails : activated? settings machine world env = none) :
    probedCompiler settings machine world env = (none, env) := by
  rw [probedCompiler, notFound, fails]

theorem probedCompiler_of_activated
    {activation : Toolchain.Activation}
    (notFound : env.located machine world.disk (windows.executable .compiler) = none)
    (activates : activated? settings machine world env = some activation) :
    probedCompiler settings machine world env =
      (activation.compiler, env.merge activation.delta) := by
  rw [probedCompiler, notFound, activates]

theorem activated?_congr
    (steady : machine.Steady)
    (sameDisk : world.disk = other.disk)
    (env : Environment) :
    activated? settings machine world env = activated? settings machine other env := by
  rw [activated?, sameDisk, activated?]
  refine congrArg _ (funext fun installation => ?_)
  apply Toolchain.activationAfter_congr (steady.outcome sameDisk _)
  rw [steady.disk, steady.disk, sameDisk]

/-- What a probe finds follows from the disk. -/
theorem probedCompiler_congr
    (steady : machine.Steady)
    (sameDisk : world.disk = other.disk)
    (env : Environment) :
    probedCompiler settings machine world env =
      probedCompiler settings machine other env := by
  rw [probedCompiler, activated?_congr steady sameDisk, sameDisk, probedCompiler]

/--
Probing the compiler activates the toolchain, and its search puts a directory on
the search path that is read back from there as another one: by that entry the
compiler is not found, and the dump does not put the search path back.
-/
def ProbeDrifts (settings : Settings) (machine : Machine) (world : World)
    (env : Environment) : Prop :=
  env.located machine world.disk (windows.executable .compiler) = none ∧
    ∃ installation output,
      Toolchain.located? settings.toolchain world.disk machine.directory =
          some installation ∧
        (machine.runner world installation.activation).outcome = .ok output ∧
        output.succeeded = true ∧
        Toolchain.Drifts machine world.disk installation.root (windows.executable .compiler)
          (Toolchain.readDump env output.stdout) output.stdout

section Activated

variable {installation : Toolchain.Installation} {output : CommandOutput}
  (isLocated :
    Toolchain.located? settings.toolchain world.disk machine.directory = some installation)
  (outcome : (machine.runner world installation.activation).outcome = .ok output)
  (endsWell : output.succeeded = true)

include isLocated outcome endsWell

theorem exists_activated
    (env : Environment) :
    ∃ activation, activated? settings machine world env = some activation := by
  rw [activated?, isLocated, Option.bind_some, Toolchain.activationAfter_of_ok outcome,
    if_pos endsWell]
  exact ⟨_, rfl⟩

/-- Where the activation ends well, a probe drifts if the search after it does. -/
theorem probeDrifts_iff
    (notFound : env.located machine world.disk (windows.executable .compiler) = none) :
    ProbeDrifts settings machine world env ↔
      Toolchain.Drifts machine world.disk installation.root (windows.executable .compiler)
        (Toolchain.readDump env output.stdout) output.stdout := by
  constructor
  · rintro ⟨-, other, otherOutput, otherLocated, otherOutcome, -, drifts⟩
    cases isLocated.symm.trans otherLocated
    cases outcome.symm.trans otherOutcome
    exact drifts
  · intro drifts
    exact ⟨notFound, installation, output, isLocated, outcome, endsWell, drifts⟩

/-- Where the activation ends well, a probe comes to what the search for the compiler does. -/
theorem probedCompiler_of_endsWell
    (steady : machine.Steady)
    (notFound : env.located machine world.disk (windows.executable .compiler) = none) :
    probedCompiler settings machine world env =
      Toolchain.compilerIn machine world.disk installation.root
        (windows.executable .compiler) (Toolchain.readDump env output.stdout) := by
  obtain ⟨activation, activates⟩ := exists_activated isLocated outcome endsWell env
  obtain ⟨_, sameLocated, succeeds⟩ := Option.bind_eq_some_iff.mp activates
  cases isLocated.symm.trans sameLocated
  obtain ⟨_, sameOutcome, -, compiler, merged⟩ :=
    Toolchain.activationAfter_eq_some succeeds
  cases outcome.symm.trans sameOutcome
  rw [steady.disk] at compiler merged
  rw [probedCompiler_of_activated notFound activates, compiler, merged]

/--
Where the toolchain was activated and the compiler searched for, a probe finds the
compiler if the search did, and leaves the environment as it is unless it drifts.
-/
theorem probedCompiler_of_knows
    (steady : machine.Steady)
    (distinct : env.base.CaseDistinct)
    (dumpDistinct : (Snapshot.parse output.stdout.toList).CaseDistinct)
    (knows : Toolchain.Knows env output.stdout) :
    let searched :=
      Toolchain.compilerIn machine world.disk installation.root
        (windows.executable .compiler) env
    ((probedCompiler settings machine world searched.2).2 = searched.2 ↔
        ¬ Toolchain.Drifts machine world.disk installation.root
          (windows.executable .compiler) env output.stdout) ∧
      (probedCompiler settings machine world searched.2).1.isSome =
        searched.1.isSome := by
  intro searched
  cases found : searched.2.located machine world.disk (windows.executable .compiler) with
  | some path =>
      rw [probedCompiler_of_located settings found]
      refine ⟨iff_of_true rfl fun drifts => ?_, (Toolchain.isSome_compilerIn found).symm⟩
      rw [drifts.stillNotFound] at found
      cases found
  | none =>
      rw [probedCompiler_of_endsWell isLocated outcome endsWell steady found]
      by_cases drifts :
          Toolchain.Drifts machine world.disk installation.root
            (windows.executable .compiler) env output.stdout
      · obtain ⟨drifted, searchedAgain, different⟩ :=
          drifts.compilerIn_readDump distinct dumpDistinct knows rfl
        rw [searchedAgain]
        exact ⟨iff_of_false different (not_not_intro drifts), rfl⟩
      · rw [Toolchain.compilerIn_readDump_of_not_drifts distinct dumpDistinct knows found
          drifts]
        exact ⟨iff_of_true rfl drifts, rfl⟩

end Activated

/--
A probe finds the compiler if the probe before did, and leaves the environment
as that one left it unless it drifts.
-/
theorem probedCompiler_again
    (steady : machine.Steady)
    (distinct : env.base.CaseDistinct)
    (dumpDistinct :
      ∀ installation output,
        Toolchain.located? settings.toolchain world.disk machine.directory =
            some installation →
          (machine.runner world installation.activation).outcome = .ok output →
            output.succeeded = true →
              (Snapshot.parse output.stdout.toList).CaseDistinct) :
    let once := probedCompiler settings machine world env
    ((probedCompiler settings machine world once.2).2 = once.2 ↔
        ¬ ProbeDrifts settings machine world env) ∧
      (probedCompiler settings machine world once.2).1.isSome = once.1.isSome := by
  cases found : env.located machine world.disk (windows.executable .compiler) with
  | some path =>
      have again := probedCompiler_of_located settings found
      rw [again]
      refine ⟨iff_of_true (congrArg Prod.snd again) fun drifts => ?_,
        congrArg (Option.isSome ∘ Prod.fst) again⟩
      rw [drifts.1] at found
      cases found
  | none =>
      cases activates : activated? settings machine world env with
      | none =>
          have again := probedCompiler_of_not_activated found activates
          rw [again]
          refine ⟨iff_of_true (congrArg Prod.snd again) fun drifts => ?_,
            congrArg (Option.isSome ∘ Prod.fst) again⟩
          obtain ⟨-, installation, output, isLocated, outcome, endsWell, -⟩ := drifts
          obtain ⟨_, isActivated⟩ := exists_activated isLocated outcome endsWell env
          cases activates.symm.trans isActivated
      | some activation =>
          obtain ⟨installation, isLocated, succeeds⟩ := Option.bind_eq_some_iff.mp activates
          obtain ⟨output, outcome, endsWell, -, -⟩ :=
            Toolchain.activationAfter_eq_some succeeds
          have outputDistinct := dumpDistinct installation output isLocated outcome endsWell
          rw [probedCompiler_of_endsWell isLocated outcome endsWell steady found,
            probeDrifts_iff isLocated outcome endsWell found]
          exact
            probedCompiler_of_knows isLocated outcome endsWell steady distinct
              outputDistinct (Toolchain.knows_readDump distinct outputDistinct)

end Platform

variable {settings : Settings} {start finish : Moment} {exchanges : List Exchange}
  {status : ToolStatus}

open Platform

/-- On a steady machine, what a probe comes to follows from the disk. -/
theorem CompilerProbed.outcome
    (probed : CompilerProbed settings machine start exchanges status finish)
    (steady : machine.Steady) :
    status.present =
        (probedCompiler settings machine start.world start.session.env).1.isSome ∧
      finish.session.env =
        (probedCompiler settings machine start.world start.session.env).2 ∧
      finish.world.disk = start.world.disk := by
  cases probed with
  | present found =>
      rw [probedCompiler_of_located settings found]
      exact ⟨rfl, rfl, rfl⟩
  | missing notFound notLocated session disk =>
      have fails : activated? settings machine start.world start.session.env = none := by
        rw [activated?, notLocated, Option.bind_none]
      rw [probedCompiler_of_not_activated notFound fails, session]
      exact ⟨rfl, rfl, disk⟩
  | refused notFound isLocated askedDisk fails session disk =>
      have fails : activated? settings machine start.world start.session.env = none := by
        rw [activated?_congr steady askedDisk.symm, activated?, askedDisk, isLocated,
          Option.bind_some, fails]
      rw [probedCompiler_of_not_activated notFound fails, session]
      exact ⟨rfl, rfl, disk.trans ((steady.disk _ _).trans askedDisk)⟩
  | activated notFound isLocated askedDisk succeeds session disk =>
      rename_i activation
      have activates :
          activated? settings machine start.world start.session.env = some activation := by
        rw [activated?_congr steady askedDisk.symm, activated?, askedDisk, isLocated,
          Option.bind_some, succeeds]
      rw [probedCompiler_of_activated notFound activates, session]
      exact
        ⟨ToolStatus.ofSearch_present _ _, rfl,
          disk.trans ((steady.disk _ _).trans askedDisk)⟩

/-- A probe leaves the session as it is, or activates the toolchain that was located. -/
theorem CompilerProbed.session_eq_or_activated
    (probed : CompilerProbed settings machine start exchanges status finish) :
    finish.session = start.session ∨
      ∃ installation reply,
        Toolchain.located? settings.toolchain start.world.disk machine.directory =
            some installation ∧
          (installation.activation, reply) ∈ exchanges ∧
          reply.endedWell = true := by
  cases probed with
  | present found => exact .inl rfl
  | missing notFound notLocated session disk => exact .inl session
  | refused notFound isLocated askedDisk fails session disk => exact .inl session
  | activated notFound isLocated askedDisk succeeds session disk =>
      exact
        .inr ⟨_, _, isLocated, List.mem_singleton_self _,
          Toolchain.endedWell_of_activationAfter succeeds⟩

/-- Where no toolchain is found, a probe leaves the session as it is. -/
theorem CompilerProbed.session_of_not_located
    (probed : CompilerProbed settings machine start exchanges status finish)
    (notLocated :
      Toolchain.located? settings.toolchain start.world.disk machine.directory = none) :
    finish.session = start.session := by
  rcases probed.session_eq_or_activated with same | ⟨installation, -, isLocated, -, -⟩
  · exact same
  · rw [notLocated] at isLocated
    cases isLocated

/-- Where no command ends well, a probe leaves the session as it is. -/
theorem CompilerProbed.session_of_failed
    (probed : CompilerProbed settings machine start exchanges status finish)
    (failed : ∀ exchange ∈ exchanges, exchange.2.endedWell = false) :
    finish.session = start.session := by
  rcases probed.session_eq_or_activated with same | ⟨installation, reply, -, asked, endedWell⟩
  · exact same
  · rw [failed _ asked] at endedWell
    cases endedWell

/-- The one command of a probe activates the toolchain that was located. -/
theorem CompilerProbed.activations
    (probed : CompilerProbed settings machine start exchanges status finish) :
    ∀ exchange ∈ exchanges,
      ∃ installation,
        Toolchain.located? settings.toolchain start.world.disk machine.directory =
            some installation ∧
          exchange.1 = installation.activation := by
  cases probed with
  | present found => exact List.forall_mem_nil _
  | missing notFound notLocated session disk => exact List.forall_mem_nil _
  | refused notFound isLocated askedDisk fails session disk =>
      exact List.forall_mem_singleton.mpr ⟨_, isLocated, rfl⟩
  | activated notFound isLocated askedDisk succeeds session disk =>
      exact List.forall_mem_singleton.mpr ⟨_, isLocated, rfl⟩

/-- Settings by which the toolchain is searched for below one directory. -/
def vendorSettings : Settings where
  toolchain := { roots := [.ofText "/vs"] }

/-- A disk with an edition of the toolchain whose compiler cannot be run. -/
def vendorDisk : Disk where
  nodes := [
    (["vs"], .directory),
    (["vs", "2022"], .directory),
    (["vs", "2022", "Community"], .directory),
    (["vs", "2022", "Community", "VC"], .directory),
    (["vs", "2022", "Community", "VC", "vcvarsall.bat"], .file [] 0o644),
    (["vs", "2022", "Community", "VC", "bin"], .directory),
    (["vs", "2022", "Community", "VC", "bin", "cl"], .file [] 0o644)
  ]

/-- A start on the disk with the toolchain. -/
def vendorStart : Moment where
  session := { env := .ofSnapshot (.ofList [("Path", "/bin")]) }
  world := { disk := vendorDisk, environment := .empty }

/-- A machine on which every command has one outcome and leaves the disk as it is. -/
def answering (outcome : Except SystemError CommandOutput) : Machine where
  runner world _ := { outcome := outcome, disk := world.disk }

/-- What the activation script prints. -/
def vendorOutput : CommandOutput :=
  .ofProcess (some 0) "INCLUDE=/vc/include\r\nPATH=/bin\r\n" ""

/-- What a script prints that tells nothing of the search path. -/
def silentOutput : CommandOutput :=
  .ofProcess (some 0) "INCLUDE=/vc/include\r\n" ""

/-- A disk where the compiler lies in a directory whose name is no text. -/
def accentedVendorDisk : Disk where
  nodes := [
    (["vs"], .directory),
    (["vs", "2022"], .directory),
    (["vs", "2022", "Community"], .directory),
    (["vs", "2022", "Community", "VC"], .directory),
    (["vs", "2022", "Community", "VC", "vcvarsall.bat"], .file [] 0o644),
    (["vs", "2022", "Community", "VC", ⟨[0x62, 0xE9, 0x6E]⟩], .directory),
    (["vs", "2022", "Community", "VC", ⟨[0x62, 0xE9, 0x6E]⟩, "cl"], .file [] 0o755)
  ]

end Provision
