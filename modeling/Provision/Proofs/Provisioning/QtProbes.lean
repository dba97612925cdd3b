import Provision.Proofs.Paths
import Provision.Proofs.Toolchain.Outcomes
import Provision.Provisioning.Strategy

namespace Provision

/-!
# Probing Qt

The programs that know the version of Qt are asked in turn, and the first one
that tells a version of the release line decides what is reported. The path in
the report is looked up apart from that, by the same names in the same order. So
it belongs to the program that told the version unless that is the second one
and the first one is on the search path, too.
-/

namespace SearchPath

/-- A path below another one ends as it is written. -/
theorem suffix_join
    (base part : Path) :
    part.chars <:+ (base.join part).chars := by
  rw [Path.chars_join]
  split
  · exact List.suffix_rfl
  · split
    · exact List.suffix_append _ _
    · exact (List.suffix_cons _ _).trans (List.suffix_append _ _)

/-- The paths that are tried for a program end in its name. -/
theorem suffix_of_mem_candidates
    {home : Option Path}
    {workingDirectory program path : Path}
    {value : Option String}
    (tried : path ∈ candidates home workingDirectory value program) :
    program.chars <:+ path.chars := by
  rw [candidates.eq_def] at tried
  split at tried
  · rw [List.mem_singleton] at tried
    subst tried
    split
    · exact List.suffix_rfl
    · exact suffix_join _ _
  · cases value with
    | none =>
        cases tried
    | some value =>
        obtain ⟨entry, -, rfl⟩ := List.mem_map.mp tried
        exact suffix_join _ _

end SearchPath

variable {machine : Machine} {world after : World}

/-- A program is found at a path that ends in the last character of its name. -/
theorem Environment.getLast?_of_located
    {env : Environment}
    {disk : Disk}
    {program : String}
    {path : Path}
    {c : Char}
    (ends : program.toList.getLast? = some c)
    (found : env.located machine disk program = some path) :
    path.chars.getLast? = some c := by
  obtain ⟨front, shape⟩ :=
    SearchPath.suffix_of_mem_candidates (List.mem_of_find?_eq_some found)
  rw [← shape, List.getLast?_append, Path.chars_ofText, ends, Option.some_or]

namespace Qt

/-- The command that asks a program for the version of Qt. -/
def versionQuery (program : String) : Invocation where
  program := program
  arguments := ["-v"]

/-- A command ended well and told a version of the release line. -/
def Tells (major : Nat) (reply : Reply) (version : Version) : Prop :=
  ∃ answer,
    reply.listing? = some answer ∧ reportedVersion? answer = some version ∧
      version.major = major

/--
Programs are asked in turn until one of them tells a version of the release line;
nobody is asked after that.
-/
inductive FirstToTell (machine : Machine) (major : Nat) :
    World → List String → String → Version → World → Prop where
  | tells
      {world : World}
      {program : String}
      {version : Version}
      (rest : List String)
      (told : Tells major (machine.runner world (versionQuery program)) version) :
      FirstToTell machine major world (program :: rest) program version
        (world.answered (versionQuery program)
          (machine.runner world (versionQuery program)))
  | passes
      {world after : World}
      {silent program : String}
      {rest : List String}
      {version : Version}
      (untold :
        ∀ other, ¬ Tells major (machine.runner world (versionQuery silent)) other)
      (later :
        FirstToTell machine major
          (world.answered (versionQuery silent)
            (machine.runner world (versionQuery silent)))
          rest program version after) :
      FirstToTell machine major world (silent :: rest) program version after

/-- The version of the release line that a reply tells. -/
def toldVersion? (major : Nat) (reply : Reply) : Option Version :=
  (reply.listing?.bind reportedVersion?).filter (·.major == major)

theorem toldVersion?_eq_some_iff
    {major : Nat}
    {reply : Reply}
    {version : Version} :
    toldVersion? major reply = some version ↔ Tells major reply version := by
  simp only [toldVersion?, Tells, Option.filter_eq_some_iff, Option.bind_eq_some_iff,
    beq_iff_eq]
  constructor
  · rintro ⟨⟨answer, listed, reported⟩, sameMajor⟩
    exact ⟨answer, listed, reported, sameMajor⟩
  · rintro ⟨answer, listed, reported, sameMajor⟩
    exact ⟨⟨answer, listed, reported⟩, sameMajor⟩

theorem exec_askVersion
    (major : Nat)
    (program : String) :
    (askVersion major program).exec machine world =
      (toldVersion? major (machine.runner world (versionQuery program)),
        world.answered (versionQuery program)
          (machine.runner world (versionQuery program))) := by
  simp only [askVersion, Run.exec_bind, Run.exec_command, toldVersion?, Reply.listing?,
    versionQuery]
  cases (machine.runner world ⟨program, ["-v"], .collected, false⟩).outcome with
  | error reason => rfl
  | ok output =>
      dsimp only
      split <;> rfl

/-- The version that is reported is that of the first program to tell one. -/
theorem exec_firstReported
    {major : Nat}
    {programs : List String}
    {version : Version} :
    (firstReported major programs).exec machine world = (some version, after) ↔
      ∃ program, FirstToTell machine major world programs program version after := by
  induction programs generalizing world with
  | nil =>
      constructor
      · intro reports
        cases reports
      · rintro ⟨program, first⟩
        cases first
  | cons program rest inductionHypothesis =>
      rw [firstReported, Run.exec_bind, exec_askVersion]
      cases told : toldVersion? major (machine.runner world (versionQuery program)) with
      | some found =>
          have tells := toldVersion?_eq_some_iff.mp told
          constructor
          · intro reports
            cases reports
            exact ⟨program, .tells rest tells⟩
          · rintro ⟨_, first⟩
            cases first with
            | tells _ toldThen =>
                have same := toldVersion?_eq_some_iff.mpr toldThen
                rw [told, Option.some.injEq] at same
                rw [same]
                rfl
            | passes untold later =>
                exact (untold found tells).elim
      | none =>
          refine inductionHypothesis.trans ⟨?_, ?_⟩
          · rintro ⟨teller, first⟩
            refine ⟨teller, .passes (fun other tells => ?_) first⟩
            rw [toldVersion?_eq_some_iff.mpr tells] at told
            cases told
          · rintro ⟨teller, first⟩
            cases first with
            | tells _ toldThen =>
                rw [toldVersion?_eq_some_iff.mpr toldThen] at told
                cases told
            | passes untold later =>
                exact ⟨teller, later⟩

/-- Who tells a version of the release line is one of those that were asked. -/
theorem FirstToTell.mem
    {major : Nat}
    {programs : List String}
    {program : String}
    {version : Version}
    (first : FirstToTell machine major world programs program version after) :
    program ∈ programs := by
  induction first with
  | tells rest told => exact List.mem_cons_self
  | passes untold later inductionHypothesis =>
      exact List.mem_cons_of_mem _ inductionHypothesis

end Qt

/-- Of two programs the one that is found first has the path that is found first. -/
theorem Environment.located_eq_iff_first
    {env : Environment}
    {disk : Disk}
    {program : String}
    {path : Path}
    (isName : program ∈ Qt.qmakeNames)
    (found :
      (env.located machine disk "qmake6").or (env.located machine disk "qmake") =
        some path) :
    env.located machine disk program = some path ↔
      Qt.qmakeNames.find? (fun name => (env.located machine disk name).isSome) =
        some program := by
  simp only [Qt.qmakeNames, List.mem_cons, List.not_mem_nil, or_false] at isName
  cases newer : env.located machine disk "qmake6" with
  | none =>
      rw [newer, Option.none_or] at found
      rcases isName with rfl | rfl
      · simp [Qt.qmakeNames, newer, found]
      · simp [Qt.qmakeNames, newer, found]
  | some place =>
      rw [newer, Option.some_or, Option.some.injEq] at found
      subst found
      rcases isName with rfl | rfl
      · simp [Qt.qmakeNames, newer]
      · have elsewhere : env.located machine disk "qmake" ≠ some place := by
          intro alsoFound
          have endsInDigit := getLast?_of_located (c := '6') (by decide) newer
          have endsInLetter := getLast?_of_located (c := 'e') (by decide) alsoFound
          rw [endsInDigit] at endsInLetter
          cases endsInLetter
        simp [Qt.qmakeNames, newer, elsewhere]

/-- What a probe of Qt reports when a version of the release line was told. -/
def ToolStatus.foundQt (version : Version) (path : Option Path) : ToolStatus where
  tool := .guiRuntime
  present := true
  path := path
  detail := some version.shown

theorem exec_probeQt
    (settings : Settings)
    (env : Environment) :
    (probeQt settings env).exec machine world =
      let asked := (Qt.installedVersion settings.qt.major).exec machine world
      (match asked.1 with
        | none => .absent .guiRuntime
        | some version =>
            .foundQt version
              ((env.located machine asked.2.disk "qmake6").or
                (env.located machine asked.2.disk "qmake")),
        asked.2) := by
  rw [probeQt, Run.exec_bind]
  rcases (Qt.installedVersion settings.qt.major).exec machine world with ⟨version, asked⟩
  cases version with
  | none => rfl
  | some version =>
      simp only [Run.exec_bind, Environment.exec_find?]
      cases env.located machine asked.disk "qmake6" <;> rfl

/-- A probe of Qt runs no further command once a version was told. -/
theorem Qt.FirstToTell.exec_probeQt
    {settings : Settings}
    {program : String}
    {version : Version}
    (first :
      FirstToTell machine settings.qt.major world qmakeNames program version after)
    (env : Environment) :
    (probeQt settings env).exec machine world =
      (.foundQt version
        ((env.located machine after.disk "qmake6").or
          (env.located machine after.disk "qmake")),
        after) := by
  have told :
      (installedVersion settings.qt.major).exec machine world = (some version, after) :=
    exec_firstReported.mpr ⟨program, first⟩
  rw [Provision.exec_probeQt, told]

/--
Qt is present exactly if one of the programs tells a version of the release line,
and then the first to do so decides the version. A path that is reported is the
place of that program exactly if no program before it is on the search path, but
it is itself.
-/
theorem reported_path_belongs_iff
    (settings : Settings)
    (env : Environment)
    (machine : Machine)
    (world : World) :
    let probed := (probeQt settings env).exec machine world
    let place (program : String) := ((env.find? program).exec machine probed.2).1
    (probed.1.present = true ↔
        ∃ program version,
          Qt.FirstToTell machine settings.qt.major world Qt.qmakeNames program version
            probed.2) ∧
      ∀ program version,
        Qt.FirstToTell machine settings.qt.major world Qt.qmakeNames program version
            probed.2 →
          probed.1.detail = some version.shown ∧
            (probed.1.path = none ↔ ∀ name ∈ Qt.qmakeNames, place name = none) ∧
            ∀ path,
              probed.1.path = some path →
                (place program = some path ↔
                  Qt.qmakeNames.find? (fun name => (place name).isSome) =
                    some program) := by
  simp only [exec_probeQt, Environment.exec_find?]
  have reports {version : Version} {after : World} :
      (Qt.installedVersion settings.qt.major).exec machine world = (some version, after) ↔
        ∃ program,
          Qt.FirstToTell machine settings.qt.major world Qt.qmakeNames program version
            after :=
    Qt.exec_firstReported
  rcases asks : (Qt.installedVersion settings.qt.major).exec machine world with
    ⟨reported, asked⟩
  rw [asks] at reports
  constructor
  · cases reported with
    | none =>
        constructor
        · intro impossible
          cases impossible
        · rintro ⟨program, version, first⟩
          cases reports.mpr ⟨program, first⟩
    | some version =>
        obtain ⟨program, first⟩ := reports.mp rfl
        exact ⟨fun _ => ⟨program, version, first⟩, fun _ => rfl⟩
  · intro program version first
    cases reports.mpr ⟨program, first⟩
    refine ⟨rfl, by simp [ToolStatus.foundQt, Qt.qmakeNames], ?_⟩
    intro path reportedPath
    exact env.located_eq_iff_first first.mem reportedPath

/-- A disk with programs in one directory. -/
def programDisk (programs : List String) : Disk where
  nodes :=
    [([.ofText "usr"], .directory), ([.ofText "usr", .ofText "bin"], .directory)] ++
      programs.map fun program =>
        ([.ofText "usr", .ofText "bin", .ofText program], .file [] 0o755)

/-- A world with nothing but such a disk. -/
def programWorld (programs : List String) : World where
  disk := programDisk programs
  environment := .empty

/-- An environment whose search path lists that directory. -/
def programEnvironment : Environment :=
  .ofSnapshot (.ofList [("PATH", "/usr/bin")])

/-- A machine on which `qmake` tells a version and every other command fails. -/
def qmakeMachine : Machine where
  runner world invocation := {
    outcome :=
      if invocation = Qt.versionQuery "qmake" then
        .ok ⟨some 0, true, "QMake version 3.1\nUsing Qt version 6.7.2 in /usr/lib\n", ""⟩
      else
        .ok ⟨some 127, false, "", "not found"⟩
    disk := world.disk
  }

/-- What was asked when `qmake` has told its version. -/
def qmakeAsked (world : World) : World :=
  ["qmake6", "qmake"].foldl
    (fun world program =>
      world.answered (Qt.versionQuery program)
        (qmakeMachine.runner world (Qt.versionQuery program)))
    world

theorem qmake_first_to_tell
    (world : World) :
    Qt.FirstToTell qmakeMachine 6 world Qt.qmakeNames "qmake" ⟨6, 7, 2⟩
      (qmakeAsked world) := by
  refine .passes ?_ (.tells [] ⟨_, rfl, by decide +kernel, rfl⟩)
  rintro other ⟨answer, listed, -⟩
  cases listed

/-- Where `qmake` is alone on the search path, its place is reported with its version. -/
theorem oneQmake_reported :
    let probed :=
      (probeQt {} programEnvironment).exec qmakeMachine (programWorld ["qmake"])
    Qt.FirstToTell qmakeMachine 6 (programWorld ["qmake"]) Qt.qmakeNames "qmake"
        ⟨6, 7, 2⟩ probed.2 ∧
      probed.1.detail = some "6.7.2" ∧
      probed.1.path = some (.ofText "/usr/bin/qmake") ∧
      ((programEnvironment.find? "qmake").exec qmakeMachine probed.2).1 =
        some (.ofText "/usr/bin/qmake") := by
  intro probed
  have first :
      Qt.FirstToTell qmakeMachine 6 (programWorld ["qmake"]) Qt.qmakeNames "qmake"
        ⟨6, 7, 2⟩ probed.2 := by
    dsimp only [probed]
    rw [(qmake_first_to_tell _).exec_probeQt programEnvironment]
    exact qmake_first_to_tell _
  obtain ⟨-, told⟩ :=
    reported_path_belongs_iff {} programEnvironment qmakeMachine (programWorld ["qmake"])
  obtain ⟨detail, -, belongs⟩ := told "qmake" ⟨6, 7, 2⟩ first
  have path : probed.1.path = some (.ofText "/usr/bin/qmake") := by decide +kernel
  exact ⟨first, detail, path, (belongs _ path).mpr (by decide +kernel)⟩

/--
Where `qmake6` is on the search path but fails, its place is reported with the
version that `qmake` told.
-/
theorem twoQmakes_path_of_other :
    let probed :=
      (probeQt {} programEnvironment).exec qmakeMachine
        (programWorld ["qmake6", "qmake"])
    Qt.FirstToTell qmakeMachine 6 (programWorld ["qmake6", "qmake"]) Qt.qmakeNames
        "qmake" ⟨6, 7, 2⟩ probed.2 ∧
      probed.1.detail = some "6.7.2" ∧
      probed.1.path = some (.ofText "/usr/bin/qmake6") ∧
      ((programEnvironment.find? "qmake").exec qmakeMachine probed.2).1 =
        some (.ofText "/usr/bin/qmake") := by
  refine ⟨?_, by decide +kernel, by decide +kernel, by decide +kernel⟩
  rw [(qmake_first_to_tell _).exec_probeQt programEnvironment]
  exact qmake_first_to_tell _

end Provision
