import Provision.Proofs.Qt.Stages
import Provision.Proofs.Version.Listing

namespace Provision.Qt

/-!
# The account of a resolution

Resolving is a dialogue of three commands, each of which speaks of what the
ones before it settled. A stage takes what the reply to its command lists, and
its default where the command did not end well or its listing holds nothing
usable; the result names exactly the stages of the second kind.
-/

section Resolving

variable {machine : Machine} {world : World} {index : Index} {settings : QtSettings}

section Consequences

variable {reply : Reply} {fellBack : Prop} {listing : Text}

/-- A version that is listed is written, and none that is clearly written is newer. -/
theorem written_of_settled
    {major : Nat}
    {isDefault : Version → Prop}
    {version : Version}
    (settled :
      Settled reply (fun listing => Version.IsNewest (Version.listed listing major))
        isDefault version fellBack)
    (answered : reply.listing? = some listing) :
    (¬ fellBack → Version.IsWritten listing major version) ∧
      ∀ other, Version.IsWrittenClearly listing major other →
        ¬ fellBack ∧ version.isOlder other = false := by
  refine ⟨fun kept => ?_, fun other written => ?_⟩
  · exact Version.isWritten_of_mem_listed (settled.choice_of_kept answered kept).1
  · have member := Version.mem_listed_of_isWrittenClearly written
    cases newest : Version.newest? (Version.listed listing major) with
    | none =>
        rw [Version.newest?_eq_none_iff.mp newest] at member
        cases member
    | some another =>
        obtain ⟨kept, isNewest⟩ :=
          settled.choice_of_exists answered (Version.newest?_eq_some_iff.mp newest)
        exact ⟨kept, isNewest.2 other member⟩

/-- Modules that are listed occur in any case; a candidate without sigmas that does is listed. -/
theorem anyCase_of_settled
    {candidates modules : List String}
    {isDefault : List String → Prop}
    (settled :
      Settled reply (fun listing => Selects listing candidates) isDefault modules
        fellBack)
    (answered : reply.listing? = some listing) :
    (¬ fellBack →
      ∀ name ∈ modules,
        Unicode.caseless name.toList <:+: Unicode.caseless listing) ∧
      ∀ name ∈ candidates,
        (∀ c ∈ name.toList, Unicode.isSigma c = false) →
          Unicode.caseless name.toList <:+: Unicode.caseless listing →
          ¬ fellBack ∧ name ∈ modules := by
  refine ⟨fun kept name member => ?_, fun name candidate noSigma occurs => ?_⟩
  · have selects := settled.choice_of_kept answered kept
    exact Unicode.caseless_infix_of_lowercase ((selects.mem_iff name).mp member).2
  · have lowercaseOccurs :=
      (Unicode.lowercase_infix_iff_caseless_infix noSigma listing).mpr occurs
    have found : name ∈ selectModules listing candidates :=
      mem_selectModules_iff.mpr ⟨candidate, lowercaseOccurs⟩
    obtain ⟨kept, selects⟩ :=
      settled.choice_of_exists answered
        (selects_selectModules (List.ne_nil_of_mem found))
    exact ⟨kept, (selects.mem_iff name).mpr ⟨candidate, lowercaseOccurs⟩⟩

/-- There is always a module to install. -/
theorem ne_nil_of_settled
    {modules : List String}
    (settled :
      Settled reply (fun listing => Selects listing settings.modules)
        (AreDefaultModules settings) modules fellBack) :
    modules ≠ [] := by
  cases settled with
  | listed answered choice =>
      exact choice.nonempty
  | defaulted nothing default =>
      rintro rfl
      have noName := default.2
      split at noName
      · exact List.not_mem_nil ((noName "qtbase").mpr List.mem_cons_self)
      · rename_i configured
        obtain ⟨name, member⟩ := List.exists_mem_of_ne_nil _ configured
        exact List.not_mem_nil ((noName name).mpr member)

end Consequences

/-- What a resolution owes to the replies to the three commands. -/
structure Accounted
    (index : Index)
    (settings : QtSettings)
    (fallback : Version)
    (versionReply architectureReply moduleReply : Reply)
    (resolution : Resolution) :
    Prop where
  version :
    Settled versionReply
      (fun listing => Version.IsNewest (Version.listed listing settings.major))
      (· = fallback) resolution.version (.version ∈ resolution.fallbacks)
  /-- A version that was listed is written there, and none clearly written is newer. -/
  written :
    ∀ listing, versionReply.listing? = some listing →
      (.version ∉ resolution.fallbacks →
        Version.IsWritten listing settings.major resolution.version) ∧
      ∀ other, Version.IsWrittenClearly listing settings.major other →
        .version ∉ resolution.fallbacks ∧ resolution.version.isOlder other = false
  architecture :
    Settled architectureReply
      (fun listing => IsFirstWord listing (index.host.preferredArchitectures settings))
      (· = index.host.defaultArchitecture) resolution.architecture
      (.architecture ∈ resolution.fallbacks)
  modules :
    Settled moduleReply
      (fun listing => Selects listing settings.modules)
      (AreDefaultModules settings) resolution.modules
      (.modules ∈ resolution.fallbacks)
  /-- What was listed occurs in any case, and so does no other candidate without sigmas. -/
  anyCase :
    ∀ listing, moduleReply.listing? = some listing →
      (.modules ∉ resolution.fallbacks →
        ∀ name ∈ resolution.modules,
          Unicode.caseless name.toList <:+: Unicode.caseless listing) ∧
      ∀ name ∈ settings.modules,
        (∀ c ∈ name.toList, Unicode.isSigma c = false) →
          Unicode.caseless name.toList <:+: Unicode.caseless listing →
          .modules ∉ resolution.fallbacks ∧ name ∈ resolution.modules
  someModules : resolution.modules ≠ []
  inOrder : resolution.fallbacks.Sublist [.version, .architecture, .modules]

/-- The result of three settled stages. -/
def assembled
    (version : Resolved Version)
    (architecture : Resolved String)
    (modules : Resolved (List String)) :
    Resolution where
  version := version.value
  architecture := architecture.value
  modules := modules.value
  fallbacks :=
    ([(Stage.version, version.isFallback), (.architecture, architecture.isFallback),
      (.modules, modules.isFallback)].filter Prod.snd).map Prod.fst

section Assembled

variable (version : Resolved Version) (architecture : Resolved String)
  (modules : Resolved (List String))

@[simp] theorem mem_fallbacks_assembled
    (stage : Stage) :
    stage ∈ (assembled version architecture modules).fallbacks ↔
      match stage with
      | .version => version.isFallback = true
      | .architecture => architecture.isFallback = true
      | .modules => modules.isFallback = true := by
  cases stage <;>
    simp [assembled, List.mem_map, List.mem_filter]

theorem fallbacks_assembled_sublist :
    (assembled version architecture modules).fallbacks.Sublist
      [.version, .architecture, .modules] :=
  List.filter_sublist.map Prod.fst

variable {version architecture modules}

theorem exec_resolve
    {fallback : Version}
    {versionWorld architectureWorld after : World}
    (readable : Version.parse settings.fallbackVersion = .ok fallback)
    (versionRuns :
      (resolveVersion index settings.major fallback).exec machine world =
        (version, versionWorld))
    (architectureRuns :
      (resolveArchitecture index settings version.value).exec machine versionWorld =
        (architecture, architectureWorld))
    (moduleRuns :
      (resolveModules index settings version.value architecture.value).exec machine
          architectureWorld =
        (modules, after)) :
    (resolve index settings).exec machine world =
      (.ok (assembled version architecture modules), after) := by
  have fallbackFound : fallbackVersion settings = .ok fallback := by
    rw [fallbackVersion, readable]
  simp only [resolve, fallbackFound, Attempt.exec_bind, Attempt.exec_liftExcept,
    Attempt.exec_lift, versionRuns, architectureRuns, moduleRuns, Attempt.exec_pure]
  rfl

end Assembled

/--
Resolving asks nothing if the version for want of a listing cannot be read.
Otherwise it comes to a result by exactly three commands, the later ones about
what is in the result, and the result is accounted for by the replies.
-/
theorem resolve_accounted
    (machine : Machine)
    (world : World)
    (index : Index)
    (settings : QtSettings) :
    match Version.parse settings.fallbackVersion with
    | .error reason =>
        (resolve index settings).exec machine world =
          (.error
            (.configInvalid settingsFile ("qt.fallback_version: " ++ reason.message)),
            world)
    | .ok fallback =>
        ∃ resolution after versionReply architectureReply moduleReply,
          (resolve index settings).exec machine world = (.ok resolution, after) ∧
            Dialogue machine world
              [(index.listVersions, versionReply),
                (index.listArchitectures resolution.version, architectureReply),
                (index.listModules resolution.version resolution.architecture,
                  moduleReply)]
              after ∧
            after.calls =
              world.calls ++
                [index.listVersions,
                  index.listArchitectures resolution.version,
                  index.listModules resolution.version resolution.architecture] ∧
            Accounted index settings fallback versionReply architectureReply moduleReply
              resolution := by
  split
  · rename_i reason unreadable
    simp [resolve, fallbackVersion, unreadable]
  · rename_i fallback readable
    obtain ⟨version, versionWorld, versionReply, versionRuns, versionDialogue,
      versionSettled⟩ :=
      @exists_exec_resolveVersion machine world index settings.major fallback
    obtain ⟨architecture, architectureWorld, architectureReply, architectureRuns,
      architectureDialogue, architectureSettled⟩ :=
      @exists_exec_resolveArchitecture machine versionWorld index settings version.value
    obtain ⟨modules, after, moduleReply, moduleRuns, moduleDialogue, moduleSettled⟩ :=
      @exists_exec_resolveModules machine architectureWorld index settings
        version.value architecture.value
    have dialogue :=
      versionDialogue.append (architectureDialogue.append moduleDialogue)
    refine ⟨assembled version architecture modules, after, versionReply,
      architectureReply, moduleReply,
      exec_resolve readable versionRuns architectureRuns moduleRuns, dialogue,
      dialogue.calls, ?_⟩
    have recorded := mem_fallbacks_assembled version architecture modules
    have versionSettled := versionSettled.of_iff (recorded .version)
    have architectureSettled := architectureSettled.of_iff (recorded .architecture)
    have moduleSettled := moduleSettled.of_iff (recorded .modules)
    exact
      { version := versionSettled
        written := fun listing answered => written_of_settled versionSettled answered
        architecture := architectureSettled
        modules := moduleSettled
        anyCase := fun listing answered => anyCase_of_settled moduleSettled answered
        someModules := ne_nil_of_settled moduleSettled
        inOrder := fallbacks_assembled_sublist version architecture modules }

end Resolving

/-- A machine whose commands answer, in turn, with a version, an architecture and `ΟΣΟ`. -/
def sigmaMachine : Machine where
  runner world _ :=
    { outcome := .ok
        { code := some 0
          succeeded := true
          stdout := ["6.10.0\n", "linux_gcc_64\n", "ΟΣΟ\n"].getD world.calls.length ""
          stderr := "" }
      disk := world.disk }

/--
A candidate with a capital sigma is missed although it occurs as it is written:
at its own end the sigma takes the final form, in the listing it does not.
-/
theorem verbatimCandidate_missed :
    "ΟΣ".toList <:+: "ΟΣΟ\n".toList ∧
      ((resolve (Index.onPath .linux) { modules := ["ΟΣ"] }).exec sigmaMachine
          { disk := Disk.empty, environment := Snapshot.empty }).1.toOption =
        some
          { version := ⟨6, 10, 0⟩
            architecture := "linux_gcc_64"
            modules := ["qt5compat", "qtbase"]
            fallbacks := [.modules] } := by
  refine ⟨⟨[], "Ο\n".toList, ?_⟩, ?_⟩
  · decide +kernel
  · decide +kernel

end Provision.Qt
