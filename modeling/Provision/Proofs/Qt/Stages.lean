import Provision.Proofs.Qt.Selection
import Provision.Proofs.Run.Dialogue
import Provision.Proofs.Version.Newest
import Provision.Qt.Resolver

namespace Provision.Qt

/-!
# The stages of a resolution

All stages take the same course: a status line, a question, and then what is
chosen from the listing or a default. A stage is settled by the reply to its
question, and by nothing else.
-/

section Stages

variable {α : Type} {machine : Machine} {world : World}

/-- The common course of the stages: a question, and what becomes of the listing. -/
def stage
    (opening : String)
    (invocation : Invocation)
    (select : Text → Option α)
    (found : α → Option String)
    (failed : FallbackReason → String)
    (notFound : String)
    (default : α) :
    Run (Resolved α) := do
  Run.inform opening
  match ← query invocation with
  | .error reason =>
      Run.caution (failed reason)
      return .default default reason
  | .ok listing =>
      match select listing with
      | some value =>
          match found value with
          | some message => Run.confirm message
          | none => pure ()
          return { value := value }
      | none =>
          Run.caution notFound
          return .default default .nothingListed

/-- How a stage is settled by the reply to its command. -/
inductive Settled
    (reply : Reply)
    (chosen : Text → α → Prop)
    (isDefault : α → Prop)
    (value : α)
    (fellBack : Prop) :
    Prop where
  | listed
      {listing : Text}
      (answered : reply.listing? = some listing)
      (choice : chosen listing value)
      (kept : ¬ fellBack)
  | defaulted
      (nothing :
        ∀ listing other, reply.listing? = some listing → ¬ chosen listing other)
      (default : isDefault value)
      (recorded : fellBack)

namespace Settled

variable {reply : Reply} {chosen : Text → α → Prop} {isDefault : α → Prop}
  {value : α} {fellBack : Prop} {listing : Text}

theorem choice_of_kept
    (settled : Settled reply chosen isDefault value fellBack)
    (answered : reply.listing? = some listing)
    (kept : ¬ fellBack) :
    chosen listing value := by
  cases settled with
  | listed sameAnswer choice =>
      rw [answered] at sameAnswer
      obtain rfl := Option.some.inj sameAnswer
      exact choice
  | defaulted nothing default recorded =>
      exact (kept recorded).elim

theorem choice_of_exists
    {other : α}
    (settled : Settled reply chosen isDefault value fellBack)
    (answered : reply.listing? = some listing)
    (usable : chosen listing other) :
    ¬ fellBack ∧ chosen listing value := by
  cases settled with
  | listed sameAnswer choice kept =>
      rw [answered] at sameAnswer
      obtain rfl := Option.some.inj sameAnswer
      exact ⟨kept, choice⟩
  | defaulted nothing =>
      exact (nothing listing other answered usable).elim

theorem of_iff
    {recorded : Prop}
    (settled : Settled reply chosen isDefault value fellBack)
    (same : recorded ↔ fellBack) :
    Settled reply chosen isDefault value recorded := by
  rwa [propext same]

end Settled

/-- A question gives back the listing of the reply, or a reason why there is none. -/
theorem exists_exec_query
    (invocation : Invocation) :
    ∃ answer,
      (query invocation).exec machine world =
          (answer, world.answered invocation (machine.runner world invocation)) ∧
        answer.toOption = (machine.runner world invocation).listing? := by
  rw [query, Run.exec_bind, Run.exec_command, Reply.listing?]
  cases (machine.runner world invocation).outcome with
  | error reason =>
      exact ⟨_, rfl, rfl⟩
  | ok output =>
      dsimp only
      cases output.succeeded
      · exact ⟨_, rfl, rfl⟩
      · exact ⟨_, rfl, rfl⟩

/-- A stage is one question, and its reply settles it. -/
theorem exists_exec_stage
    {opening notFound : String}
    {invocation : Invocation}
    {select : Text → Option α}
    {found : α → Option String}
    {failed : FallbackReason → String}
    {default : α}
    {chosen : Text → α → Prop}
    {isDefault : α → Prop}
    (sound : ∀ listing value, select listing = some value → chosen listing value)
    (complete : ∀ listing value, select listing = none → ¬ chosen listing value)
    (usual : isDefault default) :
    ∃ resolved after reply,
      (stage opening invocation select found failed notFound default).exec
          machine world = (resolved, after) ∧
        Dialogue machine world [(invocation, reply)] after ∧
        Settled reply chosen isDefault resolved.value
          (resolved.isFallback = true) := by
  obtain ⟨answer, asks, listing⟩ :=
    @exists_exec_query machine (Run.statusShown opening world) invocation
  simp only [stage, Run.exec_bind, Run.exec_inform, asks]
  cases answer with
  | error reason =>
      simp only [Run.exec_bind, Run.exec_caution, Run.exec_pure]
      refine ⟨_, _, _, rfl, .status opening (.ask invocation (.status _ (.silent _))), ?_⟩
      refine .defaulted (fun text other answered => ?_) usual rfl
      rw [← listing] at answered
      cases answered
  | ok text =>
      dsimp only
      cases selected : select text with
      | none =>
          simp only [Run.exec_bind, Run.exec_caution, Run.exec_pure]
          refine
            ⟨_, _, _, rfl, .status opening (.ask invocation (.status _ (.silent _))), ?_⟩
          refine .defaulted (fun other value answered => ?_) usual rfl
          rw [← listing] at answered
          obtain rfl := Option.some.inj answered
          exact complete text value selected
      | some value =>
          have settled :
              Settled (machine.runner (Run.statusShown opening world) invocation) chosen
                isDefault value (false = true) :=
            .listed listing.symm (sound text value selected) Bool.false_ne_true
          dsimp only
          cases found value with
          | none =>
              exact ⟨_, _, _, rfl, .status opening (.ask invocation (.silent _)), settled⟩
          | some message =>
              simp only [Run.exec_bind, Run.exec_confirm, Run.exec_pure]
              exact
                ⟨_, _, _, rfl, .status opening (.ask invocation (.status _ (.silent _))),
                  settled⟩

end Stages

section Resolving

variable {machine : Machine} {world : World} {index : Index} {settings : QtSettings}

/-- Stages that go on alike for every answer are the same. -/
private theorem ask_congr
    {α : Type}
    {opening : String}
    {invocation : Invocation}
    {next other : Except FallbackReason Text → Run α}
    (same : ∀ answer, next answer = other answer) :
    (Run.inform opening >>= fun _ => query invocation >>= next) =
      (Run.inform opening >>= fun _ => query invocation >>= other) := by
  rw [funext same]

theorem resolveVersion_eq_stage
    (major : Nat)
    (fallback : Version) :
    resolveVersion index major fallback =
      stage
        ("Determining the latest available " ++ ("Qt " ++ toString major ++ ".x") ++
          " version...")
        index.listVersions
        (Version.newestListed? · major)
        (fun newest => some ("Found latest available Qt version: " ++ newest.shown))
        (fun reason =>
          "Failed to get list of Qt versions (" ++ reason.shown ++ "). " ++
            ("Using Qt " ++ fallback.shown ++ " by default."))
        ("No " ++ ("Qt " ++ toString major ++ ".x") ++ " versions found. " ++
          ("Using Qt " ++ fallback.shown ++ " by default."))
        fallback := by
  rw [resolveVersion, stage]
  refine ask_congr fun answer => ?_
  cases answer with
  | error reason =>
      rfl
  | ok listing =>
      dsimp only
      cases Version.newestListed? listing major <;> rfl

theorem resolveArchitecture_eq_stage
    (version : Version) :
    resolveArchitecture index settings version =
      stage ("Determining available architecture for Qt " ++ version.shown ++ "...")
        (index.listArchitectures version)
        (selectArchitecture? · (index.host.preferredArchitectures settings))
        (fun _ => none)
        (fun reason =>
          "Failed to get list of architectures (" ++ reason.shown ++ "). " ++
            ("Using " ++ index.host.defaultArchitecture ++ " by default."))
        ("Could not find a suitable architecture. " ++
          ("Using " ++ index.host.defaultArchitecture ++ " by default."))
        index.host.defaultArchitecture := by
  rw [resolveArchitecture, stage]
  refine ask_congr fun answer => ?_
  cases answer with
  | error reason =>
      rfl
  | ok listing =>
      dsimp only
      cases selectArchitecture? listing (index.host.preferredArchitectures settings) <;> rfl

theorem resolveModules_eq_stage
    (version : Version)
    (architecture : String) :
    resolveModules index settings version architecture =
      stage
        ("Determining available modules for Qt " ++ version.shown ++
          " (" ++ architecture ++ ")...")
        (index.listModules version architecture)
        (fun listing =>
          if (selectModules listing settings.modules).isEmpty then none
          else some (selectModules listing settings.modules))
        (fun _ => none)
        (fun reason =>
          "Failed to get list of modules (" ++ reason.shown ++ "). Using basic modules.")
        "Could not determine modules. Using basic modules."
        (defaultModules settings) := by
  rw [resolveModules, stage]
  refine ask_congr fun answer => ?_
  cases answer with
  | error reason =>
      rfl
  | ok listing =>
      dsimp only
      split <;> rfl

/-- The modules that are taken where none is listed, as a set. -/
def AreDefaultModules
    (settings : QtSettings)
    (modules : List String) :
    Prop :=
  modules.Pairwise (· < ·) ∧
    ∀ name,
      name ∈ modules ↔
        name ∈
          if settings.fallbackModules = [] then basicModules
          else settings.fallbackModules

theorem exists_exec_resolveVersion
    (index : Index)
    (major : Nat)
    (fallback : Version) :
    ∃ resolved after reply,
      (resolveVersion index major fallback).exec machine world = (resolved, after) ∧
        Dialogue machine world [(index.listVersions, reply)] after ∧
        Settled reply
          (fun listing => Version.IsNewest (Version.listed listing major))
          (· = fallback) resolved.value (resolved.isFallback = true) := by
  rw [resolveVersion_eq_stage]
  refine exists_exec_stage ?_ ?_ rfl
  · intro listing version newest
    exact Version.newest?_eq_some_iff.mp newest
  · intro listing version noneListed isNewest
    have newest : Version.newestListed? listing major = some version :=
      Version.newest?_eq_some_iff.mpr isNewest
    rw [newest] at noneListed
    cases noneListed

theorem exists_exec_resolveArchitecture
    (index : Index)
    (settings : QtSettings)
    (version : Version) :
    ∃ resolved after reply,
      (resolveArchitecture index settings version).exec machine world =
          (resolved, after) ∧
        Dialogue machine world [(index.listArchitectures version, reply)] after ∧
        Settled reply
          (fun listing =>
            IsFirstWord listing (index.host.preferredArchitectures settings))
          (· = index.host.defaultArchitecture) resolved.value
          (resolved.isFallback = true) := by
  rw [resolveArchitecture_eq_stage]
  refine exists_exec_stage ?_ ?_ rfl
  · exact fun listing architecture => selectArchitecture?_eq_some_iff.mp
  · intro listing architecture noneListed isFirst
    rw [selectArchitecture?_eq_some_iff.mpr isFirst] at noneListed
    cases noneListed

theorem areDefaultModules_defaultModules
    (settings : QtSettings) :
    AreDefaultModules settings (defaultModules settings) := by
  refine ⟨pairwise_sortedNames _, fun name => ?_⟩
  rw [defaultModules, mem_sortedNames_iff]
  simp only [List.isEmpty_iff]

theorem exists_exec_resolveModules
    (index : Index)
    (settings : QtSettings)
    (version : Version)
    (architecture : String) :
    ∃ resolved after reply,
      (resolveModules index settings version architecture).exec machine world =
          (resolved, after) ∧
        Dialogue machine world [(index.listModules version architecture, reply)]
          after ∧
        Settled reply
          (fun listing => Selects listing settings.modules)
          (AreDefaultModules settings) resolved.value
          (resolved.isFallback = true) := by
  rw [resolveModules_eq_stage]
  refine exists_exec_stage ?_ ?_ (areDefaultModules_defaultModules settings)
  · intro listing modules found
    split at found
    · cases found
    · rename_i nonempty
      obtain rfl := Option.some.inj found
      exact selects_selectModules (by simpa using nonempty)
  · intro listing modules noneFound
    split at noneFound
    · rename_i empty
      exact not_selects_of_selectModules_eq_nil (List.isEmpty_iff.mp empty)
    · cases noneFound

end Resolving

end Provision.Qt
