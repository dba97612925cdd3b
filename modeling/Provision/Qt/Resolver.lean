import Provision.Names
import Provision.Qt.Index
import Provision.Run.Console
import Provision.Unicode.Classes
import Provision.Unicode.Lowercase
import Provision.VersionList

namespace Provision.Qt

/-!
# Resolving what to install

The index is asked for a version, then for an architecture of that version,
then for the modules of both. A stage whose question fails, or whose answer
holds nothing usable, takes a default. So resolving never fails; the stages
that took a default are kept with the result.
-/

/-- Why a stage took its default. -/
inductive FallbackReason where
  /-- The question could not be asked. -/
  | queryUnavailable
  | queryFailed
  /-- The answer holds nothing usable. -/
  | nothingListed
  deriving Repr, DecidableEq

/-- A reason in words. -/
def FallbackReason.shown : FallbackReason → String
  | queryUnavailable => "query could not be run"
  | queryFailed => "query failed"
  | nothingListed => "nothing recognizable in query output"

/-- A value and, if it is a default, the reason. -/
structure Resolved (α : Type) where
  value : α
  fallback : Option FallbackReason := none
  deriving Repr, DecidableEq

/-- Whether a value is a default. -/
def Resolved.isFallback (resolved : Resolved α) : Bool :=
  resolved.fallback.isSome

/-- A default with the reason for it. -/
def Resolved.default (value : α) (reason : FallbackReason) : Resolved α where
  value := value
  fallback := some reason

/-- Ask the index; the answer counts only if the command succeeds. -/
def query (invocation : Invocation) : Run (Except FallbackReason Text) := do
  match ← Run.command invocation with
  | .error _ => return .error .queryUnavailable
  | .ok output =>
      if output.succeeded then
        return .ok output.stdout.toList
      else
        return .error .queryFailed

/--
The first preferred architecture that is listed. An architecture is listed when it is
a whole word of the listing.
-/
def selectArchitecture? (listing : Text) (preferred : List String) : Option String :=
  let listed := Text.wordsBy Unicode.isWhitespace listing
  preferred.find? fun architecture => listed.contains architecture.toList

/--
The candidates that are listed, in ascending order. A module is listed when its name
occurs anywhere in the listing, in any letter case.
-/
def selectModules (listing : Text) (candidates : List String) : List String :=
  let folded := Unicode.lowercase listing
  sortedNames <| candidates.filter fun candidate =>
    folded.hasInfix (Unicode.lowercase candidate.toList)

/-- The newest version of a release line, or a default. -/
def resolveVersion (index : Index) (major : Nat) (fallback : Version) :
    Run (Resolved Version) := do
  let line := "Qt " ++ toString major ++ ".x"
  let choice := "Using Qt " ++ fallback.shown ++ " by default."
  Run.inform ("Determining the latest available " ++ line ++ " version...")
  match ← query index.listVersions with
  | .error reason =>
      Run.caution ("Failed to get list of Qt versions (" ++ reason.shown ++ "). " ++ choice)
      return .default fallback reason
  | .ok listing =>
      match Version.newestListed? listing major with
      | some newest =>
          Run.confirm ("Found latest available Qt version: " ++ newest.shown)
          return { value := newest }
      | none =>
          Run.caution ("No " ++ line ++ " versions found. " ++ choice)
          return .default fallback .nothingListed

/-- The best listed architecture of a version, or a default. -/
def resolveArchitecture (index : Index) (settings : QtSettings) (version : Version) :
    Run (Resolved String) := do
  let fallback := index.host.defaultArchitecture
  let choice := "Using " ++ fallback ++ " by default."
  Run.inform ("Determining available architecture for Qt " ++ version.shown ++ "...")
  match ← query (index.listArchitectures version) with
  | .error reason =>
      Run.caution
        ("Failed to get list of architectures (" ++ reason.shown ++ "). " ++ choice)
      return .default fallback reason
  | .ok listing =>
      match selectArchitecture? listing (index.host.preferredArchitectures settings) with
      | some architecture => return { value := architecture }
      | none =>
          Run.caution ("Could not find a suitable architecture. " ++ choice)
          return .default fallback .nothingListed

/-- The modules to install when the settings name none. -/
def basicModules : List String :=
  ["qtbase", "qt5compat"]

/-- The modules to install when no candidate is listed. -/
def defaultModules (settings : QtSettings) : List String :=
  sortedNames <|
    if settings.fallbackModules.isEmpty then basicModules else settings.fallbackModules

/-- The candidates that are listed for a version and an architecture, or a default. -/
def resolveModules
    (index : Index)
    (settings : QtSettings)
    (version : Version)
    (architecture : String) :
    Run (Resolved (List String)) := do
  let fallback := defaultModules settings
  Run.inform
    ("Determining available modules for Qt " ++ version.shown ++
      " (" ++ architecture ++ ")...")
  match ← query (index.listModules version architecture) with
  | .error reason =>
      Run.caution
        ("Failed to get list of modules (" ++ reason.shown ++ "). Using basic modules.")
      return .default fallback reason
  | .ok listing =>
      let modules := selectModules listing settings.modules
      if modules.isEmpty then
        Run.caution "Could not determine modules. Using basic modules."
        return .default fallback .nothingListed
      else
        return { value := modules }

/-- The version that the settings name for when the index cannot be asked. -/
def fallbackVersion (settings : QtSettings) : Except Failure Version :=
  match Version.parse settings.fallbackVersion with
  | .ok version => .ok version
  | .error reason =>
      .error (.configInvalid settingsFile ("qt.fallback_version: " ++ reason.message))

/-- Version, architecture and modules to install. -/
def resolve (index : Index) (settings : QtSettings) : Attempt Resolution := do
  let fallback ← fallbackVersion settings
  let version ← resolveVersion index settings.major fallback
  let architecture ← resolveArchitecture index settings version.value
  let modules ← resolveModules index settings version.value architecture.value
  let stages := [
    (Stage.version, version.isFallback),
    (Stage.architecture, architecture.isFallback),
    (Stage.modules, modules.isFallback)
  ]
  return {
    version := version.value
    architecture := architecture.value
    modules := modules.value
    fallbacks := (stages.filter Prod.snd).map Prod.fst
  }

end Provision.Qt
