import Provision.Command
import Provision.Names
import Provision.Settings
import Provision.Version

namespace Provision.Qt

/-!
# The Qt package index

The index is asked, and Qt is installed, through one command-line program. This
module holds its commands and what is read off its listings.
-/

/-- A system for which Qt packages are listed. -/
inductive Host where
  | windows
  | linux
  deriving Repr, DecidableEq

/-- Name of a host in the commands of the index. -/
def Host.name : Host → String
  | windows => "windows"
  | linux => "linux"

/-- The architecture to install when no preferred one is listed. -/
def Host.defaultArchitecture : Host → String
  | windows => "win64_msvc2019_64"
  | linux => "gcc_64"

/-- The preferred architectures of a host, best first. -/
def Host.preferredArchitectures (settings : QtSettings) : Host → List String
  | windows => settings.windowsArchitectures
  | linux => settings.unixArchitectures

/-- A step of choosing what to install. -/
inductive Stage where
  | version
  | architecture
  | modules
  deriving Repr, DecidableEq

/-- Name of a stage. -/
def Stage.name : Stage → String
  | version => "version"
  | architecture => "architecture"
  | modules => "modules"

/-- What to install, and the stages whose choice is a default. -/
structure Resolution where
  version : Version
  architecture : String
  /-- Modules in ascending order. -/
  modules : List String
  /-- Stages in the order in which they are carried out. -/
  fallbacks : List Stage
  deriving Repr, DecidableEq

/-- The program that answers for the index. -/
structure Index where
  program : String
  host : Host
  deriving Repr, DecidableEq

namespace Index

/-- The program of the search path. -/
def onPath (host : Host) : Index where
  program := "aqt"
  host := host

/-- The program at a path. -/
def atPath (program : Path) (host : Host) : Index where
  program := program.text
  host := host

/-- A listing of the index. -/
def listing (index : Index) (selection : List String) : Invocation where
  program := index.program
  arguments := ["list-qt", index.host.name, "desktop"] ++ selection

/-- Lists the versions. -/
def listVersions (index : Index) : Invocation :=
  index.listing []

/-- Lists the architectures of a version. -/
def listArchitectures (index : Index) (version : Version) : Invocation :=
  index.listing ["--arch", version.shown]

/-- Lists the modules of a version for an architecture. -/
def listModules (index : Index) (version : Version) (architecture : String) : Invocation :=
  index.listing ["--modules", version.shown, architecture]

/-- Installs what was resolved into a directory. -/
def install (index : Index) (resolution : Resolution) (dir : Path) : Invocation :=
  Invocation.onTerminal index.program <|
    ["install-qt", index.host.name, "desktop", resolution.version.shown,
      resolution.architecture, "-O", dir.text, "--modules"] ++ resolution.modules

end Index

/-- The directory that an architecture is installed into, below that of its version. -/
def architectureDir (architecture : String) : String :=
  let chars := architecture.toList
  let systems : List Text := ["win64_".toList, "win32_".toList, "linux_".toList]
  let stripped :=
    match systems.find? (·.isPrefixOf chars) with
    | some system => chars.drop system.length
    | none => chars
  if stripped = "mingw".toList then "mingw_64" else String.ofList stripped

/-- The directory of the Qt programs below an install directory. -/
def binDir (installDir : Path) (resolution : Resolution) : Path :=
  ((installDir.child resolution.version.shown).child
    (architectureDir resolution.architecture)).child "bin"

end Provision.Qt
