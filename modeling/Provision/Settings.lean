import Provision.Path

namespace Provision

/-!
# Settings

What a project can choose. Every setting has a default, so a project without a
settings file is provisioned like one with an empty file.
-/

/-- Name of the settings file in a project directory. -/
def settingsFile : String := "netter-setup.yaml"

/-- What Qt to install, and where. -/
structure QtSettings where
  /-- The supported release line. -/
  major : Nat := 6
  /-- The version to use when the index cannot be asked. -/
  fallbackVersion : String := "6.5.3"
  /-- Where Qt is installed; `Qt` in the home directory when it is not set. -/
  installDir : Option Path := none
  /-- The environment of the installer; in the home directory when it is not set. -/
  installerDir : Option Path := none
  /-- Modules that are installed when the index lists them. -/
  modules : List String := ["qtbase", "qt5compat"]
  /-- Modules that are installed when none of the others is listed. -/
  fallbackModules : List String := ["qtbase", "qt5compat"]
  /-- Architectures for Windows, preferred ones first. -/
  windowsArchitectures : List String := [
    "win64_msvc2022_64",
    "win64_msvc2019_64",
    "win64_msvc2017_64",
    "win64_msvc2015_64",
    "win64_mingw"
  ]
  /-- Architectures for other systems, preferred ones first. -/
  unixArchitectures : List String := ["linux_gcc_64", "gcc_64"]
  deriving Repr, DecidableEq

/-- Where to look for the vendor's toolchain. -/
structure ToolchainSettings where
  roots : List Path := [
    "C:\\Program Files\\Microsoft Visual Studio",
    "C:\\Program Files (x86)\\Microsoft Visual Studio"
  ]
  /-- Release years, preferred ones first. -/
  versions : List String := ["2022", "2019", "2017"]
  /-- Editions, preferred ones first. -/
  editions : List String := ["Community", "Professional", "Enterprise", "BuildTools"]
  deriving Repr, DecidableEq

/-- The settings of a project. -/
structure Settings where
  /-- Name of the application and of its executable. -/
  projectName : String := "Netter"
  /-- The build descriptor, below the project directory. -/
  descriptor : Path := "CMakeLists.txt"
  /-- The build directory, below the project directory. -/
  buildDir : Path := "build"
  qt : QtSettings := {}
  toolchain : ToolchainSettings := {}
  deriving Repr, DecidableEq

end Provision
