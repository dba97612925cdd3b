import Provision.Provisioning.Platform
import Provision.Settings

namespace Provision.LaunchScript

/-!
# Launch scripts

A launch script puts the program directory of a project on the search path,
builds the project if its executable is missing, and runs it. The paths that it
speaks of follow from the project directory and the settings.
-/

/-- Name of the launch script of a platform. -/
def fileName : Platform → String
  | .windows => "run_netter.bat"
  | .unix => "run_netter.sh"

/-- What ends the name of a program on a platform. -/
def programSuffix : Platform → String
  | .windows => ".exe"
  | .unix => ""

/-- What a launch script has to know about a project. -/
structure Paths where
  projectName : String
  projectDir : Path
  buildDir : Path
  /-- The directory that the script puts on the search path. -/
  binDir : Path
  executable : Path
  /-- The script that activates the vendor's toolchain. -/
  activation : Option Path
  deriving Repr, DecidableEq

/-- The paths of a project. -/
def Paths.ofProject
    (projectDir : Path)
    (settings : Settings)
    (platform : Platform)
    (activation : Option Path) :
    Paths :=
  let buildDir := projectDir.join settings.buildDir
  {
    projectName := settings.projectName
    projectDir := projectDir
    buildDir := buildDir
    binDir := (projectDir.child "target").child "release"
    executable := buildDir.child (settings.projectName ++ programSuffix platform)
    activation := activation
  }

/-- Lines as a text in which every line is closed. -/
def textOfLines (lineEnd : String) (lines : List String) : String :=
  lines.foldr (fun line rest => line ++ lineEnd ++ rest) ""

/-- A line that stands inside a block. -/
def indented (line : String) : String :=
  "    " ++ line

end Provision.LaunchScript
