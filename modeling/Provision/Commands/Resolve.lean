import Provision.Commands.Project
import Provision.Json
import Provision.Provisioning.Session
import Provision.Qt.Resolver

/-!
# Resolving without installing

The index is asked what would be installed. A report for other programs is the
only thing on the standard output, so status lines are held back for it.
-/

namespace Provision.Qt

/-!
## Reports of what was resolved

A resolution is reported in lines for users, or as JSON for other programs.
-/

/-- A resolution as JSON. -/
def Resolution.json (resolution : Resolution) : Json :=
  .object [
    ("version", .text resolution.version.shown),
    ("architecture", .text resolution.architecture),
    ("modules", .texts resolution.modules),
    ("fallbacks", .texts (resolution.fallbacks.map Stage.name))
  ]

/-- The line that names the stages with a default, if there are some. -/
def defaultsLine (stages : List Stage) : List String :=
  if stages.isEmpty then
    []
  else
    ["Defaults used for: " ++ String.intercalate ", " (stages.map Stage.name)]

/-- A resolution in lines, with the program directory below an install directory. -/
def Resolution.summary (resolution : Resolution) (installDir : Path) : List String :=
  [ "Version:      " ++ resolution.version.shown,
    "Architecture: " ++ resolution.architecture,
    "Modules:      " ++ String.intercalate " " resolution.modules,
    "Bin dir:      " ++ (binDir installDir resolution).text ] ++
    defaultsLine resolution.fallbacks

end Provision.Qt

namespace Provision.Commands

/-! ## The command -/

/-- Report what would be installed from the index. -/
def resolve (platform : Platform) (given : Option Path) (json : Bool) : Attempt Unit := do
  let project ← Project.load given
  let settings := project.settings.qt
  if json then
    Run.holdStatusBack
  let resolution ← Qt.resolve (.onPath platform.host) settings
  if json then
    Run.printLine resolution.json.shown
  else
    let installDir ← settings.installPath
    Run.printLine ""
    for line in resolution.summary installDir do
      Run.printLine line

end Provision.Commands
