import Provision.Disk.Tree
import Provision.Run.Basic
import Provision.Settings

namespace Provision.Toolchain

/-!
# Finding the vendor's toolchain

Editions are installed below a root directory by release year. The preferred
one is taken: roots count most, then years, then editions. Its activation
script has two usual places; elsewhere it is searched for.
-/

/-- Name of the script that sets up the compiler's environment. -/
def activationScript : String := "vcvarsall.bat"

/-- An installed edition with its activation script. -/
structure Installation where
  root : Path
  script : Path
  deriving Repr, DecidableEq

/-- Names of the directories in a directory, as they are shown; links are followed. -/
def subdirectories (disk : Disk) (dir : Location) (path : Path) : List String :=
  match disk.locate .followed dir path with
  | .error _ => []
  | .ok location =>
      ((disk.names location).filter fun name =>
        disk.isDirectory dir (path.child name)).map FileName.text

/-- The preferred edition in a root directory. -/
def editionIn?
    (settings : ToolchainSettings)
    (disk : Disk)
    (dir : Location)
    (root : Path) :
    Option Path :=
  let years := subdirectories disk dir root
  (settings.versions.filter years.contains).findSome? fun (year : String) =>
    (settings.editions.map fun (edition : String) => (root.child year).child edition).find?
      (disk.isDirectory dir)

/-- The preferred edition in all root directories. -/
def edition? (settings : ToolchainSettings) (disk : Disk) (dir : Location) : Option Path :=
  (settings.roots.filter (disk.isDirectory dir)).findSome? (editionIn? settings disk dir)

/-- The usual places of the activation script in an edition. -/
def usualScripts (edition : Path) : List Path :=
  let parts := edition.child "VC"
  [((parts.child "Auxiliary").child "Build").child activationScript,
    parts.child activationScript]

/-- The first of the files that a search found; a warning tells of further ones. -/
def firstMatch (message : String) : List Path → Run (Option Path)
  | [] => return none
  | chosen :: others => do
      unless others.isEmpty do
        Run.warn {
          message := message
          fields := [("chosen", chosen.text), ("others", toString others.length)]
        }
      return some chosen

/-- The activation script of an edition. -/
def scriptOf (edition : Path) : Run (Option Path) := do
  match ← Run.observe fun disk dir => (usualScripts edition).find? (disk.isFile dir) with
  | some script => return some script
  | none =>
      let matching ← Run.observe fun disk dir => disk.find dir edition activationScript
      firstMatch
        ("several " ++ activationScript ++ " found below " ++ edition.text ++
          ", using the first")
        matching

/-- The preferred edition with its activation script. -/
def locate (settings : ToolchainSettings) : Run (Option Installation) := do
  match ← Run.observe (edition? settings) with
  | none => return none
  | some edition =>
      return (← scriptOf edition).map fun script => ⟨edition, script⟩

end Provision.Toolchain
