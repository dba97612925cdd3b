import Provision.Failure
import Provision.Settings
import Provision.Unicode.Classes
import Provision.Yaml.Node

namespace Provision

/-!
# Reading settings

Settings are read from YAML. A field that is not written keeps its default; a
field that is unknown or written twice is an error, so that a typing mistake
does not go unnoticed.
-/

/-- Why a text holds no settings. -/
inductive SettingsError where
  /-- The text is no YAML, or holds more than one document. -/
  | malformed
  | unknownField (name : String)
  | repeatedField (name : String)
  /-- The value of a field is of the wrong kind. -/
  | mistyped (expected : String)
  deriving Repr, DecidableEq

/-- An error in words. -/
def SettingsError.message : SettingsError → String
  | malformed => "not a single YAML document"
  | unknownField name => "unknown field '" ++ name ++ "'"
  | repeatedField name => "repeated field '" ++ name ++ "'"
  | mistyped expected => "expected " ++ expected

namespace SettingsReader

open Yaml

/-- Reads a value from a node of a document. -/
abbrev Reader (α : Type) := Document → Yaml.Node → Except SettingsError α

/-- The node itself, or what it refers to. -/
def resolved (document : Document) (node : Yaml.Node) : Except SettingsError Yaml.Node :=
  match document.resolve? node with
  | some node => .ok node
  | none => .error .malformed

/-- The words for a value that is missing. -/
def nullWords : List Text :=
  [['~'], "null".toList, "Null".toList, "NULL".toList]

/-- The tag of a value that is missing. -/
def nullTag : TagName :=
  Utf8.encode "tag:yaml.org,2002:null".toList

/-- The tag of a whole number. -/
def numberTag : TagName :=
  Utf8.encode "tag:yaml.org,2002:int".toList

/-- Read any scalar as the text that it writes. -/
def text : Reader String := fun document node => do
  match ← resolved document node with
  | .scalar content _ => .ok (String.ofList content.value)
  | _ => .error (.mistyped "a text")

/-- Read a text that may be missing. -/
def optionalText : Reader (Option String) := fun document node => do
  match ← resolved document node with
  | .scalar content tag =>
      let isNull := content.isPlain && nullWords.contains content.value
      if content.isPlain && tag == some nullTag then
        if isNull then .ok none else .error (.mistyped "null")
      else if tag.isNone && (isNull || (content.isPlain && content.value.isEmpty)) then
        .ok none
      else
        .ok (some (String.ofList content.value))
  | _ => .error (.mistyped "a text")

/-- Whether a node writes nothing. -/
def isNothing : Yaml.Node → Bool
  | .scalar content _ => content.isPlain && content.value.isEmpty
  | _ => false

/-- Read a list of texts. -/
def texts : Reader (List String) := fun document node => do
  match ← resolved document node with
  | .sequence items => items.mapM (text document)
  | other => if isNothing other then .ok [] else .error (.mistyped "a list of texts")

/-- Value of a digit in a number system. -/
def digit? (base : Nat) (c : Char) : Option Nat :=
  (Quoted.hexDigit? c).filter (· < base)

/-- Value of a non-empty run of digits. -/
def digits? (base : Nat) (digits : Text) : Option Nat :=
  if digits.isEmpty then
    none
  else
    digits.foldlM (fun value c => do return value * base + (← digit? base c)) 0

/-- Numbers are below this bound. -/
def numberBound : Nat := UInt64.size

/-- Number systems with their marks. -/
def bases : List (Text × Nat) :=
  [(['0', 'x'], 16), (['0', 'o'], 8), (['0', 'b'], 2)]

/-- The number that a text writes. A decimal number does not start with a needless zero. -/
def number? (written : Text) : Option Nat :=
  let unsigned := if written.head? == some '+' then written.tail else written
  let value :=
    match bases.find? fun base => base.1.isPrefixOf unsigned with
    | some (mark, base) => digits? base (unsigned.drop mark.length)
    | none =>
        if 1 < unsigned.length && unsigned.head? == some '0' then
          none
        else
          digits? 10 unsigned
  value.filter (· < numberBound)

/-- Whether a scalar may write a number: plainly, or as a literal block tagged as a number. -/
def mayWriteNumber (content : Scalar) (tag : Option TagName) : Bool :=
  match content.style with
  | .plain => true
  | .literal => tag == some numberTag
  | .quoted => false
  | .folded => false

/-- Read a number. -/
def number : Reader Nat := fun document node => do
  match ← resolved document node with
  | .scalar content tag =>
      match if mayWriteNumber content tag then number? content.value else none with
      | some value => .ok value
      | none => .error (.mistyped "a number")
  | _ => .error (.mistyped "a number")

/-- Read a path. -/
def path : Reader Path := fun document node =>
  (text document node).map Path.ofText

/-- Read a list of paths. -/
def paths : Reader (List Path) := fun document node =>
  (texts document node).map (·.map Path.ofText)

/-- Read a path that may be missing. -/
def optionalPath : Reader (Option Path) := fun document node =>
  (optionalText document node).map (·.map Path.ofText)

/-- How the fields of a part of the settings are read into it. -/
abbrev Fields (σ : Type) := List (String × (σ → Reader σ))

/-- A field that is read by a reader and put into its place. -/
def field (reader : Reader α) (put : σ → α → σ) : σ → Reader σ :=
  fun part document node => (reader document node).map (put part)

/-- Read one field into a part of the settings. -/
def readField
    (fields : Fields σ)
    (document : Document)
    (progress : σ × List String)
    (entry : Yaml.Node × Yaml.Node) :
    Except SettingsError (σ × List String) := do
  let (part, seen) := progress
  let name ← text document entry.1
  match fields.lookup name with
  | none => .error (.unknownField name)
  | some read =>
      if seen.contains name then
        .error (.repeatedField name)
      else
        return (← read part document entry.2, name :: seen)

/-- Read a part of the settings over its defaults. -/
def part (fields : Fields σ) (defaults : σ) : Reader σ := fun document node => do
  match ← resolved document node with
  | .mapping entries =>
      return (← entries.foldlM (readField fields document) (defaults, [])).1
  | other => if isNothing other then .ok defaults else .error (.mistyped "a mapping")

/-- Fields of the settings for Qt. -/
def qtFields : Fields QtSettings := [
  ("major", field number fun qt value => { qt with major := value }),
  ("fallback_version", field text fun qt value => { qt with fallbackVersion := value }),
  ("install_dir", field optionalPath fun qt value => { qt with installDir := value }),
  ("venv_dir", field optionalPath fun qt value => { qt with installerDir := value }),
  ("modules", field texts fun qt value => { qt with modules := value }),
  ("fallback_modules", field texts fun qt value => { qt with fallbackModules := value }),
  ("windows_architectures",
    field texts fun qt value => { qt with windowsArchitectures := value }),
  ("unix_architectures", field texts fun qt value => { qt with unixArchitectures := value })
]

/-- Fields of the settings for the vendor's toolchain. -/
def toolchainFields : Fields ToolchainSettings := [
  ("roots", field paths fun toolchain value => { toolchain with roots := value }),
  ("versions", field texts fun toolchain value => { toolchain with versions := value }),
  ("editions", field texts fun toolchain value => { toolchain with editions := value })
]

/-- Fields of the settings. -/
def settingsFields : Fields Settings := [
  ("project_name", field text fun settings value => { settings with projectName := value }),
  ("descriptor", field path fun settings value => { settings with descriptor := value }),
  ("build_dir", field path fun settings value => { settings with buildDir := value }),
  ("qt", field (part qtFields {}) fun settings value => { settings with qt := value }),
  ("toolchain",
    field (part toolchainFields {}) fun settings value => { settings with toolchain := value })
]

/-- The settings of a document; an empty one has the defaults. -/
def settings (document : Document) : Except SettingsError Settings :=
  match document.root with
  | none => .ok {}
  | some root => part settingsFields {} document root

end SettingsReader

/-- Read settings; a text that is blank has the defaults. -/
def Settings.read (content : Text) : Except SettingsError Settings :=
  if content.all Unicode.isWhitespace then
    .ok {}
  else
    match Yaml.Document.read? content with
    | some document => SettingsReader.settings document
    | none => .error .malformed

/-- Read settings that come from `origin`, which a failure names. -/
def Settings.parse (content : Text) (origin : String) : Except Failure Settings :=
  (Settings.read content).mapError fun reason => .configInvalid origin reason.message

end Provision
