import Provision.Environment.Delta
import Provision.Path

namespace Provision

/-!
# The effective environment

During a run the environment of the process stays as it is. Changes are
collected in a delta that lies over it, and are handed over at the end. The
search path is edited entry by entry; a directory that an entry names already is
not listed again. Entries are compared as paths, but the value that is kept is a
text.
-/

/-- The environment of the process with the changes collected so far. -/
structure Environment where
  base : Snapshot
  pending : Delta

namespace Environment

/-- An environment without pending changes. -/
def ofSnapshot (base : Snapshot) : Environment where
  base := base
  pending := Delta.empty

/-- The value of a variable. -/
def var? (env : Environment) (name : String) : Option String :=
  (env.pending.getNamed? name).or (env.base.get? name)

/-- All variables with the pending changes carried out. -/
def snapshot (env : Environment) : Snapshot :=
  env.pending.entries.foldl
    (fun snapshot entry =>
      (snapshot.dropNames (Name.sameIgnoringCase · entry.1)).insert entry.1 entry.2)
    env.base

/-- The environment with more pending changes. -/
def merge (env : Environment) (delta : Delta) : Environment :=
  { env with pending := env.pending.merge delta }

end Environment

namespace SearchList

/-- The byte between the entries of a search path: a colon. -/
def separator : UInt8 := 0x3A

/-- All entries of a search path, empty ones too. -/
def allEntries (value : String) : List Path :=
  (Text.splitOn separator (Utf8.encode value.toList)).map Path.mk

/-- The entries of a search path that name something. -/
def entries (value : String) : List Path :=
  (allEntries value).filter fun entry => !entry.isEmpty

/-- Whether an entry of the list names the same place as a directory. -/
def lists (entries : List Path) (dir : Path) : Bool :=
  entries.any (·.sameAs dir)

/-- Whether a directory cannot be an entry, because the separator is part of it. -/
def cannotHold (dir : Path) : Bool :=
  dir.bytes.contains separator

/--
The search path that lists the given entries. Variables are texts, so what is
not UTF-8 in an entry is replaced.
-/
def ofEntries (entries : List Path) : String :=
  String.ofList (Utf8.decodeLossy ([separator].intercalate (entries.map Path.bytes)))

/-- Where a new entry goes. -/
inductive Place where
  | front
  | back
  deriving Repr, DecidableEq

/-- Entries with a directory added. -/
def add (entries : List Path) (place : Place) (dir : Path) : List Path :=
  match place with
  | .front => dir :: entries
  | .back => entries ++ [dir]

end SearchList

namespace Environment

/-- Entries of the search path that name something. -/
def pathEntries (env : Environment) : List Path :=
  SearchList.entries ((env.var? Variable.path.name).getD "")

/--
The environment with a directory on the search path. It stays as it is when the
directory is listed already or cannot be an entry.
-/
def addPath (env : Environment) (place : SearchList.Place) (dir : Path) : Environment :=
  let entries := env.pathEntries
  if SearchList.lists entries dir || SearchList.cannotHold dir then
    env
  else
    let value := SearchList.ofEntries (SearchList.add entries place dir)
    { env with pending := env.pending.set .path value }

/-- The environment with a directory at the end of the search path. -/
def appendPath (env : Environment) (dir : Path) : Environment :=
  env.addPath .back dir

/-- The environment with a directory at the front of the search path. -/
def prependPath (env : Environment) (dir : Path) : Environment :=
  env.addPath .front dir

end Environment

end Provision
