import Provision.Environment.Snapshot

namespace Provision

/-!
# Changes to an environment

Only four variables may be changed: the search paths of the compiler, the
linker and the shell. A delta holds new values for some of them.
-/

/-- A variable that may be changed. -/
inductive Variable where
  | includeDirs
  | libDirs
  | libPath
  | path
  deriving Repr, DecidableEq

namespace Variable

/-- The variables in ascending order of their names. -/
def all : List Variable :=
  [includeDirs, libDirs, libPath, path]

/-- The name of a variable as it is written to an environment. -/
def name : Variable → String
  | includeDirs => "INCLUDE"
  | libDirs => "LIB"
  | libPath => "LIBPATH"
  | path => "PATH"

/-- The variable of a name in any letter case, if it may be changed. -/
def ofName? (name : String) : Option Variable :=
  all.find? fun candidate => Name.sameIgnoringCase candidate.name name

end Variable

/-- New values for some of the variables that may be changed. -/
structure Delta where
  includeDirs : Option String := none
  libDirs : Option String := none
  libPath : Option String := none
  path : Option String := none
  deriving Repr, DecidableEq

namespace Delta

/-- The delta that changes nothing. -/
def empty : Delta := {}

/-- The new value of a variable. -/
def get? (delta : Delta) : Variable → Option String
  | .includeDirs => delta.includeDirs
  | .libDirs => delta.libDirs
  | .libPath => delta.libPath
  | .path => delta.path

/-- The delta that also gives a variable a new value. -/
def set (delta : Delta) (target : Variable) (value : String) : Delta :=
  match target with
  | .includeDirs => { delta with includeDirs := some value }
  | .libDirs => { delta with libDirs := some value }
  | .libPath => { delta with libPath := some value }
  | .path => { delta with path := some value }

/-- The delta that also gives a value to the variable of a name, if it may be changed. -/
def setNamed (delta : Delta) (name value : String) : Delta :=
  match Variable.ofName? name with
  | some target => delta.set target value
  | none => delta

/-- The new value of the variable of a name. -/
def getNamed? (delta : Delta) (name : String) : Option String :=
  (Variable.ofName? name).bind delta.get?

/-- Both deltas; the values of the second one count where they differ. -/
def merge (first second : Delta) : Delta where
  includeDirs := second.includeDirs.or first.includeDirs
  libDirs := second.libDirs.or first.libDirs
  libPath := second.libPath.or first.libPath
  path := second.path.or first.path

/-- The changed variables with their names and new values, in order of names. -/
def entries (delta : Delta) : List (String × String) :=
  Variable.all.filterMap fun target =>
    (delta.get? target).map fun value => (target.name, value)

/-- Names of the changed variables, in order. -/
def names (delta : Delta) : List String :=
  delta.entries.map Prod.fst

/-- Whether nothing is changed. -/
def isEmpty (delta : Delta) : Bool :=
  delta.entries.isEmpty

/-- The environment of a process after the change. -/
def applyTo (delta : Delta) (process : Snapshot) : Snapshot :=
  delta.entries.foldl (fun process entry => process.insert entry.1 entry.2) process

end Delta

/--
What differs between two snapshots in the variables that may be changed: those
whose value in `after` is not the one that their name finds in `before`.
-/
def Snapshot.diff (before after : Snapshot) : Delta :=
  after.entries.foldl
    (fun delta entry =>
      if before.get? entry.1 = some entry.2 then
        delta
      else
        delta.setNamed entry.1 entry.2)
    Delta.empty

end Provision
