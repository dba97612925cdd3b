import Provision.Path

namespace Provision

/-!
# Tools

The tools that a build needs, in the order in which they are installed, and
what is known about the presence of one.
-/

/-- A tool that a build needs. -/
inductive Tool where
  | compiler
  | buildGenerator
  | buildRunner
  | guiRuntime
  deriving Repr, DecidableEq

namespace Tool

/-- Every tool, in the order of installation. -/
def all : List Tool :=
  [compiler, buildGenerator, buildRunner, guiRuntime]

/-- How users know a tool. -/
def shown : Tool → String
  | compiler => "C++ compiler"
  | buildGenerator => "CMake"
  | buildRunner => "Ninja"
  | guiRuntime => "Qt"

end Tool

/-- What is known about the presence of a tool. -/
structure ToolStatus where
  tool : Tool
  present : Bool
  /-- Where the tool was found. -/
  path : Option Path := none
  /-- More about the tool, such as its version. -/
  detail : Option String := none
  deriving Repr, DecidableEq

namespace ToolStatus

/-- The status of a tool that is missing. -/
def absent (tool : Tool) : ToolStatus where
  tool := tool
  present := false

/-- The status of a tool that was found at a path. -/
def found (tool : Tool) (path : Path) : ToolStatus where
  tool := tool
  present := true
  path := some path

/-- The status of a tool after a search for it. -/
def ofSearch (tool : Tool) : Option Path → ToolStatus
  | some path => found tool path
  | none => absent tool

end ToolStatus

end Provision
