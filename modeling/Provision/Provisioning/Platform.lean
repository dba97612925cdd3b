import Provision.Qt.Index
import Provision.Tool

namespace Provision

/-!
# Platforms

The systems on which tools can be provisioned, and what differs between them in
names alone.
-/

/-- A system on which tools can be provisioned. -/
inductive Platform where
  | windows
  | unix
  deriving Repr, DecidableEq

namespace Platform

/-- How users know a platform. -/
def name : Platform → String
  | windows => "Windows"
  | unix => "Linux"

/-- The packages that the Qt index lists for a platform. -/
def host : Platform → Qt.Host
  | windows => .windows
  | unix => .linux

/-- The program by which the presence of a tool is told. -/
def executable : Platform → Tool → String
  | windows, .compiler => "cl"
  | windows, .guiRuntime => "qmake"
  | unix, .compiler => "g++"
  | unix, .guiRuntime => "qmake6"
  | _, .buildGenerator => "cmake"
  | _, .buildRunner => "ninja"

/-- The interpreter that creates an isolated installer. -/
def python : Platform → String
  | windows => "python"
  | unix => "python3"

/-- The directory of an isolated installer that holds its programs. -/
def scriptsDir : Platform → String
  | windows => "Scripts"
  | unix => "bin"

end Platform

end Provision
