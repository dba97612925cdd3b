namespace Provision

/-!
# Failures

The ways in which a command of this program can fail. Conditions that a run
recovers from are no failures: they are reported and replaced by a default.
-/

/-- Why a command failed. -/
inductive Failure where
  /-- A command could not be started. -/
  | commandFailed (command reason : String)
  /-- An installer ended badly. -/
  | installFailed (tool command status : String)
  /-- The second way of installing a tool failed as well. -/
  | fallbackFailed (tool reason : String)
  | homeUnavailable
  | promptFailed (reason : String)
  | configUnreadable (path reason : String)
  | configInvalid (path reason : String)
  | notSerializable (reason : String)
  | fileNotFound (path : String)
  | fileUnreadable (path reason : String)
  | fileUnwritable (path reason : String)
  | inputOutput (message : String)
  deriving Repr, DecidableEq

namespace Failure

/-- What is reported to the user. -/
def message : Failure → String
  | commandFailed command reason => "Failed to run '" ++ command ++ "': " ++ reason
  | installFailed tool command status =>
      "Installing " ++ tool ++ " failed: '" ++ command ++ "' exited with " ++ status
  | fallbackFailed tool reason =>
      "Fallback installation of " ++ tool ++ " failed: " ++ reason
  | homeUnavailable => "Could not determine the home directory"
  | promptFailed reason => "Prompt failed: " ++ reason
  | configUnreadable path _ => "Failed to read configuration file: " ++ path
  | configInvalid path reason =>
      "Failed to parse configuration file: " ++ path ++ ": " ++ reason
  | notSerializable reason => "Failed to serialize output: " ++ reason
  | fileNotFound path => "File not found: " ++ path
  | fileUnreadable path _ => "Failed to read file: " ++ path
  | fileUnwritable path _ => "Failed to write file: " ++ path
  | inputOutput message => "IO error: " ++ message

/-- The part of the program that a failure belongs to, and its kind there. -/
def place : Failure → String × String
  | commandFailed .. => ("exec", "spawn_failed")
  | installFailed .. => ("install", "failed")
  | fallbackFailed .. => ("install", "fallback_failed")
  | homeUnavailable => ("install", "no_home")
  | promptFailed .. => ("install", "prompt_failed")
  | configUnreadable .. => ("config", "read_failed")
  | configInvalid .. => ("config", "parse_failed")
  | notSerializable .. => ("config", "serialize_failed")
  | fileNotFound .. => ("fs", "not_found")
  | fileUnreadable .. => ("fs", "read_failed")
  | fileUnwritable .. => ("fs", "write_failed")
  | inputOutput .. => ("fs", "io_error")

/-- The code under which a failure is documented. -/
def code (failure : Failure) : String :=
  "netter_setup::" ++ failure.place.1 ++ "::" ++ failure.place.2

/-- What the user can do about a failure, where there is something. -/
def help? : Failure → Option String
  | commandFailed .. =>
      some "Check that the program is installed and reachable through PATH"
  | installFailed .. =>
      some "Run the command manually to see the package manager's output"
  | fallbackFailed .. =>
      some "Install Qt 6 manually (https://www.qt.io/download) and re-run setup"
  | configInvalid .. =>
      some
        "Every key in netter-setup.yaml is optional; remove unknown or mistyped keys"
  | _ => none

end Failure

end Provision
