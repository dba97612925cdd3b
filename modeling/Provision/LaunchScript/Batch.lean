import Provision.LaunchScript.Paths
import Provision.Toolchain.Activation

namespace Provision.LaunchScript.Batch

/-!
# The Windows launch script

A batch file. Its blocks open with a parenthesis at the end of a line and close
with a line that holds nothing but a parenthesis.
-/

/-- A text between double quotes. -/
def quoted (text : String) : String :=
  "\"" ++ text ++ "\""

/-- A block: the line that opens it, the lines inside, the line that closes it. -/
def block (head : String) (body : List String) : List String :=
  [head ++ " ("] ++ body.map indented ++ [")"]

/-- Sets up the environment of the vendor's compiler, if there is one. -/
def activation (script : Option Path) : List String :=
  match script with
  | some script => [
      ":: Set up MSVC environment",
      "echo Setting up MSVC environment...",
      "call " ++ quoted script.text ++ " " ++ Toolchain.hostArchitecture ++ " >nul",
      "if errorlevel 1 echo WARNING: MSVC environment could not be set up"
    ]
  | none => [
      "echo WARNING: Could not find " ++ Toolchain.activationScript ++
        ", MSVC environment variables may not be set up"
    ]

/-- Puts the program directory on the search path, once. -/
def extendPath (paths : Paths) : List String :=
  let bin := paths.binDir.text
  [":: Add " ++ paths.projectName ++ " to PATH once"] ++
    block ("echo ;%PATH%; | find /I " ++ quoted (";" ++ bin ++ ";") ++ " >nul ||") [
      "echo Adding " ++ bin ++ " to PATH...",
      "setx PATH " ++ quoted ("%PATH%;" ++ bin) ++ " >nul",
      "set " ++ quoted ("PATH=%PATH%;" ++ bin)
    ]

/-- Builds the project from its build directory. -/
def build (paths : Paths) : List String := [
  "pushd " ++ quoted paths.buildDir.text,
  "cmake " ++ quoted paths.projectDir.text ++ " -G " ++ quoted "Ninja" ++ " && ninja",
  "popd"
]

/-- Builds the project if it has no build directory. -/
def firstBuild (paths : Paths) : List String :=
  block ("if not exist " ++ quoted paths.buildDir.text)
    (["echo Creating build directory and building project...",
      "mkdir " ++ quoted paths.buildDir.text] ++ build paths)

/-- Builds the project if its executable is missing. -/
def laterBuild (paths : Paths) : List String :=
  block ("if not exist " ++ quoted paths.executable.text)
    (["echo Building " ++ paths.projectName ++ "..."] ++ build paths)

/-- Runs the executable, or reports that there is none. -/
def launch (paths : Paths) : List String := [
  "if not exist " ++ quoted paths.executable.text ++ " goto build_failed",
  "echo Running " ++ paths.projectName ++ "...",
  quoted paths.executable.text ++ " %*",
  "exit /b",
  "",
  ":build_failed",
  "echo Failed to build " ++ paths.projectName,
  "exit /b 1"
]

/-- Lines of the script. -/
def lines (paths : Paths) : List String :=
  ["@echo off", "setlocal", ""] ++ activation paths.activation ++ [""] ++
    extendPath paths ++ [""] ++ firstBuild paths ++ [""] ++ laterBuild paths ++ [""] ++
    launch paths

/-- The text of the script. -/
def text (paths : Paths) : String :=
  textOfLines "\r\n" (lines paths)

end Provision.LaunchScript.Batch
