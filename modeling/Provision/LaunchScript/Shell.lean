import Provision.LaunchScript.Paths

namespace Provision.LaunchScript.Shell

/-!
# The Unix launch script

A shell script. Paths stand between double quotes as they are written.
-/

/-- A text between double quotes. -/
def quoted (text : String) : String :=
  "\"" ++ text ++ "\""

/-- Puts the program directory on the search path, now and for future shells, once. -/
def extendPath (paths : Paths) : List String :=
  let bin := paths.binDir.text
  let change := "export PATH=" ++ quoted ("$PATH:" ++ bin)
  [
    "# Add " ++ paths.projectName ++ " to PATH once",
    "case \":$PATH:\" in",
    indented ("*" ++ quoted (":" ++ bin ++ ":") ++ "*) ;;"),
    indented "*)",
    indented (indented ("echo " ++ quoted ("Adding " ++ bin ++ " to PATH..."))),
    indented (indented change),
    indented (indented ";;"),
    "esac",
    "if ! grep -qF " ++ quoted bin ++ " ~/.bashrc 2>/dev/null; then",
    indented ("echo '" ++ change ++ "' >> ~/.bashrc"),
    indented "echo \"PATH updated in .bashrc file\"",
    "fi"
  ]

/-- Defines how the project is built. -/
def build (paths : Paths) : List String := [
  "build() \x7b",
  indented
    ("(cd " ++ quoted paths.buildDir.text ++ " && cmake " ++
      quoted paths.projectDir.text ++ " -G " ++ quoted "Ninja" ++ " && ninja)"),
  "\x7d"
]

/-- Builds the project if it has no build directory. -/
def firstBuild (paths : Paths) : List String := [
  "if [ ! -d " ++ quoted paths.buildDir.text ++ " ]; then",
  indented "echo \"Creating build directory and building project...\"",
  indented ("mkdir -p " ++ quoted paths.buildDir.text),
  indented "build",
  "fi"
]

/-- Builds the project if its executable is missing. -/
def laterBuild (paths : Paths) : List String := [
  "if [ ! -f " ++ quoted paths.executable.text ++ " ]; then",
  indented ("echo " ++ quoted ("Building " ++ paths.projectName ++ "...")),
  indented "build",
  "fi"
]

/-- Runs the executable, if there is one. -/
def launch (paths : Paths) : List String := [
  "if [ -f " ++ quoted paths.executable.text ++ " ]; then",
  indented ("echo " ++ quoted ("Running " ++ paths.projectName ++ "...")),
  indented ("exec " ++ quoted paths.executable.text ++ " \"$@\""),
  "fi"
]

/-- Lines of the script. -/
def lines (paths : Paths) : List String :=
  ["#!/bin/bash", ""] ++ extendPath paths ++ [""] ++ build paths ++ [""] ++
    firstBuild paths ++ [""] ++ laterBuild paths ++ [""] ++ launch paths ++
    ["", "echo " ++ quoted ("Failed to build " ++ paths.projectName), "exit 1"]

/-- The text of the script. -/
def text (paths : Paths) : String :=
  textOfLines "\n" (lines paths)

end Provision.LaunchScript.Shell
