import Provision.Text.Basic

namespace Provision.Descriptor

/-!
# The deployment block

The text that is put behind the link step: after every build it copies the Qt
runtime next to the executable, with the deployment tool of the platform or,
where there is none, with a script made at build time.
-/

/-- First line of the block; a descriptor that holds it is patched. -/
def marker : Text :=
  "# >>> qt-deploy (managed by netter-setup) >>>".toList

/-- A word of descriptors patched before the block had a marker line. -/
def formerMarker : Text :=
  "WINDEPLOYQT_EXECUTABLE".toList

/-- Last line of the block. -/
def endMarker : Text :=
  "# <<< qt-deploy <<<".toList

/-- Commands of the block, between its marker lines. -/
def blockLines : List Text := [
  "if(WIN32)".toList,
  "    find_program(WINDEPLOYQT_EXECUTABLE windeployqt HINTS \"$\x7bCMAKE_PREFIX_PATH\x7d/bin\")".toList,
  "    if(WINDEPLOYQT_EXECUTABLE)".toList,
  "        add_custom_command(TARGET $\x7bPROJECT_NAME\x7d POST_BUILD".toList,
  "            COMMAND $\x7bWINDEPLOYQT_EXECUTABLE\x7d --no-translations --no-system-d3d-compiler \"$<TARGET_FILE:$\x7bPROJECT_NAME\x7d>\"".toList,
  "            COMMENT \"Running windeployqt to copy Qt dependencies...\"".toList,
  "        )".toList,
  "    else()".toList,
  "        message(WARNING \"windeployqt not found, Qt dependencies will not be automatically copied\")".toList,
  "    endif()".toList,
  "elseif(UNIX AND NOT APPLE)".toList,
  "    find_program(LINUXDEPLOYQT_EXECUTABLE linuxdeployqt HINTS \"$\x7bCMAKE_PREFIX_PATH\x7d/bin\")".toList,
  "    if(LINUXDEPLOYQT_EXECUTABLE)".toList,
  "        add_custom_command(TARGET $\x7bPROJECT_NAME\x7d POST_BUILD".toList,
  "            COMMAND $\x7bLINUXDEPLOYQT_EXECUTABLE\x7d \"$<TARGET_FILE:$\x7bPROJECT_NAME\x7d>\" -always-overwrite -no-translations".toList,
  "            COMMENT \"Running linuxdeployqt to copy Qt dependencies...\"".toList,
  "        )".toList,
  "    else()".toList,
  "        message(STATUS \"linuxdeployqt not found, attempting to use qt-deploy\")".toList,
  "        file(WRITE \"$\x7bCMAKE_BINARY_DIR\x7d/qt-deploy.sh\"".toList,
  "            \"#!/bin/bash\\n\"".toList,
  "            \"echo 'Copying Qt dependencies...'\\n\"".toList,
  "            \"EXECUTABLE=\\\"$<TARGET_FILE:$\x7bPROJECT_NAME\x7d>\\\"\\n\"".toList,
  "            \"DEST_DIR=\\\"$(dirname \\\"$EXECUTABLE\\\")\\\"\\n\"".toList,
  "            \"ldd \\\"$EXECUTABLE\\\" | grep -i qt | awk '\x7bprint $3\x7d' | xargs -I\x7b\x7d cp -v \x7b\x7d \\\"$DEST_DIR\\\"\\n\"".toList,
  "        )".toList,
  "        execute_process(COMMAND chmod +x \"$\x7bCMAKE_BINARY_DIR\x7d/qt-deploy.sh\")".toList,
  "        add_custom_command(TARGET $\x7bPROJECT_NAME\x7d POST_BUILD".toList,
  "            COMMAND \"$\x7bCMAKE_BINARY_DIR\x7d/qt-deploy.sh\"".toList,
  "            COMMENT \"Running qt-deploy script to copy Qt dependencies...\"".toList,
  "        )".toList,
  "    endif()".toList,
  "endif()".toList
]

/-- Every line followed by a line feed. -/
def unlines (lines : List Text) : Text :=
  lines.flatMap (· ++ ['\n'])

/-- The block as it is inserted, set off by an empty line. -/
def deploymentBlock : Text :=
  '\n' :: '\n' :: unlines ([marker] ++ blockLines ++ [endMarker])

end Provision.Descriptor
