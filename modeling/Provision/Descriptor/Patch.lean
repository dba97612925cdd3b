import Provision.Descriptor.Anchor
import Provision.Descriptor.Block
import Provision.Unicode.Lowercase

namespace Provision.Descriptor

/-!
# Patching a build descriptor

A patch puts the deployment block right behind the last link step. It is a
function of the text alone. A descriptor that carries a marker stays as it is,
so a second patch changes nothing. A deployment command of the older form is
taken out first.
-/

/-- What a patch did. -/
inductive PatchOutcome where
  | patched
  | alreadyPatched
  /-- There is no link step to put the block behind; the text stays as it was. -/
  | anchorMissing
  deriving Repr, DecidableEq

/-- A patched text and what happened to it. -/
structure Patch where
  text : Text
  outcome : PatchOutcome
  /-- Deployment commands of the older form; only the last one is taken out. -/
  formerCommands : Nat
  deriving Repr, DecidableEq

/-- The command that links a target, behind which the block goes. -/
def linkKeyword : Text :=
  "target_link_libraries".toList

/-- The command in which the older form ran a deployment tool. -/
def formerKeyword : Text :=
  "add_custom_command".toList

/-- The word that tells a deployment command of the older form. -/
def formerNeedle : Text :=
  "deployqt".toList

/-- Whether a text carries one of the markers. -/
def isPatched (text : Text) : Bool :=
  text.hasInfix marker || text.hasInfix formerMarker

/-- Whether the call at a range mentions the deployment tool in any letter case. -/
def mentionsDeployment (text : Text) (call : ByteRange) : Bool :=
  (text.slice? call).any fun command =>
    (Unicode.lowercase command).hasInfix formerNeedle

/-- The deployment commands of the older form, in order. -/
def formerDeployments (text : Text) : List ByteRange :=
  (calls text formerKeyword).filter (mentionsDeployment text)

/-- What is taken out of a text: the last deployment command with its line. -/
def excision? (text : Text) : Option ByteRange := do
  let command ← (formerDeployments text).getLast?
  withLine? text command

/-- The text without the bytes of a range. -/
def remove? (text : Text) (range : ByteRange) : Option Text := do
  let before ← text.before? range.start
  let after ← text.after? range.stop
  some (before ++ after)

/-- The text without its last deployment command of the older form. -/
def cleaned (text : Text) : Text :=
  ((excision? text).bind (remove? text)).getD text

/-- Where the block goes: right behind the parenthesis that closes the last link step. -/
def insertionPoint? (text : Text) : Option Nat := do
  let start ← findLast? text linkKeyword
  let close ← matchingDelimiter? text start '(' ')'
  some (close + 1)

/-- The text with the deployment block at an offset. -/
def insertBlock? (text : Text) (offset : Nat) : Option Text := do
  let (before, after) ← text.splitAtByte? offset
  some (before ++ deploymentBlock ++ after)

/-- Put the deployment block behind the last link step. -/
def patch (text : Text) : Patch :=
  if isPatched text then
    ⟨text, .alreadyPatched, 0⟩
  else
    let former := (formerDeployments text).length
    let base := cleaned text
    match (insertionPoint? base).bind (insertBlock? base) with
    | some patched => ⟨patched, .patched, former⟩
    | none => ⟨text, .anchorMissing, former⟩

end Provision.Descriptor
