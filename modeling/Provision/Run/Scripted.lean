import Provision.Disk.Files
import Provision.Run.Basic

namespace Provision

/-!
# Scripted runners

A scripted runner answers commands from a list of replies. The replies to one
command are given in turn, and the last one again and again. A command without
a reply cannot be run.
-/

/-- A reply to a command, which is told by the line that shows it. -/
structure ScriptedReply where
  shown : String
  outcome : Except SystemError CommandOutput
  /-- What the command creates. -/
  creates : List (Path × Node) := []
  /-- What the command removes. -/
  removes : List Path := []

namespace ScriptedReply

/-- What is on the disk after a reply. A change that is refused is left out. -/
def changed (reply : ScriptedReply) (disk : Disk) (dir : Location) : Disk :=
  reply.removes.foldl
    (fun disk path => (disk.removeTree dir path).toOption.getD disk)
    (disk.createAll dir reply.creates)

/-- The reply to a command that was answered a number of times before. -/
def nth? (replies : List ScriptedReply) (shown : String) (before : Nat) :
    Option ScriptedReply :=
  let own := replies.filter fun reply => reply.shown == shown
  own[before]?.or own.getLast?

/-- The runner that gives the replies of a list. -/
def runner (replies : List ScriptedReply) (dir : Location) (world : World)
    (invocation : Invocation) : Reply :=
  let shown := invocation.shown
  let before := world.calls.countP fun call => call.shown == shown
  match nth? replies shown before with
  | none => { outcome := .error (.other ("no reply for " ++ shown)), disk := world.disk }
  | some reply =>
      match reply.outcome with
      | .error reason => { outcome := .error reason, disk := world.disk }
      | .ok output => { outcome := .ok output, disk := reply.changed world.disk dir }

end ScriptedReply

end Provision
