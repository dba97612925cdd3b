import Provision.Proofs.Run.Steps

namespace Provision

/-!
# Dialogues

A part of a run that prints status lines and runs commands, and does nothing
else, is told by its commands and the replies to them. Every reply is that of
the runner in the world of its command.
-/

/-- What a command prints, if it ends well. -/
def Reply.listing? (reply : Reply) : Option Text :=
  match reply.outcome with
  | .error _ => none
  | .ok output => if output.succeeded then some output.stdout.toList else none

/-- The world when a command was answered. -/
def World.answered
    (world : World)
    (invocation : Invocation)
    (reply : Reply) :
    World :=
  { world with
    calls := world.calls ++ [invocation]
    disk := reply.disk
    out := world.out ++ reply.out
    err := world.err ++ reply.err }

/-- From one world to another by status lines and commands, with their replies. -/
inductive Dialogue (machine : Machine) :
    World → List (Invocation × Reply) → World → Prop where
  | silent (world : World) :
      Dialogue machine world [] world
  | status
      {world after : World}
      {exchanges : List (Invocation × Reply)}
      (line : String)
      (later : Dialogue machine (Run.statusShown line world) exchanges after) :
      Dialogue machine world exchanges after
  | ask
      {world after : World}
      {exchanges : List (Invocation × Reply)}
      (invocation : Invocation)
      (later :
        Dialogue machine
          (world.answered invocation (machine.runner world invocation))
          exchanges after) :
      Dialogue machine world
        ((invocation, machine.runner world invocation) :: exchanges) after

namespace Dialogue

variable {machine : Machine} {world between after : World}

theorem append
    {first second : List (Invocation × Reply)}
    (begins : Dialogue machine world first between)
    (goesOn : Dialogue machine between second after) :
    Dialogue machine world (first ++ second) after := by
  induction begins with
  | silent world =>
      exact goesOn
  | status line later inductionHypothesis =>
      exact .status line (inductionHypothesis goesOn)
  | ask invocation later inductionHypothesis =>
      exact .ask invocation (inductionHypothesis goesOn)

/-- The world keeps the commands of a dialogue, in order. -/
theorem calls
    {exchanges : List (Invocation × Reply)}
    (dialogue : Dialogue machine world exchanges after) :
    after.calls = world.calls ++ exchanges.map Prod.fst := by
  induction dialogue with
  | silent world =>
      simp
  | status line later inductionHypothesis =>
      rw [inductionHypothesis, Run.statusShown_calls]
  | ask invocation later inductionHypothesis =>
      rw [inductionHypothesis, World.answered, List.map_cons, List.append_assoc,
        List.singleton_append]

end Dialogue

@[simp] theorem Run.exec_command
    {machine : Machine}
    {world : World}
    (invocation : Invocation) :
    exec (command invocation) machine world =
      ((machine.runner world invocation).outcome,
        world.answered invocation (machine.runner world invocation)) :=
  rfl

end Provision
