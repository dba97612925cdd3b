import Provision.Proofs.Run.Dialogue

namespace Provision

/-!
# Courses of runs

Whatever a run does, it does in single steps: it prints a line, leaves a
warning, carries out a step of the file system, or runs a command. A course is
told by its commands and the replies to them, and every reply is that of the
runner in the world to which the steps before it led.

What a part of a run ensures is said of the commands of a course that it takes,
of its result, and of the world it leaves. The rules follow the ways in which
parts are put together.
-/

/-- A command of a run with the reply to it. -/
abbrev Exchange := Invocation × Reply

/-- Whether a command ended well. -/
def Reply.endedWell (reply : Reply) : Bool :=
  match reply.outcome with
  | .error _ => false
  | .ok output => output.succeeded

namespace Except

variable {ε δ α β : Type} {outcome : Except ε α}

theorem map_eq_ok_iff
    {change : α → β}
    {result : β} :
    outcome.map change = .ok result ↔
      ∃ given, outcome = .ok given ∧ change given = result := by
  cases outcome <;> simp [Except.map]

theorem map_eq_error_iff
    {change : α → β}
    {failure : ε} :
    outcome.map change = .error failure ↔ outcome = .error failure := by
  cases outcome <;> simp [Except.map]

@[simp] theorem mapError_ok
    (rename : ε → δ)
    (result : α) :
    Except.mapError rename (.ok result) = .ok result :=
  rfl

@[simp] theorem mapError_error
    (rename : ε → δ)
    (reason : ε) :
    (Except.error reason : Except ε α).mapError rename = .error (rename reason) :=
  rfl

theorem mapError_eq_ok_iff
    {rename : ε → δ}
    {result : α} :
    outcome.mapError rename = .ok result ↔ outcome = .ok result := by
  cases outcome <;> simp

theorem mapError_eq_error_iff
    {rename : ε → δ}
    {failure : δ} :
    outcome.mapError rename = .error failure ↔
      ∃ reason, outcome = .error reason ∧ rename reason = failure := by
  cases outcome <;> simp

end Except

/-- Whether one of some commands that is of a kind ended well. -/
def succeeded (kind : Invocation → Bool) (exchanges : List Exchange) : Bool :=
  exchanges.any fun exchange => kind exchange.1 && exchange.2.endedWell

section Kinds

variable {kind : Invocation → Bool} {exchanges : List Exchange}

@[simp] theorem succeeded_nil :
    succeeded kind [] = false :=
  rfl

@[simp] theorem succeeded_cons
    (exchange : Exchange) :
    succeeded kind (exchange :: exchanges) =
      (kind exchange.1 && exchange.2.endedWell || succeeded kind exchanges) :=
  rfl

@[simp] theorem succeeded_append
    (later : List Exchange) :
    succeeded kind (exchanges ++ later) =
      (succeeded kind exchanges || succeeded kind later) :=
  List.any_append

theorem succeeded_eq_true_iff :
    succeeded kind exchanges = true ↔
      ∃ exchange ∈ exchanges, kind exchange.1 = true ∧ exchange.2.endedWell = true := by
  simp [succeeded]

/-- Commands of other kinds are no success of a kind. -/
theorem succeeded_eq_false
    (others : ∀ exchange ∈ exchanges, kind exchange.1 = false) :
    succeeded kind exchanges = false := by
  rw [succeeded, List.any_eq_false]
  intro exchange member
  simp [others exchange member]

end Kinds

namespace Run

/-- The world when an error was reported. -/
def complained (message : String) (world : World) : World :=
  { world with err := world.err ++ "Error: " ++ message ++ "\n" }

/-- The world when a warning was left. -/
def warned (warning : Warning) (world : World) : World :=
  { world with warnings := world.warnings ++ [warning] }

variable {machine : Machine} {world : World}

@[simp] theorem exec_complain
    (message : String) :
    exec (complain message) machine world = ((), complained message world) :=
  rfl

end Run

/-- A single step of a run that is no command. -/
inductive Silent (machine : Machine) (world : World) : World → Prop where
  | status (line : String) :
      Silent machine world (Run.statusShown line world)
  | complaint (message : String) :
      Silent machine world (Run.complained message world)
  | warning (warning : Warning) :
      Silent machine world (Run.warned warning world)
  | fileStep
      {α : Type}
      (step : Disk → Location → Except SystemError (α × Disk)) :
      Silent machine world ((Run.fileStep step).exec machine world).2

/-- From one world to another by the single steps of a run. -/
inductive Course (machine : Machine) : World → List Exchange → World → Prop where
  | done (world : World) :
      Course machine world [] world
  | silent
      {world between after : World}
      {exchanges : List Exchange}
      (step : Silent machine world between)
      (later : Course machine between exchanges after) :
      Course machine world exchanges after
  | ask
      {world after : World}
      {exchanges : List Exchange}
      (invocation : Invocation)
      (later :
        Course machine
          (world.answered invocation (machine.runner world invocation))
          exchanges after) :
      Course machine world
        ((invocation, machine.runner world invocation) :: exchanges) after

section Courses

variable {machine : Machine} {world between after : World}

theorem Silent.calls_eq
    (step : Silent machine world after) :
    after.calls = world.calls := by
  cases step with
  | status line => exact Run.statusShown_calls line
  | complaint message => rfl
  | warning warning => rfl
  | fileStep step =>
      rw [Run.exec_fileStep]
      cases machine.refusal world.fileSteps with
      | some reason => rfl
      | none => cases step world.disk machine.directory <;> rfl

namespace Course

variable {exchanges first second : List Exchange}

/-- One silent step is a course without commands. -/
theorem ofSilent
    (step : Silent machine world after) :
    Course machine world [] after :=
  .silent step (.done after)

theorem append
    (begins : Course machine world first between)
    (goesOn : Course machine between second after) :
    Course machine world (first ++ second) after := by
  induction begins with
  | done world =>
      exact goesOn
  | silent step later inductionHypothesis =>
      exact .silent step (inductionHypothesis goesOn)
  | ask invocation later inductionHypothesis =>
      exact .ask invocation (inductionHypothesis goesOn)

/-- Every reply is that of the runner in some world of the course. -/
theorem answered
    (course : Course machine world exchanges after) :
    ∀ exchange ∈ exchanges, ∃ asked, exchange.2 = machine.runner asked exchange.1 := by
  induction course with
  | done world =>
      exact List.forall_mem_nil _
  | silent step later inductionHypothesis =>
      exact inductionHypothesis
  | @ask world _ _ invocation later inductionHypothesis =>
      exact List.forall_mem_cons.mpr ⟨⟨world, rfl⟩, inductionHypothesis⟩

/-- The world keeps the commands of a course, in order. -/
theorem calls
    (course : Course machine world exchanges after) :
    after.calls = world.calls ++ exchanges.map Prod.fst := by
  induction course with
  | done world =>
      simp
  | silent step later inductionHypothesis =>
      rw [inductionHypothesis, step.calls_eq]
  | ask invocation later inductionHypothesis =>
      rw [inductionHypothesis, World.answered, List.map_cons, List.append_assoc,
        List.singleton_append]

end Course

/-- A dialogue is a course. -/
theorem Dialogue.course
    {exchanges : List Exchange}
    (dialogue : Dialogue machine world exchanges after) :
    Course machine world exchanges after := by
  induction dialogue with
  | silent world => exact .done world
  | status line later inductionHypothesis =>
      exact .silent (.status line) inductionHypothesis
  | ask invocation later inductionHypothesis =>
      exact .ask invocation inductionHypothesis

end Courses

variable {α β : Type} {machine : Machine} {world : World}

namespace Run

/-- A part of a run takes a course with commands, a result and a world as they are told. -/
def Ensures
    (run : Run α)
    (machine : Machine)
    (world : World)
    (holds : List Exchange → α → World → Prop) :
    Prop :=
  ∃ exchanges,
    Course machine world exchanges (run.exec machine world).2 ∧
      holds exchanges (run.exec machine world).1 (run.exec machine world).2

theorem ensures_of_exec
    {run : Run α}
    {result : α}
    {after : World}
    {exchanges : List Exchange}
    {holds : List Exchange → α → World → Prop}
    (executes : run.exec machine world = (result, after))
    (course : Course machine world exchanges after)
    (told : holds exchanges result after) :
    run.Ensures machine world holds := by
  rw [Ensures, executes]
  exact ⟨exchanges, course, told⟩

theorem Ensures.mono
    {run : Run α}
    {weaker stronger : List Exchange → α → World → Prop}
    (ensures : run.Ensures machine world stronger)
    (implies :
      ∀ exchanges result after,
        stronger exchanges result after → weaker exchanges result after) :
    run.Ensures machine world weaker := by
  obtain ⟨exchanges, course, told⟩ := ensures
  exact ⟨exchanges, course, implies _ _ _ told⟩

theorem ensures_pure
    {result : α}
    {holds : List Exchange → α → World → Prop}
    (told : holds [] result world) :
    (pure result : Run α).Ensures machine world holds :=
  ⟨[], .done world, told⟩

theorem ensures_bind
    {first : Run α}
    {next : α → Run β}
    {holds : List Exchange → β → World → Prop}
    (ensures :
      first.Ensures machine world fun exchanges result between =>
        (next result).Ensures machine between fun later =>
          holds (exchanges ++ later)) :
    (first >>= next).Ensures machine world holds := by
  obtain ⟨exchanges, course, later, laterCourse, told⟩ := ensures
  exact ⟨exchanges ++ later, course.append laterCourse, told⟩

theorem ensures_silent
    {run : Run α}
    {holds : List Exchange → α → World → Prop}
    (step : Silent machine world (run.exec machine world).2)
    (told : holds [] (run.exec machine world).1 (run.exec machine world).2) :
    run.Ensures machine world holds :=
  ⟨[], .ofSilent step, told⟩

theorem ensures_status
    {line : String}
    {holds : List Exchange → Unit → World → Prop}
    (told : holds [] () (statusShown line world)) :
    (status line).Ensures machine world holds :=
  ensures_of_exec (exec_status line) (.ofSilent (.status line)) told

/-- A command is answered by the runner in the world in which it is run. -/
theorem ensures_asked
    {invocation : Invocation}
    {holds : List Exchange → Except SystemError CommandOutput → World → Prop}
    (told :
      holds [(invocation, machine.runner world invocation)]
        (machine.runner world invocation).outcome
        (world.answered invocation (machine.runner world invocation))) :
    (command invocation).Ensures machine world holds :=
  ⟨_, .ask invocation (.done _), told⟩

theorem ensures_command
    {invocation : Invocation}
    {holds : List Exchange → Except SystemError CommandOutput → World → Prop}
    (told :
      ∀ reply : Reply,
        holds [(invocation, reply)] reply.outcome
          (world.answered invocation reply)) :
    (command invocation).Ensures machine world holds :=
  ensures_asked (told _)

end Run

namespace Attempt

/-- An attempt takes a course with commands, an outcome and a world as they are told. -/
def Ensures
    (attempt : Attempt α)
    (machine : Machine)
    (world : World)
    (holds : List Exchange → Except Failure α → World → Prop) :
    Prop :=
  Run.Ensures attempt.run machine world holds

theorem Ensures.mono
    {attempt : Attempt α}
    {weaker stronger : List Exchange → Except Failure α → World → Prop}
    (ensures : attempt.Ensures machine world stronger)
    (implies :
      ∀ exchanges outcome after,
        stronger exchanges outcome after → weaker exchanges outcome after) :
    attempt.Ensures machine world weaker :=
  Run.Ensures.mono ensures implies

theorem ensures_of_exec
    {attempt : Attempt α}
    {outcome : Except Failure α}
    {after : World}
    {exchanges : List Exchange}
    {holds : List Exchange → Except Failure α → World → Prop}
    (executes : attempt.exec machine world = (outcome, after))
    (course : Course machine world exchanges after)
    (told : holds exchanges outcome after) :
    attempt.Ensures machine world holds :=
  Run.ensures_of_exec executes course told

theorem ensures_pure
    {result : α}
    {holds : List Exchange → Except Failure α → World → Prop}
    (told : holds [] (.ok result) world) :
    (pure result : Attempt α).Ensures machine world holds :=
  Run.ensures_pure told

theorem ensures_throw
    {failure : Failure}
    {holds : List Exchange → Except Failure α → World → Prop}
    (told : holds [] (.error failure) world) :
    (throw failure : Attempt α).Ensures machine world holds :=
  Run.ensures_pure told

/-- What follows a part that can fail is carried out only if it succeeds. -/
theorem ensures_bind
    {first : Attempt α}
    {next : α → Attempt β}
    {holds : List Exchange → Except Failure β → World → Prop}
    (ensures :
      first.Ensures machine world fun exchanges outcome between =>
        match outcome with
        | .ok result =>
            (next result).Ensures machine between fun later =>
              holds (exchanges ++ later)
        | .error failure => holds exchanges (.error failure) between) :
    (first >>= next).Ensures machine world holds := by
  -- As a part of a run it goes on after a failure, too, but with nothing to do.
  change
    Run.Ensures (first.run >>= fun outcome => ExceptT.bindCont next outcome) machine
      world holds
  refine Run.ensures_bind (Run.Ensures.mono ensures fun exchanges outcome between told => ?_)
  cases outcome with
  | error failure =>
      refine Run.ensures_pure ?_
      rwa [List.append_nil]
  | ok result =>
      exact told

theorem ensures_lift
    {run : Run α}
    {holds : List Exchange → Except Failure α → World → Prop}
    (ensures :
      run.Ensures machine world fun exchanges result after =>
        holds exchanges (.ok result) after) :
    (liftM run : Attempt α).Ensures machine world holds :=
  ensures

theorem ensures_status
    {line : String}
    {holds : List Exchange → Except Failure Unit → World → Prop}
    (told : holds [] (.ok ()) (Run.statusShown line world)) :
    (liftM (Run.status line) : Attempt Unit).Ensures machine world holds :=
  ensures_lift (Run.ensures_status told)

/-- A step that must not fail fails for the reason that the system gave. -/
theorem ensures_orFail
    {failure : SystemError → Failure}
    {step : Run (Except SystemError α)}
    {holds : List Exchange → Except Failure α → World → Prop}
    (ensures :
      step.Ensures machine world fun exchanges outcome after =>
        holds exchanges (outcome.mapError failure) after) :
    (orFail failure step).Ensures machine world holds := by
  obtain ⟨exchanges, course, told⟩ := ensures
  exact ensures_of_exec (exec_orFail failure step) course told

end Attempt

end Provision
