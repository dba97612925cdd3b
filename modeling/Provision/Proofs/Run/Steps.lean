import Provision.Run.Console

namespace Provision

/-!
# What a run leaves behind

A part of a run is carried out on a machine in a world. It gives back a result
and leaves a world; an attempt may also give back a failure, and then the rest
of it is left out.
-/

/-- What a part of a run gives back, and the world it leaves. -/
def Run.exec
    (run : Run α)
    (machine : Machine)
    (world : World) :
    α × World :=
  (run.run machine).run world

/-- What an attempt gives back, and the world it leaves. -/
def Attempt.exec
    (attempt : Attempt α)
    (machine : Machine)
    (world : World) :
    Except Failure α × World :=
  Run.exec attempt.run machine world

/-- A machine that refuses no step of the file system and runs no command. -/
def Machine.idle : Machine where
  runner world _ := { outcome := .error .notFound, disk := world.disk }

variable {machine : Machine} {world : World} {α β : Type}

namespace Run

@[simp] theorem exec_pure
    (result : α) :
    exec (pure result) machine world = (result, world) :=
  rfl

@[simp] theorem exec_bind
    (first : Run α)
    (next : α → Run β) :
    exec (first >>= next) machine world =
      exec (next (first.exec machine world).1) machine
        (first.exec machine world).2 :=
  rfl

@[simp] theorem exec_read :
    exec read machine world = (machine, world) :=
  rfl

@[simp] theorem exec_get :
    exec get machine world = (world, world) :=
  rfl

@[simp] theorem exec_set
    (other : World) :
    exec (set other) machine world = ((), other) :=
  rfl

@[simp] theorem exec_modify
    (change : World → World) :
    exec (modify change) machine world = ((), change world) :=
  rfl

/-- The world when a status line was printed. -/
def statusShown (line : String) (world : World) : World :=
  if world.quiet then world else { world with out := world.out ++ (line ++ "\n") }

@[simp] theorem exec_status
    (line : String) :
    exec (status line) machine world = ((), statusShown line world) := by
  simp only [status, exec_bind, exec_get, statusShown]
  split <;> simp_all [printLine, print]

@[simp] theorem exec_inform
    (message : String) :
    exec (inform message) machine world = ((), statusShown message world) :=
  exec_status message

@[simp] theorem exec_confirm
    (message : String) :
    exec (confirm message) machine world =
      ((), statusShown ("✓ " ++ message) world) :=
  exec_status _

@[simp] theorem exec_caution
    (message : String) :
    exec (caution message) machine world =
      ((), statusShown ("Warning: " ++ message) world) :=
  exec_status _

@[simp] theorem exec_isFile
    (path : Path) :
    exec (isFile path) machine world =
      (world.disk.isFile machine.directory path, world) :=
  rfl

@[simp] theorem statusShown_disk
    (line : String) :
    (statusShown line world).disk = world.disk := by
  rw [statusShown]
  split <;> rfl

@[simp] theorem statusShown_calls
    (line : String) :
    (statusShown line world).calls = world.calls := by
  rw [statusShown]
  split <;> rfl

/-- A part that can fail goes on only with a result. -/
theorem exec_run_bind
    {ε : Type}
    (first : ExceptT ε Run α)
    (next : α → ExceptT ε Run β) :
    exec (first >>= next).run machine world =
      match exec first.run machine world with
      | (.ok result, after) => exec (next result).run machine after
      | (.error failure, after) => (.error failure, after) := by
  change
    exec (first.run >>= fun outcome => ExceptT.bindCont next outcome) machine
      world = _
  rw [exec_bind]
  obtain ⟨outcome, after⟩ := exec first.run machine world
  cases outcome <;> rfl

/-- What succeeds is what follows a step that succeeds. -/
theorem exec_mk_bind_ok
    {ε : Type}
    {step : Run (Except ε α)}
    {next : α → ExceptT ε Run β}
    {result : β}
    {after : World}
    (succeeds :
      exec (ExceptT.mk step >>= next).run machine world = (.ok result, after)) :
    ∃ middle between,
      step.exec machine world = (.ok middle, between) ∧
        exec (next middle).run machine between = (.ok result, after) := by
  rw [exec_run_bind, ExceptT.run_mk] at succeeds
  rcases shape : step.exec machine world with ⟨outcome, between⟩
  rw [shape] at succeeds
  cases outcome with
  | error failure => cases succeeds
  | ok middle => exact ⟨middle, between, rfl, succeeds⟩

/-- What fails does so in the first step or behind it. -/
theorem exec_mk_bind_error
    {ε : Type}
    {step : Run (Except ε α)}
    {next : α → ExceptT ε Run β}
    {failure : ε}
    {after : World}
    (fails :
      exec (ExceptT.mk step >>= next).run machine world =
        (.error failure, after)) :
    step.exec machine world = (.error failure, after) ∨
      ∃ middle between,
        step.exec machine world = (.ok middle, between) ∧
          exec (next middle).run machine between = (.error failure, after) := by
  rw [exec_run_bind, ExceptT.run_mk] at fails
  rcases shape : step.exec machine world with ⟨outcome, between⟩
  rw [shape] at fails
  cases outcome with
  | error reason =>
      cases fails
      exact .inl rfl
  | ok middle => exact .inr ⟨middle, between, rfl, fails⟩

/-- The world when a step of the file system was asked for. -/
def stepped (world : World) : World :=
  { world with fileSteps := world.fileSteps + 1 }

/-- What a step of the file system gives back, and what it leaves. -/
theorem exec_fileStep
    (step : Disk → Location → Except SystemError (α × Disk)) :
    (fileStep step).exec machine world =
      match machine.refusal world.fileSteps with
      | some reason => (.error reason, stepped world)
      | none =>
          match step world.disk machine.directory with
          | .error reason => (.error reason, stepped world)
          | .ok (result, disk) =>
              (.ok result, { stepped world with disk := disk }) := by
  simp only [fileStep, exec_bind, exec_read, exec_get, exec_set]
  cases machine.refusal world.fileSteps with
  | some reason => rfl
  | none =>
      cases step world.disk machine.directory with
      | error reason => rfl
      | ok pair => rfl

/-- A step of the file system that succeeds was allowed on the disk as it was. -/
theorem fileStep_ok
    {step : Disk → Location → Except SystemError (α × Disk)}
    {result : α}
    {after : World}
    (succeeds : (fileStep step).exec machine world = (.ok result, after)) :
    step world.disk machine.directory = .ok (result, after.disk) := by
  rw [exec_fileStep] at succeeds
  split at succeeds
  · cases succeeds
  · split at succeeds
    · cases succeeds
    · rename_i allowed
      cases succeeds
      exact allowed

/-- A step of the file system that fails changes nothing on the disk. -/
theorem fileStep_error
    {step : Disk → Location → Except SystemError (α × Disk)}
    {reason : SystemError}
    {after : World}
    (fails : (fileStep step).exec machine world = (.error reason, after)) :
    after.disk = world.disk := by
  rw [exec_fileStep] at fails
  split at fails
  · cases fails
    rfl
  · split at fails
    · cases fails
      rfl
    · cases fails

theorem readStep_ok
    {look : Disk → Location → Except SystemError α}
    {result : α}
    {after : World}
    (succeeds : (readStep look).exec machine world = (.ok result, after)) :
    look world.disk machine.directory = .ok result ∧
      after.disk = world.disk := by
  have allowed := fileStep_ok succeeds
  cases looked : look world.disk machine.directory with
  | error reason =>
      rw [looked] at allowed
      cases allowed
  | ok found =>
      rw [looked, Except.map, Except.ok.injEq, Prod.mk.injEq] at allowed
      exact ⟨congrArg Except.ok allowed.1, allowed.2.symm⟩

theorem readStep_error
    {look : Disk → Location → Except SystemError α}
    {reason : SystemError}
    {after : World}
    (fails : (readStep look).exec machine world = (.error reason, after)) :
    after.disk = world.disk :=
  fileStep_error fails

/-- A look at the disk that the system allows. -/
theorem exec_readStep
    (allowed : machine.refusal world.fileSteps = none)
    (look : Disk → Location → Except SystemError α) :
    (readStep look).exec machine world =
      (look world.disk machine.directory, stepped world) := by
  rw [readStep, exec_fileStep, allowed]
  cases look world.disk machine.directory <;> rfl

/-- A change of the disk that the system allows. -/
theorem exec_writeStep_ok
    {change : Disk → Location → Except SystemError Disk}
    {disk : Disk}
    (allowed : machine.refusal world.fileSteps = none)
    (changes : change world.disk machine.directory = .ok disk) :
    (writeStep change).exec machine world =
      (.ok (), { stepped world with disk := disk }) := by
  rw [writeStep, exec_fileStep, allowed, changes]
  rfl

theorem writeStep_ok
    {change : Disk → Location → Except SystemError Disk}
    {after : World}
    (succeeds : (writeStep change).exec machine world = (.ok (), after)) :
    change world.disk machine.directory = .ok after.disk := by
  have allowed := fileStep_ok succeeds
  cases changed : change world.disk machine.directory with
  | error reason =>
      rw [changed] at allowed
      cases allowed
  | ok disk =>
      rw [changed] at allowed
      cases allowed
      rfl

theorem writeStep_error
    {change : Disk → Location → Except SystemError Disk}
    {reason : SystemError}
    {after : World}
    (fails : (writeStep change).exec machine world = (.error reason, after)) :
    after.disk = world.disk :=
  fileStep_error fails

end Run

namespace Attempt

@[simp] theorem exec_pure
    (result : α) :
    exec (pure result) machine world = (.ok result, world) :=
  rfl

@[simp] theorem exec_bind
    (first : Attempt α)
    (next : α → Attempt β) :
    exec (first >>= next) machine world =
      match first.exec machine world with
      | (.ok result, after) => (next result).exec machine after
      | (.error failure, after) => (.error failure, after) := by
  have asRun : Run.exec first.run machine world = first.exec machine world := rfl
  rw [exec, Run.exec_run_bind, asRun]
  rcases first.exec machine world with ⟨_ | _, after⟩ <;> rfl

/-- A part of a run that cannot fail, as an attempt. -/
@[simp] theorem exec_lift
    (run : Run α) :
    exec (liftM run) machine world =
      (.ok (run.exec machine world).1, (run.exec machine world).2) :=
  rfl

@[simp] theorem exec_liftExcept
    (outcome : Except Failure α) :
    exec (liftM outcome) machine world = (outcome, world) := by
  cases outcome <;> rfl

/-- A step that must not fail fails for the reason that the system gave. -/
@[simp] theorem exec_orFail
    (failure : SystemError → Failure)
    (step : Run (Except SystemError α)) :
    exec (orFail failure step) machine world =
      ((step.exec machine world).1.mapError failure,
        (step.exec machine world).2) := by
  rw [orFail, exec_bind, exec_lift]
  cases (step.exec machine world).1 <;> rfl

end Attempt

end Provision
