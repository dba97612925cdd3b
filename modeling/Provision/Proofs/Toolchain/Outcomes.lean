import Provision.Proofs.Run.Course
import Provision.Toolchain.Activation

namespace Provision

/-!
# What a toolchain gives

What is found on a search path, and which toolchain is found, depends on the
disk alone. To look takes no command and leaves the disk as it is; the one
command of an activation is that of its script, and what the activation changes
follows from the reply.
-/

/-- Where the search path of an environment finds a program on a disk. -/
def Environment.located
    (env : Environment)
    (machine : Machine)
    (disk : Disk)
    (program : String) :
    Option Path :=
  (SearchPath.candidates machine.home machine.workingDirectory
    (env.var? Variable.path.name) program).find? (disk.isProgram machine.directory)

/-- Programs are found by the search path alone. -/
theorem Environment.located_congr
    {first second : Environment}
    (samePath : first.var? Variable.path.name = second.var? Variable.path.name)
    (machine : Machine)
    (disk : Disk)
    (program : String) :
    first.located machine disk program = second.located machine disk program := by
  rw [located, samePath, located]

variable {machine : Machine} {world : World}

@[simp] theorem Environment.exec_find?
    (env : Environment)
    (program : String) :
    (env.find? program).exec machine world =
      (env.located machine world.disk program, world) :=
  rfl

theorem Environment.ensures_find?
    {env : Environment}
    {program : String}
    {holds : List Exchange → Option Path → World → Prop}
    (told : holds [] (env.located machine world.disk program) world) :
    (env.find? program).Ensures machine world holds :=
  Run.ensures_of_exec (env.exec_find? program) (.done world) told

/-- The entry is added without a command, and at most a warning is left. -/
theorem Environment.ensures_extendPath
    (env : Environment)
    (place : SearchList.Place)
    (dir : Path) :
    (env.extendPath place dir).Ensures machine world fun exchanges extended after =>
      exchanges = [] ∧ extended = env.addPath place dir ∧ after.disk = world.disk := by
  rw [extendPath]
  split
  · exact
      Run.ensures_bind
        (Run.ensures_silent (.warning _) (Run.ensures_pure ⟨rfl, rfl, rfl⟩))
  · exact Run.ensures_pure ⟨rfl, rfl, rfl⟩

@[simp] theorem Run.exec_observe
    {α : Type}
    (look : Disk → Location → α) :
    (Run.observe look).exec machine world =
      (look world.disk machine.directory, world) :=
  rfl

/-- A look at the disk runs no command and changes nothing. -/
theorem Run.ensures_observe
    {α : Type}
    {look : Disk → Location → α}
    {holds : List Exchange → α → World → Prop}
    (told : holds [] (look world.disk machine.directory) world) :
    (Run.observe look).Ensures machine world holds :=
  Run.ensures_of_exec (Run.exec_observe look) (.done world) told

namespace Toolchain

theorem ensures_firstMatch
    (message : String)
    (matching : List Path) :
    (firstMatch message matching).Ensures machine world fun exchanges chosen after =>
      exchanges = [] ∧ chosen = matching.head? ∧ after.disk = world.disk := by
  cases matching with
  | nil =>
      exact Run.ensures_pure ⟨rfl, rfl, rfl⟩
  | cons chosen others =>
      cases others with
      | nil =>
          exact Run.ensures_pure ⟨rfl, rfl, rfl⟩
      | cons other others =>
          refine Run.ensures_bind (Run.ensures_silent (.warning _) ?_)
          exact Run.ensures_pure ⟨rfl, rfl, rfl⟩

/-- The activation script of an edition: at a usual place, or the first one in its tree. -/
def scriptIn? (disk : Disk) (dir : Location) (edition : Path) : Option Path :=
  ((usualScripts edition).find? (disk.isFile dir)).or
    (disk.find dir edition activationScript).head?

theorem ensures_scriptOf
    (edition : Path) :
    (scriptOf edition).Ensures machine world fun exchanges script after =>
      exchanges = [] ∧
        script = scriptIn? world.disk machine.directory edition ∧
        after.disk = world.disk := by
  refine Run.ensures_bind (Run.ensures_observe ?_)
  rw [scriptIn?]
  cases (usualScripts edition).find? (world.disk.isFile machine.directory) with
  | some script =>
      exact Run.ensures_pure ⟨rfl, rfl, rfl⟩
  | none =>
      exact Run.ensures_bind (Run.ensures_observe (ensures_firstMatch _ _))

/-- The toolchain that a disk has: the preferred edition, with its activation script. -/
def located? (settings : ToolchainSettings) (disk : Disk) (dir : Location) :
    Option Installation :=
  (edition? settings disk dir).bind fun edition =>
    (scriptIn? disk dir edition).map fun script => ⟨edition, script⟩

/-- The command that activates an installation for the processor of the host. -/
def Installation.activation (installation : Installation) : Invocation :=
  activationCommand installation.script hostArchitecture

theorem ensures_locate
    (settings : ToolchainSettings) :
    (locate settings).Ensures machine world fun exchanges installation after =>
      exchanges = [] ∧
        installation = located? settings world.disk machine.directory ∧
        after.disk = world.disk := by
  refine Run.ensures_bind (Run.ensures_observe ?_)
  rw [located?]
  cases edition? settings world.disk machine.directory with
  | none =>
      exact Run.ensures_pure ⟨rfl, rfl, rfl⟩
  | some edition =>
      refine Run.ensures_bind ((ensures_scriptOf edition).mono ?_)
      rintro _ script between ⟨rfl, isScript, sameDisk⟩
      refine Run.ensures_pure ⟨rfl, ?_, sameDisk⟩
      rw [isScript, Option.bind_some]

/--
The compiler that an activated environment has, and the environment where it is
found: on the search path, or in the tree of the edition, with its directory put
in front of the search path.
-/
def compilerIn
    (machine : Machine)
    (disk : Disk)
    (root : Path)
    (compiler : String)
    (env : Environment) :
    Option Path × Environment :=
  match env.located machine disk compiler with
  | some found => (some found, env)
  | none =>
      match (disk.find machine.directory root compiler).head? with
      | none => (none, env)
      | some found =>
          match found.parent? with
          | none => (some found, env)
          | some dir => (some found, env.addPath .front dir)

section CompilerIn

variable {disk : Disk} {compiler : String} {env : Environment}

theorem compilerIn_of_located
    {path : Path}
    (found : env.located machine disk compiler = some path)
    (root : Path) :
    compilerIn machine disk root compiler env = (some path, env) := by
  rw [compilerIn, found]

/-- A compiler that is not on the search path is searched for in the edition. -/
theorem compilerIn_of_not_located
    (notFound : env.located machine disk compiler = none)
    (root : Path) :
    compilerIn machine disk root compiler env =
      ((disk.find machine.directory root compiler).head?,
        ((disk.find machine.directory root compiler).head?.bind Path.parent?).elim env
          (env.addPath .front)) := by
  rw [compilerIn, notFound]
  cases (disk.find machine.directory root compiler).head? with
  | none => rfl
  | some found =>
      dsimp only [Option.bind_some]
      cases found.parent? <;> rfl

/-- The search for the compiler takes at most a directory in. -/
theorem compilerIn_environment
    (machine : Machine)
    (disk : Disk)
    (root : Path)
    (compiler : String)
    (env : Environment) :
    (compilerIn machine disk root compiler env).2 = env ∨
      ∃ dir, (compilerIn machine disk root compiler env).2 = env.addPath .front dir := by
  cases before : env.located machine disk compiler with
  | some path =>
      rw [compilerIn_of_located before]
      exact .inl rfl
  | none =>
      rw [compilerIn_of_not_located before]
      cases (disk.find machine.directory root compiler).head?.bind Path.parent? with
      | none => exact .inl rfl
      | some dir => exact .inr ⟨dir, rfl⟩

/-- Where the compiler is on the search path in the end, it was found. -/
theorem isSome_compilerIn
    {root path : Path}
    (found :
      (compilerIn machine disk root compiler env).2.located machine disk compiler =
        some path) :
    (compilerIn machine disk root compiler env).1.isSome = true := by
  cases before : env.located machine disk compiler with
  | some path =>
      rw [compilerIn_of_located before]
      rfl
  | none =>
      rw [compilerIn_of_not_located before] at found ⊢
      cases searched : (disk.find machine.directory root compiler).head? with
      | some first => rfl
      | none =>
          rw [searched, Option.bind_none, Option.elim_none, before] at found
          cases found

end CompilerIn

theorem ensures_findCompiler
    (root : Path)
    (compiler : String)
    (env : Environment) :
    (findCompiler root compiler env).Ensures machine world fun exchanges result after =>
      exchanges = [] ∧
        result = compilerIn machine world.disk root compiler env ∧
        after.disk = world.disk := by
  refine Run.ensures_bind (Environment.ensures_find? ?_)
  rw [compilerIn]
  cases env.located machine world.disk compiler with
  | some found =>
      exact Run.ensures_pure ⟨rfl, rfl, rfl⟩
  | none =>
      refine Run.ensures_bind (Run.ensures_status ?_)
      refine Run.ensures_bind (Run.ensures_observe ?_)
      rw [Run.statusShown_disk]
      refine Run.ensures_bind ((ensures_firstMatch _ _).mono ?_)
      rintro _ found between ⟨rfl, rfl, sameDisk⟩
      rw [Run.statusShown_disk] at sameDisk
      cases (world.disk.find machine.directory root compiler).head? with
      | none =>
          exact Run.ensures_pure ⟨rfl, rfl, sameDisk⟩
      | some found =>
          dsimp only
          cases found.parent? with
          | none =>
              exact Run.ensures_pure ⟨rfl, rfl, sameDisk⟩
          | some dir =>
              refine Run.ensures_bind ((env.ensures_extendPath .front dir).mono ?_)
              rintro _ extended extendedWorld ⟨rfl, rfl, stillSame⟩
              refine Run.ensures_bind (Run.ensures_status (Run.ensures_pure ⟨rfl, rfl, ?_⟩))
              rw [Run.statusShown_disk, stillSame, sameDisk]

/-- The activation that follows from the reply to the command of the script. -/
def activationAfter
    (machine : Machine)
    (root : Path)
    (compiler : String)
    (env : Environment)
    (reply : Reply) :
    Option Activation :=
  match reply.outcome with
  | .error _ => none
  | .ok output =>
      if output.succeeded then
        let result :=
          compilerIn machine reply.disk root compiler (readDump env output.stdout)
        some ⟨result.2.pending, result.1⟩
      else
        none

theorem activationAfter_of_error
    {reply : Reply}
    {reason : SystemError}
    (fails : reply.outcome = .error reason)
    (root : Path)
    (compiler : String)
    (env : Environment) :
    activationAfter machine root compiler env reply = none := by
  unfold activationAfter
  rw [fails]

theorem activationAfter_of_ok
    {reply : Reply}
    {output : CommandOutput}
    (ends : reply.outcome = .ok output)
    (root : Path)
    (compiler : String)
    (env : Environment) :
    activationAfter machine root compiler env reply =
      if output.succeeded then
        let result :=
          compilerIn machine reply.disk root compiler (readDump env output.stdout)
        some ⟨result.2.pending, result.1⟩
      else
        none := by
  unfold activationAfter
  rw [ends]

/-- The output of commands apart, an activation follows from what the reply comes to. -/
theorem activationAfter_congr
    {reply other : Reply}
    (sameOutcome : reply.outcome = other.outcome)
    (sameDisk : reply.disk = other.disk)
    (root : Path)
    (compiler : String)
    (env : Environment) :
    activationAfter machine root compiler env reply =
      activationAfter machine root compiler env other := by
  rw [activationAfter, sameOutcome, sameDisk, activationAfter]

theorem ensures_activate
    (script : Path)
    (architecture : String)
    (root : Path)
    (compiler : String)
    (env : Environment) :
    (activate script architecture root compiler env).Ensures machine world
      fun exchanges activation after =>
        let reply := machine.runner world (activationCommand script architecture)
        exchanges = [(activationCommand script architecture, reply)] ∧
          activation = activationAfter machine root compiler env reply ∧
          after.disk = reply.disk := by
  refine Run.ensures_bind (Run.ensures_asked ?_)
  generalize machine.runner world (activationCommand script architecture) = reply
  have answeredDisk
      (line : String) :
      (Run.statusShown line
        (world.answered (activationCommand script architecture) reply)).disk =
          reply.disk := by
    rw [Run.statusShown_disk, World.answered]
  cases outcome : reply.outcome with
  | error reason =>
      refine
        Run.ensures_bind (Run.ensures_status (Run.ensures_pure ⟨rfl, ?_, answeredDisk _⟩))
      rw [activationAfter_of_error outcome]
  | ok output =>
      dsimp only
      split
      · rename_i succeeds
        refine Run.ensures_bind (Run.ensures_status ?_)
        refine Run.ensures_bind ((ensures_findCompiler root compiler _).mono ?_)
        rintro _ _ between ⟨rfl, rfl, sameDisk⟩
        rw [answeredDisk] at sameDisk
        refine Run.ensures_pure ⟨rfl, ?_, sameDisk⟩
        rw [activationAfter_of_ok outcome, if_pos succeeds, answeredDisk]
      · rename_i fails
        refine
          Run.ensures_bind (Run.ensures_status (Run.ensures_pure ⟨rfl, ?_, answeredDisk _⟩))
        rw [activationAfter_of_ok outcome, if_neg fails]

end Toolchain

end Provision
