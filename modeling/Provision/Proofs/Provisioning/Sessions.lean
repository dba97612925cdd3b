import Mathlib.Data.List.Forall2
import Provision.Proofs.Run.Course
import Provision.Provisioning.Provision

namespace Provision

/-!
# Courses of sessions

A part of a session begins and ends at a moment: with what the session keeps,
in a world. What it ensures is said of the commands of the course it takes, of
its result, and of the moment at which it ends. Steps that follow each other in
a list end with the first one that fails.
-/

/-- Where a part of a session begins or ends. -/
structure Moment where
  session : Session
  world : World

/-- The moment when a status line was printed. -/
def Moment.told (moment : Moment) (line : String) : Moment :=
  { moment with world := Run.statusShown line moment.world }

/-- The moment when an error was reported. -/
def Moment.complained (moment : Moment) (message : String) : Moment :=
  { moment with world := Run.complained message moment.world }

@[simp] theorem Moment.told_session
    (moment : Moment)
    (line : String) :
    (moment.told line).session = moment.session :=
  rfl

@[simp] theorem Moment.complained_session
    (moment : Moment)
    (message : String) :
    (moment.complained message).session = moment.session :=
  rfl

@[simp] theorem Moment.told_disk
    (moment : Moment)
    (line : String) :
    (moment.told line).world.disk = moment.world.disk :=
  Run.statusShown_disk line

@[simp] theorem Moment.complained_disk
    (moment : Moment)
    (message : String) :
    (moment.complained message).world.disk = moment.world.disk :=
  rfl

/-- What a part of a session gives back, and where it ends. -/
def SessionRun.exec
    (part : SessionRun α)
    (machine : Machine)
    (start : Moment) :
    α × Moment :=
  let ((result, session), world) := Run.exec (part.run start.session) machine start.world
  (result, ⟨session, world⟩)

/-- What a part of a session that can fail gives back, and where it ends. -/
def SessionAttempt.exec
    (part : SessionAttempt α)
    (machine : Machine)
    (start : Moment) :
    Except Failure α × Moment :=
  SessionRun.exec part.run machine start

variable {α β : Type} {machine : Machine} {start : Moment}

/-- Whether the user goes on; nobody is asked if the answer is assumed. -/
def Machine.answer (machine : Machine) (moment : Moment) : Except Failure Bool :=
  if moment.session.assumeYes then
    .ok true
  else
    (machine.confirmation moment.world).mapError .promptFailed

/-- There is an answer if it is assumed, or else if the user can be asked. -/
theorem Machine.answer_eq_error
    {machine : Machine}
    {moment : Moment}
    {failure : Failure}
    (fails : machine.answer moment = .error failure) :
    moment.session.assumeYes = false ∧ ∃ reason, failure = .promptFailed reason := by
  rw [answer] at fails
  split at fails
  · cases fails
  · rename_i asks
    obtain ⟨reason, -, rfl⟩ := Except.mapError_eq_error_iff.mp fails
    exact ⟨Bool.eq_false_iff.mpr asks, reason, rfl⟩

namespace SessionRun

/-- A part of a session takes a course as it is told. -/
def Ensures
    (part : SessionRun α)
    (machine : Machine)
    (start : Moment)
    (holds : List Exchange → α → Moment → Prop) :
    Prop :=
  ∃ exchanges,
    Course machine start.world exchanges (part.exec machine start).2.world ∧
      holds exchanges (part.exec machine start).1 (part.exec machine start).2

theorem Ensures.mono
    {part : SessionRun α}
    {weaker stronger : List Exchange → α → Moment → Prop}
    (ensures : part.Ensures machine start stronger)
    (implies :
      ∀ exchanges result finish,
        stronger exchanges result finish → weaker exchanges result finish) :
    part.Ensures machine start weaker := by
  obtain ⟨exchanges, course, told⟩ := ensures
  exact ⟨exchanges, course, implies _ _ _ told⟩

/-- What a part ensures, it ensures of its execution. -/
theorem Ensures.traced
    {part : SessionRun α}
    {holds : List Exchange → α → Moment → Prop}
    (ensures : part.Ensures machine start holds) :
    part.Ensures machine start fun exchanges result finish =>
      part.exec machine start = (result, finish) ∧
        Course machine start.world exchanges finish.world ∧
        holds exchanges result finish := by
  obtain ⟨exchanges, course, told⟩ := ensures
  exact ⟨exchanges, course, rfl, course, told⟩

theorem ensures_pure
    {result : α}
    {holds : List Exchange → α → Moment → Prop}
    (told : holds [] result start) :
    (pure result : SessionRun α).Ensures machine start holds :=
  ⟨[], .done _, told⟩

theorem ensures_bind
    {first : SessionRun α}
    {next : α → SessionRun β}
    {holds : List Exchange → β → Moment → Prop}
    (ensures :
      first.Ensures machine start fun exchanges result middle =>
        (next result).Ensures machine middle fun later =>
          holds (exchanges ++ later)) :
    (first >>= next).Ensures machine start holds := by
  obtain ⟨exchanges, course, later, laterCourse, told⟩ := ensures
  exact ⟨exchanges ++ later, course.append laterCourse, told⟩

theorem ensures_env
    {holds : List Exchange → Environment → Moment → Prop}
    (told : holds [] start.session.env start) :
    SessionRun.env.Ensures machine start holds :=
  ⟨[], .done _, told⟩

theorem ensures_setEnv
    {environment : Environment}
    {holds : List Exchange → Unit → Moment → Prop}
    (told :
      holds [] ()
        { start with session := { start.session with env := environment } }) :
    (setEnv environment).Ensures machine start holds :=
  ⟨[], .done _, told⟩

/-- A part of a run, as a part of a session, leaves what the session keeps. -/
theorem ensures_lift
    {run : Run α}
    {holds : List Exchange → α → Moment → Prop}
    (ensures :
      run.Ensures machine start.world fun exchanges result after =>
        holds exchanges result { start with world := after }) :
    (liftM run : SessionRun α).Ensures machine start holds :=
  ensures

theorem ensures_status
    {line : String}
    {holds : List Exchange → Unit → Moment → Prop}
    (told : holds [] () (start.told line)) :
    (liftM (Run.status line) : SessionRun Unit).Ensures machine start holds :=
  ensures_lift (Run.ensures_status told)

/-- Items that are dealt with one after the other, each of them with a result. -/
theorem ensures_mapM
    {part : α → SessionRun β}
    {gives : α → β → Prop}
    {items : List α}
    (keeps : Moment → List Exchange → Moment → Prop)
    (refl : ∀ moment, keeps moment [] moment)
    (trans :
      ∀ {first middle last exchanges later},
        keeps first exchanges middle →
          keeps middle later last →
            keeps first (exchanges ++ later) last)
    (ensures :
      ∀ item begun,
        (part item).Ensures machine begun fun exchanges result finish =>
          gives item result ∧ keeps begun exchanges finish) :
    (items.mapM part).Ensures machine start fun exchanges results finish =>
      List.Forall₂ gives items results ∧ keeps start exchanges finish := by
  induction items generalizing start with
  | nil =>
      exact ensures_pure ⟨.nil, refl start⟩
  | cons item items inductionHypothesis =>
      rw [List.mapM_cons]
      refine ensures_bind ((ensures item start).mono ?_)
      rintro exchanges result middle ⟨given, kept⟩
      refine ensures_bind (inductionHypothesis.mono ?_)
      rintro later results finish ⟨restGiven, restKept⟩
      refine ensures_pure ⟨.cons given restGiven, ?_⟩
      rw [List.append_nil]
      exact trans kept restKept

end SessionRun

namespace SessionAttempt

/-- A part of a session that can fail takes a course as it is told. -/
def Ensures
    (part : SessionAttempt α)
    (machine : Machine)
    (start : Moment)
    (holds : List Exchange → Except Failure α → Moment → Prop) :
    Prop :=
  SessionRun.Ensures part.run machine start holds

theorem Ensures.mono
    {part : SessionAttempt α}
    {weaker stronger : List Exchange → Except Failure α → Moment → Prop}
    (ensures : part.Ensures machine start stronger)
    (implies :
      ∀ exchanges outcome finish,
        stronger exchanges outcome finish → weaker exchanges outcome finish) :
    part.Ensures machine start weaker :=
  SessionRun.Ensures.mono ensures implies

/-- What a part ensures, it ensures of its execution. -/
theorem Ensures.traced
    {part : SessionAttempt α}
    {holds : List Exchange → Except Failure α → Moment → Prop}
    (ensures : part.Ensures machine start holds) :
    part.Ensures machine start fun exchanges outcome finish =>
      part.exec machine start = (outcome, finish) ∧
        Course machine start.world exchanges finish.world ∧
        holds exchanges outcome finish :=
  SessionRun.Ensures.traced ensures

theorem Ensures.of_exec
    {part : SessionAttempt α}
    {outcome : Except Failure α}
    {finish : Moment}
    {holds : List Exchange → Except Failure α → Moment → Prop}
    (ensures : part.Ensures machine start holds)
    (executes : part.exec machine start = (outcome, finish)) :
    ∃ exchanges,
      Course machine start.world exchanges finish.world ∧
        holds exchanges outcome finish := by
  obtain ⟨exchanges, -, runs, course, told⟩ := ensures.traced
  cases runs.symm.trans executes
  exact ⟨exchanges, course, told⟩

/-- A part succeeds if something can be seen of its result. -/
theorem exists_exec_eq_ok
    {part : SessionAttempt α}
    {view : α → β}
    {seen : β}
    (shows : (part.exec machine start).1.toOption.map view = some seen) :
    ∃ result finish,
      part.exec machine start = (.ok result, finish) ∧ view result = seen := by
  obtain ⟨result, isOk, sees⟩ := Option.map_eq_some_iff.mp shows
  rcases executes : part.exec machine start with ⟨_ | other, finish⟩
  · rw [executes] at isOk
    cases isOk
  · rw [executes] at isOk
    cases isOk
    exact ⟨result, finish, rfl, sees⟩

theorem ensures_pure
    {result : α}
    {holds : List Exchange → Except Failure α → Moment → Prop}
    (told : holds [] (.ok result) start) :
    (pure result : SessionAttempt α).Ensures machine start holds :=
  SessionRun.ensures_pure told

/-- What follows a part that can fail is carried out only if it succeeds. -/
@[simp] theorem exec_bind
    (first : SessionAttempt α)
    (next : α → SessionAttempt β) :
    exec (first >>= next) machine start =
      match first.exec machine start with
      | (.ok result, middle) => (next result).exec machine middle
      | (.error failure, middle) => (.error failure, middle) := by
  change
    SessionRun.exec (first.run >>= fun outcome => ExceptT.bindCont next outcome)
        machine start = _
  change
    SessionRun.exec (ExceptT.bindCont next (first.exec machine start).1) machine
        (first.exec machine start).2 = _
  rcases first.exec machine start with ⟨_ | _, middle⟩ <;> rfl

theorem ensures_bind
    {first : SessionAttempt α}
    {next : α → SessionAttempt β}
    {holds : List Exchange → Except Failure β → Moment → Prop}
    (ensures :
      first.Ensures machine start fun exchanges outcome middle =>
        match outcome with
        | .ok result =>
            (next result).Ensures machine middle fun later =>
              holds (exchanges ++ later)
        | .error failure => holds exchanges (.error failure) middle) :
    (first >>= next).Ensures machine start holds := by
  change
    SessionRun.Ensures (first.run >>= fun outcome => ExceptT.bindCont next outcome)
      machine start holds
  refine
    SessionRun.ensures_bind
      (SessionRun.Ensures.mono ensures fun exchanges outcome middle told => ?_)
  cases outcome with
  | error failure =>
      refine SessionRun.ensures_pure ?_
      rwa [List.append_nil]
  | ok result =>
      exact told

/-- Where only the result is changed behind a part, its outcome is. -/
theorem ensures_bind_pure
    {part : SessionAttempt α}
    {change : α → β}
    {holds : List Exchange → Except Failure β → Moment → Prop}
    (ensures :
      part.Ensures machine start fun exchanges outcome finish =>
        holds exchanges (outcome.map change) finish) :
    (part >>= fun result => pure (change result)).Ensures machine start holds := by
  refine ensures_bind (ensures.mono fun exchanges outcome finish told => ?_)
  cases outcome with
  | error failure =>
      exact told
  | ok result =>
      refine ensures_pure ?_
      rwa [List.append_nil]

theorem ensures_get
    {holds : List Exchange → Except Failure Session → Moment → Prop}
    (told : holds [] (.ok start.session) start) :
    (get : SessionAttempt Session).Ensures machine start holds :=
  SessionRun.ensures_pure told

theorem ensures_modify
    {change : Session → Session}
    {holds : List Exchange → Except Failure Unit → Moment → Prop}
    (told : holds [] (.ok ()) { start with session := change start.session }) :
    (modify change : SessionAttempt Unit).Ensures machine start holds :=
  ⟨[], .done _, told⟩

/-- A part of a session that always comes to its end, as one that can fail. -/
theorem ensures_lift
    {part : SessionRun α}
    {holds : List Exchange → Except Failure α → Moment → Prop}
    (ensures :
      part.Ensures machine start fun exchanges result finish =>
        holds exchanges (.ok result) finish) :
    (liftM part : SessionAttempt α).Ensures machine start holds :=
  ensures

/-- A part of a run, as a part of a session that can fail. -/
theorem ensures_liftRun
    {run : Run α}
    {holds : List Exchange → Except Failure α → Moment → Prop}
    (ensures :
      run.Ensures machine start.world fun exchanges result after =>
        holds exchanges (.ok result) { start with world := after }) :
    (liftM run : SessionAttempt α).Ensures machine start holds :=
  ensures

theorem ensures_status
    {line : String}
    {holds : List Exchange → Except Failure Unit → Moment → Prop}
    (told : holds [] (.ok ()) (start.told line)) :
    (liftM (Run.status line) : SessionAttempt Unit).Ensures machine start holds :=
  ensures_liftRun (Run.ensures_status told)

theorem ensures_complain
    {message : String}
    {holds : List Exchange → Except Failure Unit → Moment → Prop}
    (told : holds [] (.ok ()) (start.complained message)) :
    (liftM (Run.complain message) : SessionAttempt Unit).Ensures machine start holds :=
  ensures_liftRun
    (Run.ensures_of_exec (Run.exec_complain message) (.ofSilent (.complaint message)) told)

/-- The user is asked unless the answer is assumed, and nothing changes. -/
theorem ensures_goesOn
    {holds : List Exchange → Except Failure Bool → Moment → Prop}
    (told : holds [] (machine.answer start) start) :
    goesOn.Ensures machine start holds := by
  refine ensures_bind (ensures_get ?_)
  dsimp only
  rw [Machine.answer] at told
  cases assumed : start.session.assumeYes with
  | true =>
      rw [if_pos assumed] at told
      exact ensures_pure told
  | false =>
      rw [if_neg (Bool.eq_false_iff.mp assumed)] at told
      have asked :
          Run.confirmation.exec machine start.world =
            (machine.confirmation start.world, start.world) :=
        rfl
      refine ensures_bind (ensures_liftRun (Run.ensures_of_exec asked (.done _) ?_))
      cases answer : machine.confirmation start.world with
      | ok goesOn =>
          rw [answer] at told
          exact ensures_pure told
      | error reason =>
          rw [answer] at told
          exact SessionRun.ensures_pure told

/-- An attempt of a run leaves what the session keeps. -/
theorem ensures_ofAttempt
    {attempt : Attempt α}
    {holds : List Exchange → Except Failure α → Moment → Prop}
    (ensures :
      attempt.Ensures machine start.world fun exchanges outcome after =>
        holds exchanges outcome { start with world := after }) :
    (ofAttempt attempt).Ensures machine start holds :=
  ensures

theorem ensures_outcome
    {part : SessionAttempt α}
    {holds : List Exchange → Except Failure (Except Failure α) → Moment → Prop}
    (ensures :
      part.Ensures machine start fun exchanges outcome finish =>
        holds exchanges (.ok outcome) finish) :
    part.outcome.Ensures machine start holds :=
  ensures

/-- Failures get another name, and nothing else changes. -/
theorem ensures_orIsolatedFailure
    {part : SessionAttempt α}
    {holds : List Exchange → Except Failure α → Moment → Prop}
    (ensures :
      part.Ensures machine start fun exchanges outcome finish =>
        holds exchanges (outcome.mapError Provisioning.isolatedFailure) finish) :
    (Provisioning.orIsolatedFailure part).Ensures machine start holds := ensures

end SessionAttempt

/--
Items that are dealt with in turn: each at the moment where the one before it
ended, and none after the first that fails. There is one list of commands for
each item that is reached.
-/
inductive InTurn
    (each : α → Moment → List Exchange → Except Failure β → Moment → Prop) :
    List α → Moment → List (List Exchange) → Except Failure (List β) → Moment → Prop where
  | done (start : Moment) :
      InTurn each [] start [] (.ok []) start
  | goesOn
      {item : α}
      {items : List α}
      {start middle finish : Moment}
      {exchanges : List Exchange}
      {segments : List (List Exchange)}
      {result : β}
      {outcome : Except Failure (List β)}
      (first : each item start exchanges (.ok result) middle)
      (rest : InTurn each items middle segments outcome finish) :
      InTurn each (item :: items) start (exchanges :: segments)
        (outcome.map (result :: ·)) finish
  | stops
      {item : α}
      {items : List α}
      {start finish : Moment}
      {exchanges : List Exchange}
      {failure : Failure}
      (first : each item start exchanges (.error failure) finish) :
      InTurn each (item :: items) start [exchanges] (.error failure) finish

namespace SessionAttempt

/-- What each item ensures, a list of them ensures in turn. -/
theorem ensures_mapM
    {part : α → SessionAttempt β}
    {each : α → Moment → List Exchange → Except Failure β → Moment → Prop}
    {items : List α}
    (ensures :
      ∀ item ∈ items, ∀ begun, (part item).Ensures machine begun (each item begun)) :
    (items.mapM part).Ensures machine start fun exchanges outcome finish =>
      ∃ segments,
        exchanges = segments.flatten ∧
          InTurn each items start segments outcome finish := by
  induction items generalizing start with
  | nil =>
      exact ensures_pure ⟨[], rfl, .done start⟩
  | cons item items inductionHypothesis =>
      rw [List.mapM_cons]
      obtain ⟨firstEnsures, restEnsures⟩ := List.forall_mem_cons.mp ensures
      refine ensures_bind ((firstEnsures start).mono fun exchanges outcome middle first => ?_)
      cases outcome with
      | error failure =>
          exact ⟨[exchanges], by simp, .stops first⟩
      | ok result =>
          refine ensures_bind ((inductionHypothesis restEnsures).mono ?_)
          rintro later outcome finish ⟨segments, rfl, rest⟩
          cases outcome with
          | error failure =>
              exact ⟨exchanges :: segments, rfl, .goesOn first rest⟩
          | ok results =>
              exact ensures_pure ⟨exchanges :: segments, by simp, .goesOn first rest⟩

end SessionAttempt

end Provision
