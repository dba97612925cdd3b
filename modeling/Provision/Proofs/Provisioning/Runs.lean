import Provision.Proofs.Provisioning.Steps

namespace Provision

/-!
# Whole provisioning runs

A run looks at the tools first, which gives the plan, and then carries out the
steps of the plan in turn. So the commands of a run are those of the planning
and then, step by step, those of the steps that are reached.
-/

namespace InTurn

variable {α β : Type} {machine : Machine} {start middle finish : Moment}
  {each : α → Moment → List Exchange → Except Failure β → Moment → Prop}
  {items front back : List α} {segments : List (List Exchange)}
  {outcome : Except Failure (List β)}

/-- Items that take courses take one together. -/
theorem course
    (inTurn : InTurn each items start segments outcome finish)
    (courses :
      ∀ item begun exchanges outcome ended,
        each item begun exchanges outcome ended →
          Course machine begun.world exchanges ended.world) :
    Course machine start.world segments.flatten finish.world := by
  induction inTurn with
  | done start => exact .done _
  | goesOn first rest inductionHypothesis =>
      exact (courses _ _ _ _ _ first).append inductionHypothesis
  | stops first =>
      rw [List.flatten_singleton]
      exact courses _ _ _ _ _ first

/-- Items that are determined by the execution of a part are carried out by `mapM`. -/
theorem exec_mapM
    {part : α → SessionAttempt β}
    (inTurn : InTurn each items start segments outcome finish)
    (determined :
      ∀ item begun exchanges outcome ended,
        each item begun exchanges outcome ended →
          (part item).exec machine begun = (outcome, ended)) :
    (items.mapM part).exec machine start = (outcome, finish) := by
  induction inTurn with
  | done start => rfl
  | @goesOn _ _ _ _ _ _ _ _ outcome first rest inductionHypothesis =>
      rw [List.mapM_cons, SessionAttempt.exec_bind, determined _ _ _ _ _ first]
      dsimp only
      rw [SessionAttempt.exec_bind, inductionHypothesis]
      cases outcome <;> rfl
  | stops first =>
      rw [List.mapM_cons, SessionAttempt.exec_bind, determined _ _ _ _ _ first]

/-- The first items fail, or the others begin where they end. -/
theorem append_cases
    (inTurn : InTurn each (front ++ back) start segments outcome finish) :
    (∃ failure,
        outcome = .error failure ∧
          InTurn each front start segments (.error failure) finish) ∨
      ∃ before after results rest middle,
        segments = before ++ after ∧
          outcome = rest.map (results ++ ·) ∧
          InTurn each front start before (.ok results) middle ∧
          InTurn each back middle after rest finish := by
  -- By the first items, not by the derivation: it may end among them or behind them.
  induction front generalizing start segments outcome with
  | nil =>
      refine .inr ⟨[], segments, [], outcome, start, rfl, ?_, .done start, inTurn⟩
      cases outcome <;> rfl
  | cons item items inductionHypothesis =>
      cases inTurn with
      | stops failed => exact .inl ⟨_, rfl, .stops failed⟩
      | goesOn succeeds continued =>
          rcases inductionHypothesis continued with
            ⟨failure, rfl, frontInTurn⟩ |
              ⟨before, after, results, rest, middle, rfl, rfl, frontInTurn, backInTurn⟩
          · exact .inl ⟨failure, rfl, .goesOn succeeds frontInTurn⟩
          · refine
              .inr
                ⟨_ :: before, after, _ :: results, rest, middle, rfl, ?_,
                  .goesOn succeeds frontInTurn, backInTurn⟩
            cases rest <;> rfl

/-- Every segment is that of an item. -/
theorem exists_of_mem
    {exchanges : List Exchange}
    (inTurn : InTurn each items start segments outcome finish)
    (member : exchanges ∈ segments) :
    ∃ item ∈ items, ∃ begun outcome ended, each item begun exchanges outcome ended := by
  induction inTurn with
  | done start => cases member
  | goesOn first rest inductionHypothesis =>
      rcases List.mem_cons.mp member with rfl | inRest
      · exact ⟨_, List.mem_cons_self, _, _, _, first⟩
      · obtain ⟨item, isItem, dealtWith⟩ := inductionHypothesis inRest
        exact ⟨item, List.mem_cons_of_mem _ isItem, dealtWith⟩
  | stops first =>
      cases List.mem_singleton.mp member
      exact ⟨_, List.mem_cons_self, _, _, _, first⟩

/-- What each item makes of its commands, the items that are reached make in order. -/
theorem forall₂_segments
    {makes : α → List Exchange → Prop}
    (inTurn : InTurn each items start segments outcome finish)
    (made :
      ∀ item ∈ items, ∀ begun exchanges outcome ended,
        each item begun exchanges outcome ended → makes item exchanges) :
    List.Forall₂ makes (items.take segments.length) segments := by
  induction inTurn with
  | done start => exact .nil
  | goesOn first rest inductionHypothesis =>
      obtain ⟨firstMade, restMade⟩ := List.forall_mem_cons.mp made
      exact .cons (firstMade _ _ _ _ first) (inductionHypothesis restMade)
  | stops first =>
      exact .cons ((List.forall_mem_cons.mp made).1 _ _ _ _ first) (by simp)

/-- Where all items succeed, each has a result. -/
theorem forall₂_results
    {results : List β}
    {gives : α → β → Prop}
    (inTurn : InTurn each items start segments (.ok results) finish)
    (given :
      ∀ item ∈ items, ∀ begun exchanges result ended,
        each item begun exchanges (.ok result) ended → gives item result) :
    List.Forall₂ gives items results := by
  generalize isOk : Except.ok results = outcome at inTurn
  induction inTurn generalizing results with
  | done start =>
      cases isOk
      exact .nil
  | goesOn first rest inductionHypothesis =>
      obtain ⟨firstGiven, restGiven⟩ := List.forall_mem_cons.mp given
      obtain ⟨others, rfl, rfl⟩ := Except.map_eq_ok_iff.mp isOk.symm
      exact .cons (firstGiven _ _ _ _ first) (inductionHypothesis restGiven rfl)
  | stops first => cases isOk

end InTurn

/-- A step that a run carries out. -/
structure Stepped
    (platform : Platform)
    (settings : Settings)
    (machine : Machine)
    (step : PlanStep)
    (start : Moment)
    (exchanges : List Exchange)
    (outcome : Except Failure (ToolStatus × Option Qt.Resolution))
    (finish : Moment) :
    Prop where
  runs :
    (Provisioning.carryOut platform settings step).exec machine start = (outcome, finish)
  course : Course machine start.world exchanges finish.world
  carried : Carried platform settings machine step start exchanges outcome finish

/-- What a run leaves when all steps of its plan succeeded. -/
def Provisioned.ofResults
    (environment : Environment)
    (results : List (ToolStatus × Option Qt.Resolution)) :
    Provisioned where
  statuses := results.map Prod.fst
  resolution := (results.filterMap Prod.snd).getLast?
  environment := environment

/-- What is resolved last is what the run gives. -/
theorem Provisioned.resolution_ofResults
    {done : List (ToolStatus × Option Qt.Resolution)}
    (unresolved : ∀ given ∈ done, given.2 = none)
    (environment : Environment)
    (result : ToolStatus × Option Qt.Resolution) :
    (ofResults environment (done ++ [result])).resolution = result.2 := by
  have nothing : done.filterMap Prod.snd = [] :=
    List.filterMap_eq_nil_iff.mpr unresolved
  rw [ofResults, List.filterMap_append, nothing, List.nil_append]
  obtain ⟨status, resolution⟩ := result
  cases resolution <;> rfl

namespace Provisioning

/-- The moment when a run has announced itself. -/
def checking (platform : Platform) (moment : Moment) : Moment :=
  moment.told ("Checking dependencies for " ++ platform.name ++ "...")

end Provisioning

/-- The parts of a provisioning run. -/
structure ProvisioningRun
    (platform : Platform)
    (settings : Settings)
    (machine : Machine)
    (start : Moment)
    (planning : List Exchange)
    (plan : List PlanStep)
    (planned : Moment)
    (segments : List (List Exchange))
    (results : Except Failure (List (ToolStatus × Option Qt.Resolution)))
    (finish : Moment) :
    Prop where
  builds :
    (InstallPlan.build platform settings).exec machine
        (Provisioning.checking platform start) =
      (plan, planned)
  planningCourse : Course machine start.world planning planned.world
  steps : List.Forall₂ Planned Tool.all plan
  inspected : Inspected platform start.session planning planned.session
  inTurn : InTurn (Stepped platform settings machine) plan planned segments results finish
  ends :
    (Provisioning.provision platform settings).exec machine start =
      (results.map (Provisioned.ofResults finish.session.env), finish)

/-- Every provisioning run has these parts. -/
theorem exists_provisioningRun
    (platform : Platform)
    (settings : Settings)
    (machine : Machine)
    (start : Moment) :
    ∃ planning plan planned segments results finish,
      ProvisioningRun platform settings machine start planning plan planned segments
        results finish := by
  have stepped
      (step : PlanStep)
      (begun : Moment) :
      (Provisioning.carryOut platform settings step).Ensures machine begun
        (Stepped platform settings machine step begun) :=
    (Provisioning.ensures_carryOut platform settings step).traced.mono
      fun _ _ _ ⟨runs, course, carried⟩ => ⟨runs, course, carried⟩
  have ensures :
      (Provisioning.provision platform settings).Ensures machine start
        fun exchanges outcome finish =>
          ∃ planning plan planned segments results,
            outcome = results.map (Provisioned.ofResults finish.session.env) ∧
              (InstallPlan.build platform settings).exec machine
                  (Provisioning.checking platform start) =
                (plan, planned) ∧
              Course machine (Provisioning.checking platform start).world planning
                planned.world ∧
              List.Forall₂ Planned Tool.all plan ∧
              Inspected platform start.session planning planned.session ∧
              InTurn (Stepped platform settings machine) plan planned segments results
                finish := by
    refine SessionAttempt.ensures_bind (SessionAttempt.ensures_status ?_)
    refine
      SessionAttempt.ensures_bind
        (SessionAttempt.ensures_lift
          ((InstallPlan.ensures_build platform settings).traced.mono ?_))
    rintro planning plan planned ⟨builds, planningCourse, steps, inspected⟩
    refine
      SessionAttempt.ensures_bind
        ((SessionAttempt.ensures_mapM fun step _ begun => stepped step begun).mono ?_)
    rintro _ results finish ⟨segments, rfl, inTurn⟩
    cases results with
    | error failure =>
        exact
          ⟨planning, plan, planned, segments, _, rfl, builds, planningCourse, steps,
            inspected, inTurn⟩
    | ok results =>
        refine
          SessionAttempt.ensures_bind
            (SessionAttempt.ensures_lift (SessionRun.ensures_env ?_))
        refine SessionAttempt.ensures_pure ?_
        exact
          ⟨planning, plan, planned, segments, _, rfl, builds, planningCourse, steps,
            inspected, inTurn⟩
  rcases ends : (Provisioning.provision platform settings).exec machine start with
    ⟨outcome, finish⟩
  obtain ⟨_, -, planning, plan, planned, segments, results, rfl, builds, planningCourse,
    steps, inspected, inTurn⟩ := ensures.of_exec ends
  refine
    ⟨planning, plan, planned, segments, results, finish, builds, ?_, steps, inspected,
      inTurn, ends⟩
  exact Course.append (.ofSilent (.status _)) planningCourse

/-- A run comes to a step of its plan at a moment, all steps before it carried out. -/
def Reaches
    (platform : Platform)
    (settings : Settings)
    (machine : Machine)
    (start : Moment)
    (step : PlanStep)
    (moment : Moment) :
    Prop :=
  ∃ front back planned results,
    (InstallPlan.build platform settings).exec machine
          (Provisioning.checking platform start) =
        (front ++ step :: back, planned) ∧
      (front.mapM (Provisioning.carryOut platform settings)).exec machine planned =
        (.ok results, moment)

/-- How a run comes to the step of Qt, which is its last. -/
structure ComesToQt
    (platform : Platform)
    (settings : Settings)
    (machine : Machine)
    (plan : List PlanStep)
    (planned : Moment)
    (segments : List (List Exchange))
    (results : Except Failure (List (ToolStatus × Option Qt.Resolution)))
    (finish : Moment)
    (front : List PlanStep)
    (qt : PlanStep)
    (before : List (List Exchange))
    (last : List Exchange)
    (done : List (ToolStatus × Option Qt.Resolution))
    (outcome : Except Failure (ToolStatus × Option Qt.Resolution))
    (moment : Moment) :
    Prop where
  plan_eq : plan = front ++ [qt]
  segments_eq : segments = before ++ [last]
  results_eq : results = outcome.map fun result => done ++ [result]
  ordinary : List.Forall₂ Planned Tool.ordinary front
  isQt : Planned .guiRuntime qt
  inTurn : InTurn (Stepped platform settings machine) front planned before (.ok done) moment
  stepped : Stepped platform settings machine qt moment last outcome finish

/-- Before Qt nothing is resolved. -/
theorem ComesToQt.unresolved
    {platform : Platform}
    {settings : Settings}
    {machine : Machine}
    {planned moment finish : Moment}
    {plan front : List PlanStep}
    {qt : PlanStep}
    {segments before : List (List Exchange)}
    {last : List Exchange}
    {results : Except Failure (List (ToolStatus × Option Qt.Resolution))}
    {done : List (ToolStatus × Option Qt.Resolution)}
    {outcome : Except Failure (ToolStatus × Option Qt.Resolution)}
    (comes :
      ComesToQt platform settings machine plan planned segments results finish front qt
        before last done outcome moment) :
    ∀ given ∈ done, given.2 = none := by
  have unresolved :
      List.Forall₂ (fun _ given => given.2 = none ∧ True) front done :=
    comes.inTurn.forall₂_results fun _ member _ _ _ _ stepped =>
      ⟨stepped.carried.unresolved (Planned.of_mem comes.ordinary member)
        (Planned.ne_guiRuntime comes.ordinary member), trivial⟩
  exact ((List.forall₂_and_left _ _).mp unresolved.flip).1

namespace ProvisioningRun

variable {platform : Platform} {settings : Settings} {machine : Machine}
  {start planned finish : Moment} {planning : List Exchange} {plan : List PlanStep}
  {segments : List (List Exchange)}
  {results : Except Failure (List (ToolStatus × Option Qt.Resolution))}

theorem course
    (run :
      ProvisioningRun platform settings machine start planning plan planned segments
        results finish) :
    Course machine start.world (planning ++ segments.flatten) finish.world :=
  run.planningCourse.append (run.inTurn.course fun _ _ _ _ _ => Stepped.course)

/-- The step of Qt is the last one in turn. -/
theorem comesToQt
    {front : List PlanStep}
    {qt : PlanStep}
    {moment : Moment}
    {before after : List (List Exchange)}
    {done : List (ToolStatus × Option Qt.Resolution)}
    {rest : Except Failure (List (ToolStatus × Option Qt.Resolution))}
    (ordinary : List.Forall₂ Planned Tool.ordinary front)
    (isQt : Planned .guiRuntime qt)
    (frontTurn :
      InTurn (Stepped platform settings machine) front planned before (.ok done) moment)
    (qtTurn : InTurn (Stepped platform settings machine) [qt] moment after rest finish) :
    ∃ last outcome,
      ComesToQt platform settings machine (front ++ [qt]) planned (before ++ after)
        (rest.map (done ++ ·)) finish front qt before last done outcome moment := by
  cases qtTurn with
  | stops stepped =>
      exact ⟨_, _, rfl, rfl, rfl, ordinary, isQt, frontTurn, stepped⟩
  | goesOn stepped later =>
      cases later
      exact ⟨_, _, rfl, rfl, rfl, ordinary, isQt, frontTurn, stepped⟩

/-- A run fails with an ordinary tool, or it comes to Qt. -/
theorem ordinary_or_qt
    (run :
      ProvisioningRun platform settings machine start planning plan planned segments
        results finish) :
    (∃ front failure,
        results = .error failure ∧
          List.Forall₂ Planned Tool.ordinary front ∧
          InTurn (Stepped platform settings machine) front planned segments
            (.error failure) finish) ∨
      ∃ front qt before last done outcome moment,
        ComesToQt platform settings machine plan planned segments results finish front qt
          before last done outcome moment := by
  obtain ⟨front, qt, rfl, ordinary, isQt⟩ := Planned.exists_split run.steps
  rcases run.inTurn.append_cases with
    ⟨failure, isError, frontTurn⟩ |
      ⟨before, after, done, rest, moment, rfl, rfl, frontTurn, qtTurn⟩
  · exact .inl ⟨front, failure, isError, ordinary, frontTurn⟩
  · obtain ⟨last, outcome, comes⟩ := comesToQt ordinary isQt frontTurn qtTurn
    exact .inr ⟨front, qt, before, last, done, outcome, moment, comes⟩

/-- A run that succeeds comes to Qt. -/
theorem of_ok
    {results : List (ToolStatus × Option Qt.Resolution)}
    (run :
      ProvisioningRun platform settings machine start planning plan planned segments
        (.ok results) finish) :
    ∃ front qt before last done result moment,
      results = done ++ [result] ∧
        ComesToQt platform settings machine plan planned segments (.ok results) finish front
          qt before last done (.ok result) moment := by
  rcases run.ordinary_or_qt with
    ⟨_, _, isError, -⟩ | ⟨front, qt, before, last, done, outcome, moment, comes⟩
  · cases isError
  · obtain ⟨result, rfl, isResults⟩ := Except.map_eq_ok_iff.mp comes.results_eq.symm
    exact ⟨front, qt, before, last, done, result, moment, isResults.symm, comes⟩

/-- From a step that it comes to, a run goes on with that step. -/
theorem from_reached
    {step : PlanStep}
    {moment : Moment}
    (run :
      ProvisioningRun platform settings machine start planning plan planned segments
        results finish)
    (reaches : Reaches platform settings machine start step moment) :
    ∃ front back before after done rest,
      plan = front ++ step :: back ∧
        segments = before ++ after ∧
        results = rest.map (done ++ ·) ∧
        InTurn (Stepped platform settings machine) front planned before (.ok done)
          moment ∧
        InTurn (Stepped platform settings machine) (step :: back) moment after rest
          finish := by
  obtain ⟨front, back, planned', done, builds, reached⟩ := reaches
  -- There is one plan, and its first steps are executed in one way.
  cases run.builds.symm.trans builds
  rcases run.inTurn.append_cases with
    ⟨failure, -, frontTurn⟩ |
      ⟨before, after, done', rest, middle, splits, outcome, frontTurn, backTurn⟩
  · have fails := frontTurn.exec_mapM fun _ _ _ _ _ => Stepped.runs
    cases reached.symm.trans fails
  · have succeeds := frontTurn.exec_mapM fun _ _ _ _ _ => Stepped.runs
    cases reached.symm.trans succeeds
    exact
      ⟨front, back, before, after, done, rest, rfl, splits, outcome, frontTurn, backTurn⟩

/-- A run that reaches the step of Qt comes to Qt by it. -/
theorem reached_qt
    {step : PlanStep}
    {moment : Moment}
    (run :
      ProvisioningRun platform settings machine start planning plan planned segments
        results finish)
    (reaches : Reaches platform settings machine start step moment)
    (isQt : step.tool = .guiRuntime) :
    ∃ front before last done outcome,
      ComesToQt platform settings machine plan planned segments results finish front step
        before last done outcome moment := by
  obtain ⟨front, back, before, after, done, rest, rfl, rfl, rfl, frontTurn, qtTurn⟩ :=
    run.from_reached reaches
  cases Planned.back_eq_nil run.steps isQt
  obtain ⟨front', qt, splits, ordinary, isPlanned⟩ := Planned.exists_split run.steps
  obtain ⟨rfl, same⟩ := List.append_inj' splits rfl
  cases same
  obtain ⟨last, outcome, comes⟩ := comesToQt ordinary isPlanned frontTurn qtTurn
  exact ⟨front, before, last, done, outcome, comes⟩

/-- A run that comes to Qt reaches its step. -/
theorem reaches_qt
    {front : List PlanStep}
    {qt : PlanStep}
    {before : List (List Exchange)}
    {last : List Exchange}
    {done : List (ToolStatus × Option Qt.Resolution)}
    {outcome : Except Failure (ToolStatus × Option Qt.Resolution)}
    {moment : Moment}
    (run :
      ProvisioningRun platform settings machine start planning plan planned segments
        results finish)
    (comes :
      ComesToQt platform settings machine plan planned segments results finish front qt
        before last done outcome moment) :
    Reaches platform settings machine start qt moment :=
  ⟨front, [], planned, done, comes.plan_eq ▸ run.builds,
    comes.inTurn.exec_mapM fun _ _ _ _ _ => Stepped.runs⟩

end ProvisioningRun

end Provision
