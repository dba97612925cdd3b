import Provision.Proofs.Provisioning.Runs

namespace Provision

/-!
# What a session keeps

Whatever is run during a session, its user has assented to the same as before,
and what the process started with is left alone. On Unix nothing is changed in
the environment at all, until the programs of a resolved Qt go to the end of the
search path.
-/

/-- What a session keeps while tools are looked at and installed. -/
structure SessionKept
    (platform : Platform)
    (before after : Session) :
    Prop where
  assumeYes : after.assumeYes = before.assumeYes
  base : after.env.base = before.env.base
  onUnix : platform = .unix → after.env = before.env

section Parts

variable {platform : Platform} {settings : Settings} {machine : Machine}
  {start finish : Moment} {exchanges : List Exchange} {before between after : Session}

namespace SessionKept

theorem refl
    (platform : Platform)
    (session : Session) :
    SessionKept platform session session where
  assumeYes := rfl
  base := rfl
  onUnix _ := rfl

theorem trans
    (first : SessionKept platform before between)
    (second : SessionKept platform between after) :
    SessionKept platform before after where
  assumeYes := second.assumeYes.trans first.assumeYes
  base := second.base.trans first.base
  onUnix isUnix := (second.onUnix isUnix).trans (first.onUnix isUnix)

end SessionKept

theorem Inspected.sessionKept
    (inspected : Inspected platform before exchanges after) :
    SessionKept platform before after where
  assumeYes := inspected.assumeYes
  base := inspected.base
  onUnix := inspected.onUnix

theorem PackagesInstalled.sessionKept
    {tool : String}
    {packages : List String}
    {outcome : Except Failure Unit}
    (installed : PackagesInstalled tool packages before exchanges outcome after)
    (platform : Platform) :
    SessionKept platform before after where
  assumeYes := installed.assumeYes
  base := congrArg Environment.base installed.env
  onUnix _ := installed.env

theorem Prepared.sessionKept
    {outcome : Except Failure Unit}
    (prepared : Prepared machine platform start exchanges outcome finish) :
    SessionKept platform start.session finish.session := by
  cases prepared with
  | notNeeded => exact .refl .windows _
  | unavailable missing => exact .refl .unix _
  | packages found installed => exact installed.sessionKept .unix

theorem PlatformInstalled.sessionKept
    {tool : Tool}
    {outcome : Except Failure (Option Qt.Resolution)}
    (installed :
      PlatformInstalled settings machine platform tool start exchanges outcome finish) :
    SessionKept platform start.session finish.session := by
  cases installed with
  | packages ordinary installed => exact installed.sessionKept .unix
  | noQtPackages installed => exact installed.sessionKept .unix
  | qtPackages installed inspected =>
      exact (installed.sessionKept .unix).trans inspected.sessionKept
  | guided inspected => exact inspected.sessionKept
  | unanswered asks => exact .refl .windows _
  | interpreter ordinary notGuided installers => exact .refl .windows _
  | index through => exact .refl .windows _

theorem Isolated.sessionKept
    {outcome : Except Failure Qt.Resolution}
    (isolated : Isolated platform settings machine start exchanges outcome finish) :
    SessionKept platform start.session finish.session := by
  cases isolated with
  | unprepared prepared => exact prepared.sessionKept
  | homeless prepared noPlace => exact prepared.sessionKept
  | through prepared place through => exact prepared.sessionKept

theorem ToolInstalled.sessionKept
    {step : PlanStep}
    {outcome : Except Failure (Option Qt.Resolution)}
    (installed :
      ToolInstalled platform settings machine step start exchanges outcome finish) :
    SessionKept platform start.session finish.session := by
  cases installed with
  | byPlatform notIsolated final runs installed => exact installed.sessionKept
  | again isQt notIsolated fails installed runs isolated =>
      exact installed.sessionKept.trans isolated.sessionKept
  | isolated isIsolated isolated => exact isolated.sessionKept

/-- Nothing but the programs of a resolved Qt comes to the environment. -/
theorem Carried.sessionKept
    {step : PlanStep}
    {result : ToolStatus × Option Qt.Resolution}
    (carried : Carried platform settings machine step start exchanges (.ok result) finish) :
    match result.2 with
    | none => SessionKept platform start.session finish.session
    | some resolution =>
        ∃ middle dir,
          settings.qt.installPlace? machine.home = some dir ∧
            SessionKept platform start.session middle ∧
            finish.session.env = middle.env.addPath .back (Qt.binDir dir resolution) := by
  cases carried with
  | skipped skips kept =>
      rw [kept]
      exact .refl platform _
  | probed begun installed sameTool inspected =>
      exact installed.sessionKept.trans inspected.sessionKept
  | registered begun installed place registered =>
      exact ⟨_, _, place, installed.sessionKept, registered.env⟩

/-- Whatever a step comes to, its user has assented to the same as before. -/
theorem Carried.assumeYes
    {step : PlanStep}
    {outcome : Except Failure (ToolStatus × Option Qt.Resolution)}
    (carried : Carried platform settings machine step start exchanges outcome finish) :
    finish.session.assumeYes = start.session.assumeYes := by
  cases carried with
  | skipped skips kept => rw [kept]
  | failed begun installed => exact installed.sessionKept.assumeYes
  | probed begun installed sameTool inspected =>
      exact inspected.assumeYes.trans installed.sessionKept.assumeYes
  | registered begun installed place registered =>
      exact registered.assumeYes.trans installed.sessionKept.assumeYes

end Parts

section Runs

variable {platform : Platform} {settings : Settings} {machine : Machine}
  {start planned finish : Moment} {planning : List Exchange} {plan : List PlanStep}
  {segments : List (List Exchange)}
  {outcome : Except Failure (List (ToolStatus × Option Qt.Resolution))}

theorem InTurn.assumeYes
    (inTurn : InTurn (Stepped platform settings machine) plan start segments outcome finish) :
    finish.session.assumeYes = start.session.assumeYes := by
  induction inTurn with
  | done start => rfl
  | goesOn first rest inductionHypothesis =>
      exact inductionHypothesis.trans first.carried.assumeYes
  | stops first => exact first.carried.assumeYes

/-- Steps that resolve nothing keep the session. -/
theorem InTurn.sessionKept
    {results : List (ToolStatus × Option Qt.Resolution)}
    (inTurn :
      InTurn (Stepped platform settings machine) plan start segments (.ok results) finish)
    (unresolved : ∀ given ∈ results, given.2 = none) :
    SessionKept platform start.session finish.session := by
  generalize isOk : Except.ok results = outcome at inTurn
  induction inTurn generalizing results with
  | done start => exact .refl platform _
  | goesOn first rest inductionHypothesis =>
      obtain ⟨others, rfl, rfl⟩ := Except.map_eq_ok_iff.mp isOk.symm
      obtain ⟨firstUnresolved, restUnresolved⟩ := List.forall_mem_cons.mp unresolved
      have kept := first.carried.sessionKept
      rw [firstUnresolved] at kept
      exact kept.trans (inductionHypothesis restUnresolved rfl)
  | stops first => cases isOk

/-- At every step that it comes to, a run assumes the answers that it did at its start. -/
theorem ProvisioningRun.assumeYes
    {step : PlanStep}
    {moment : Moment}
    (run :
      ProvisioningRun platform settings machine start planning plan planned segments
        outcome finish)
    (reaches : Reaches platform settings machine start step moment) :
    moment.session.assumeYes = start.session.assumeYes := by
  obtain ⟨_, _, _, _, _, _, -, -, -, inTurn, -⟩ := run.from_reached reaches
  exact inTurn.assumeYes.trans run.inspected.assumeYes

end Runs

end Provision
