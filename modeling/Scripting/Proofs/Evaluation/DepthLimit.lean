import Scripting.Proofs.Evaluation.Failures

namespace Scripting

/-!
# The limit on nested calls

A call of a function is refused when as many calls are active as may be, and in no other case.  A
refusal is passed on to the end of the run.  A run in which no call is refused takes the same steps
with a higher limit.  All this is about scripts that run no other scripts, for these start to count
anew.
-/

/-- The options with another limit on nested calls. -/
def Options.withMaxDepth (options : Options) (maxDepth : Int) : Options :=
  { options with maxDepth }

/-- The session with another limit on nested calls. -/
def Session.withMaxDepth (session : Session) (maxDepth : Int) : Session :=
  { session with options := session.options.withMaxDepth maxDepth }

/-- The environment with another limit on nested calls. -/
def Environment.withMaxDepth (environment : Environment) (maxDepth : Int) : Environment :=
  { environment with options := environment.options.withMaxDepth maxDepth }

namespace Environment

variable (environment : Environment) (maxDepth : Int)

@[simp] theorem numericTruth_withMaxDepth :
    (environment.withMaxDepth maxDepth).options.numericTruth = environment.options.numericTruth :=
  rfl

@[simp] theorem cancelled_withMaxDepth (state : State) :
    (environment.withMaxDepth maxDepth).cancelled state = environment.cancelled state :=
  rfl

end Environment

namespace Evaluation

/-- Whether a task is to run a script from within a script. -/
def Task.isNested : Task → Bool
  | .nested .. => true
  | _ => false

theorem depth_hoist (origin : Nat) (items : List Item) (state : State) :
    (hoist origin items state).state.depth = state.depth := by
  induction items generalizing state with
  | nil =>
      rfl
  | cons first rest inductionHypothesis =>
      cases first with
      | function declaration =>
          simp only [hoist, defineFunction]
          split
          · exact inductionHypothesis _
          · rfl
          · split
            · exact inductionHypothesis _
            · rfl
      | type declaration =>
          exact inductionHypothesis _
      | statement inner =>
          exact inductionHypothesis _

namespace Step

/-- No script is run from within a script during a step. -/
def RunsAlone (start : Step) : Prop :=
  ∀ calls step, start.Leads calls step → step.task.isNested = false

instance (start : Step) : Decidable start.RunsAlone :=
  decidable_of_iff (start.throughout (fun step => !step.task.isNested) start.fuel = true) <| by
    simp [throughout_iff, RunsAlone]

theorem RunsAlone.of_taken
    {step taken : Step}
    (alone : step.RunsAlone)
    (member : taken ∈ step.substeps) :
    taken.RunsAlone :=
  fun _ reached leads => alone _ reached ((Leads.takes .here member).trans leads)

/-- Where no script is run from within a script, the environment stays the same and the depth of
calls grows with the calls that are active. -/
theorem Edge.depth_eq
    {step taken : Step}
    (edge : step.Edge taken)
    (notNested : step.task.isNested = false) :
    taken.environment = step.environment ∧
      taken.state.depth = step.state.depth + step.task.opens.length ∧
      (step.task.opens = [] ∨ step.state.depth < step.environment.options.depthLimit) := by
  cases edge with
  | part part sameEnvironment alongside =>
      rw [part.opens_eq]
      exact ⟨sameEnvironment, alongside.depth, .inl rfl⟩
  | body calls _ sameEnvironment _ deeper allowed =>
      rw [calls]
      exact ⟨sameEnvironment, deeper, .inr allowed⟩
  | @content script runs _ sameEnvironment hoists =>
      rw [runs]
      refine ⟨sameEnvironment, ?_, .inl rfl⟩
      have sameDepth := depth_hoist script.origin script.file.items step.state
      rw [hoists] at sameDepth
      exact sameDepth
  | nested runs =>
      rw [runs] at notNested
      cases notNested

/-- The depth of calls counts the calls that are active, and no more are active than may be. -/
theorem Leads.depth_eq
    {start step : Step}
    {calls : List ActiveCall}
    (leads : start.Leads calls step)
    (alone : start.RunsAlone)
    (allowed : start.state.depth ≤ start.environment.options.depthLimit) :
    step.environment = start.environment ∧
      step.state.depth = start.state.depth + calls.length ∧
      step.state.depth ≤ start.environment.options.depthLimit := by
  induction leads with
  | here =>
      exact ⟨rfl, rfl, allowed⟩
  | @takes calls step taken earlier member inductionHypothesis =>
      obtain ⟨sameEnvironment, depthEq, withinLimit⟩ := inductionHypothesis
      obtain ⟨takenEnvironment, takenDepth, opened⟩ :=
        (edge_of_mem member).depth_eq (alone calls step earlier)
      rw [sameEnvironment] at takenEnvironment opened
      refine ⟨takenEnvironment, ?_, ?_⟩
      · rw [takenDepth, depthEq, List.length_append, Nat.add_assoc]
      · rcases Task.opens_cases step.task with closed | ⟨position, callee, arguments, called⟩
        · rw [takenDepth, closed]
          exact withinLimit
        · rw [called] at takenDepth opened
          rw [takenDepth]
          exact opened.resolve_left nofun

/-- A step fails because calls are nested too deeply. -/
def ExceedsDepth (step : Step) : Prop :=
  ∃ error final, step.outcome = .fail (.error error) final ∧ error.exceedsDepth = true

/-- A call that is refused fails because calls are nested too deeply. -/
theorem Refused.exceedsDepth
    {step : Step}
    (refused : step.Refused) :
    step.ExceedsDepth := by
  rcases step with ⟨_ | fuel, environment, task, state⟩
  · exact (refused.1.1 rfl).elim
  · obtain ⟨⟨-, position, callee, arguments, rfl, fitting⟩, tooDeep⟩ := refused
    refine ⟨.failed position (.depthExceeded callee.name environment.options.depthLimit), state,
      ?_, rfl⟩
    show callFunction (fuel + 1) environment position (.user callee) arguments state = _
    simp only [callFunction]
    rw [if_neg (not_not.mpr fitting), if_pos tooDeep]
    rfl

/-- That calls are nested too deeply is passed on by all but scripts that scripts run. -/
theorem ExceedsDepth.of_taken
    {step taken : Step}
    (exceeds : taken.ExceedsDepth)
    (member : taken ∈ step.substeps)
    (notNested : step.task.isNested = false) :
    step.ExceedsDepth := by
  obtain ⟨error, between, failed, tooDeep⟩ := exceeds
  obtain ⟨after, relayed⟩ := outcome_of_fail member failed
  rcases step with ⟨fuel, environment, task, state⟩
  cases task with
  | call position function arguments =>
      cases function with
      | user callee =>
          refine ⟨error, after, ?_, tooDeep⟩
          rw [relayed]
          exact if_pos tooDeep
      | builtin callee =>
          exact ⟨error, after, relayed, tooDeep⟩
  | nested position text =>
      cases notNested
  | file script =>
      exact ⟨error, _, relayed, tooDeep⟩
  | _ =>
      exact ⟨error, after, relayed, tooDeep⟩

/-- That calls are nested too deeply ends the whole run. -/
theorem Leads.exceedsDepth
    {start step : Step}
    {calls : List ActiveCall}
    (leads : start.Leads calls step)
    (alone : start.RunsAlone)
    (exceeds : step.ExceedsDepth) :
    start.ExceedsDepth := by
  induction leads with
  | here =>
      exact exceeds
  | @takes calls step taken earlier member inductionHypothesis =>
      exact inductionHypothesis (exceeds.of_taken member (alone calls step earlier))

/-- A step fails because calls are nested too deeply only where a call is refused. -/
theorem ExceedsDepth.exists_refused
    {start : Step}
    (exceeds : start.ExceedsDepth) :
    ∃ calls step, start.Leads calls step ∧ step.Refused := by
  induction start using Step.induction with
  | steps start inductionHypothesis =>
      obtain ⟨error, final, failed, tooDeep⟩ := exceeds
      by_cases failing : ∃ taken ∈ start.substeps, taken.Fails
      · obtain ⟨taken, member, failure, between, takenFailed⟩ := failing
        obtain ⟨after, relayed⟩ := outcome_of_fail member takenFailed
        rcases relay_eq_error (relayed.symm.trans failed) with
          ⟨cause, rfl, passesOn⟩ | ⟨_, _, _, rfl⟩
        · have causeTooDeep : cause.exceedsDepth = true := by
            cases passesOn with
            | unchanged =>
                exact tooDeep
            | wrapped =>
                exact tooDeep
          obtain ⟨calls, step, leads, refused⟩ :=
            inductionHypothesis taken member ⟨cause, between, takenFailed, causeTooDeep⟩
          exact ⟨_, step, (Leads.takes .here member).trans leads, refused⟩
        · cases tooDeep
      · have allowed := allows_outcome fun taken member fails => failing ⟨taken, member, fails⟩
        rw [failed] at allowed
        refine ⟨[], start, .here, ?_⟩
        cases error with
        | failed position fault =>
            cases fault with
            | depthExceeded name limit =>
                exact allowed
            | _ =>
                cases tooDeep
        | host text =>
            cases tooDeep
        | inFunction position name cause =>
            exact allowed.elim

/-- The step with another limit on nested calls. -/
def withMaxDepth (step : Step) (maxDepth : Int) : Step :=
  { step with environment := step.environment.withMaxDepth maxDepth }

end Step

/-- The plan with another limit on nested calls for its steps. -/
def Plan.withMaxDepth {Result : Type} (maxDepth : Int) : Plan Result → Plan Result
  | .ends outcome => .ends outcome
  | .takes environment task state change next =>
      .takes (environment.withMaxDepth maxDepth) task state change fun result final =>
        (next result final).withMaxDepth maxDepth

/-- A plan ends in the same way with another limit, if the steps that it takes do. -/
theorem Plan.outcome_withMaxDepth
    {Result : Type}
    {fuel : Nat}
    {relay : Failure → State → Outcome Result}
    {maxDepth : Int}
    {plan : Plan Result}
    (same :
      ∀ taken ∈ plan.steps fuel, (taken.withMaxDepth maxDepth).outcome = taken.outcome) :
    (plan.withMaxDepth maxDepth).outcome fuel relay = plan.outcome fuel relay := by
  induction plan with
  | ends outcome =>
      rfl
  | takes environment task state change next inductionHypothesis =>
      simp only [steps, List.mem_cons, forall_eq_or_imp] at same
      obtain ⟨firstSame, laterSame⟩ := same
      simp only [withMaxDepth, outcome]
      change Step.outcome ⟨fuel, environment.withMaxDepth maxDepth, task, state⟩ = _ at firstSame
      rw [firstSame]
      split
      · next result final ended =>
          rw [ended] at laterSame
          exact inductionHypothesis _ _ laterSame
      · rfl

section Plans

variable (fuel : Nat) (environment : Environment) (state : State) (maxDepth : Int)

theorem planExpr_withMaxDepth (expression : Expr) :
    Task.planExpr (environment.withMaxDepth maxDepth) state expression =
      (Task.planExpr environment state expression).withMaxDepth maxDepth := by
  cases expression with
  | call function arguments =>
      by_cases isCancelled : environment.cancelled state = true
      · simp only [Task.planExpr, Environment.cancelled_withMaxDepth, isCancelled, ↓reduceIte]
        rfl
      · simp only [Task.planExpr, Environment.cancelled_withMaxDepth, isCancelled,
          Bool.false_eq_true, ↓reduceIte]
        split <;> rfl
  | _ =>
      rfl

theorem planCall_withMaxDepth
    {position : Position}
    {arguments : List Value}
    {function : Function}
    (higher :
      environment.options.depthLimit ≤ (environment.withMaxDepth maxDepth).options.depthLimit)
    (accepted :
      ¬ (Step.mk (fuel + 1) environment (.call position function arguments) state).Refused) :
    Task.planCall (environment.withMaxDepth maxDepth) state position arguments function =
      (Task.planCall environment state position arguments function).withMaxDepth maxDepth := by
  cases function with
  | user callee =>
      simp only [Task.planCall]
      split
      · rfl
      · next fitting =>
          have allowed : ¬ environment.options.depthLimit ≤ state.depth := fun tooDeep =>
            accepted ⟨⟨Nat.succ_ne_zero fuel, position, callee, arguments, rfl,
              Decidable.not_not.mp fitting⟩, tooDeep⟩
          rw [if_neg allowed, if_neg fun tooDeep => allowed (Nat.le_trans higher tooDeep)]
          rfl
  | builtin callee =>
      simp only [Task.planCall]
      split
      · rfl
      · cases callee <;> rfl

theorem planStmt_withMaxDepth (statement : Stmt) :
    Task.planStmt (environment.withMaxDepth maxDepth) state statement =
      (Task.planStmt environment state statement).withMaxDepth maxDepth := by
  cases statement with
  | assign defines name value =>
      cases defines <;> rfl
  | forEach key bound body place =>
      simp only [Task.planStmt, Plan.after, Plan.withMaxDepth]
      congr 1
      funext value between
      cases loopElements bound.position value between <;> rfl
  | «return» value place =>
      cases value <;> rfl
  | control kind place =>
      cases kind <;> rfl
  | _ =>
      rfl

theorem afterRound_withMaxDepth
    {next : State → Plan Signal}
    (signal : Signal)
    (final : State) :
    (Task.afterRound next signal final).withMaxDepth maxDepth =
      Task.afterRound (fun final => (next final).withMaxDepth maxDepth) signal final := by
  cases signal <;> rfl

/-- A task that is not refused takes the same steps with a higher limit. -/
theorem plan_withMaxDepth
    {task : Task}
    (higher :
      environment.options.depthLimit ≤ (environment.withMaxDepth maxDepth).options.depthLimit)
    (notNested : task.isNested = false)
    (accepted : ¬ (Step.mk (fuel + 1) environment task state).Refused) :
    task.plan (environment.withMaxDepth maxDepth) state =
      (task.plan environment state).withMaxDepth maxDepth := by
  cases task with
  | expr expression =>
      exact planExpr_withMaxDepth environment state maxDepth expression
  | exprs expressions =>
      cases expressions <;> rfl
  | truth expression =>
      simp only [Task.plan, Plan.after, Plan.withMaxDepth, Environment.numericTruth_withMaxDepth]
      congr 1
      funext value final
      cases value.truth environment.options.numericTruth <;> rfl
  | call position function arguments =>
      exact planCall_withMaxDepth fuel environment state maxDepth higher accepted
  | standard position function arguments =>
      cases function <;> rfl
  | nested position text =>
      cases notNested
  | stmts statements =>
      cases statements with
      | nil =>
          rfl
      | cons first rest =>
          simp only [Task.plan, Plan.after, Plan.withMaxDepth]
          congr 1
          funext signal between
          cases signal <;> rfl
  | stmt statement =>
      exact planStmt_withMaxDepth environment state maxDepth statement
  | choice branches =>
      cases branches with
      | nil =>
          rfl
      | cons first rest =>
          simp only [Task.plan, Plan.after, Plan.withMaxDepth]
          congr 1
          funext holds between
          cases holds <;> rfl
  | forLoop position key statements elements =>
      simp only [Task.plan]
      rcases elements.next? with _ | ⟨element, rest⟩
      · rfl
      · by_cases isCancelled : environment.cancelled state = true
        · simp only [Environment.cancelled_withMaxDepth, isCancelled, ↓reduceIte]
          rfl
        · simp only [Environment.cancelled_withMaxDepth, isCancelled, Bool.false_eq_true,
            ↓reduceIte, Plan.withMaxDepth, afterRound_withMaxDepth]
          rfl
  | whileLoop position condition statements =>
      by_cases isCancelled : environment.cancelled state = true
      · simp only [Task.plan, Environment.cancelled_withMaxDepth, isCancelled, ↓reduceIte]
        rfl
      · simp only [Task.plan, Environment.cancelled_withMaxDepth, isCancelled, Bool.false_eq_true,
          ↓reduceIte, Plan.after, Plan.withMaxDepth]
        congr 1
        funext holds between
        cases holds with
        | true =>
            simp only [↓reduceIte, Plan.withMaxDepth, afterRound_withMaxDepth]
            rfl
        | false =>
            rfl
  | topLevel items =>
      rcases items with _ | ⟨inner | inner | inner, rest⟩ <;> rfl
  | file script =>
      simp only [Task.plan]
      cases hoist script.origin script.file.items state <;> rfl

end Plans

namespace Step

variable {maxDepth : Int} {step : Step}

/-- A step during which no call is refused ends in the same way with a higher limit. -/
theorem outcome_withMaxDepth
    (higher :
      step.environment.options.depthLimit ≤
        (step.environment.withMaxDepth maxDepth).options.depthLimit)
    (alone : step.RunsAlone)
    (accepted : ∀ calls reached, step.Leads calls reached → ¬ reached.Refused) :
    (step.withMaxDepth maxDepth).outcome = step.outcome := by
  induction step using Step.induction with
  | steps step inductionHypothesis =>
      have notNested := alone [] step .here
      have notRefused := accepted [] step .here
      have same (taken : Step) (member : taken ∈ step.substeps) :
          (taken.withMaxDepth maxDepth).outcome = taken.outcome := by
        obtain ⟨sameEnvironment, -⟩ := (edge_of_mem member).depth_eq notNested
        refine inductionHypothesis taken member ?_ (alone.of_taken member)
          fun calls reached leads => ?_
        · rw [sameEnvironment]
          exact higher
        · exact accepted _ reached ((Leads.takes .here member).trans leads)
      rcases step with ⟨_ | fuel, environment, task, state⟩
      · rw [outcome_eq, outcome_eq]
        rfl
      · have samePlan := plan_withMaxDepth fuel environment state maxDepth higher notNested
          notRefused
        have sameRelay : task.relay (environment.withMaxDepth maxDepth) = task.relay environment := by
          cases task <;> rfl
        rw [outcome_eq, outcome_eq]
        show (task.plan (environment.withMaxDepth maxDepth) state).outcome fuel
          (task.relay (environment.withMaxDepth maxDepth)) = _
        rw [samePlan, sameRelay]
        exact Plan.outcome_withMaxDepth same

end Step

end Evaluation

namespace Session

/-- A run says that calls are nested too deeply if its first step does. -/
theorem exceedsDepth_iff {session : Session} {limits : Limits} {script : Script} :
    (∃ error,
        (session.run limits script).ending = .failed (.running error) ∧
          error.exceedsDepth = true) ↔
      (session.firstStep limits [] script).ExceedsDepth := by
  constructor
  · rintro ⟨error, failed, tooDeep⟩
    obtain ⟨final, ended⟩ := outcome_of_run_failed failed
    exact ⟨error, final, ended, tooDeep⟩
  · rintro ⟨error, final, ended, tooDeep⟩
    refine ⟨error, ?_, tooDeep⟩
    rw [run_eq_execution, ended]
    rfl

/-- A run that goes beyond the limit nowhere is the same with a higher limit. -/
theorem run_withMaxDepth
    {session : Session}
    {limits : Limits}
    {script : Script}
    {maxDepth : Int}
    (higher :
      session.options.depthLimit ≤ (session.options.withMaxDepth maxDepth).depthLimit)
    (alone : (session.firstStep limits [] script).RunsAlone)
    (within : ¬ (session.firstStep limits [] script).ExceedsDepth) :
    (session.withMaxDepth maxDepth).run limits script =
      { session.run limits script with
        session := (session.run limits script).session.withMaxDepth maxDepth } := by
  have sameOutcome :
      ((session.withMaxDepth maxDepth).firstStep limits [] script).outcome =
        (session.firstStep limits [] script).outcome :=
    Evaluation.Step.outcome_withMaxDepth higher alone fun _ _ leads refused =>
      within (leads.exceedsDepth alone refused.exceedsDepth)
  rw [run_eq_execution, run_eq_execution, sameOutcome]
  rfl

/-- While a script runs that runs no other scripts, no more calls are active than may be.  It fails
because calls are nested too deeply exactly if a function is called, with as many arguments as it
has parameters, while as many calls are active as may be.  If it does not fail so, it prints, logs,
ends and leaves behind the same with a higher limit.  And after every call the depth of calls is
what it was before. -/
theorem depth_limit_only_cuts_off
    {session : Session}
    {limits : Limits}
    {script : Script}
    {maxDepth : Int}
    (higher :
      session.options.depthLimit ≤ (session.options.withMaxDepth maxDepth).depthLimit)
    (alone : (session.firstStep limits [] script).RunsAlone) :
    (∀ calls step, (session.firstStep limits [] script).Leads calls step →
      calls.length ≤ session.options.depthLimit) ∧
      ((∃ error,
          (session.run limits script).ending = .failed (.running error) ∧
            error.exceedsDepth = true) ↔
        ∃ calls step,
          (session.firstStep limits [] script).Leads calls step ∧ step.CallsFitting ∧
            calls.length = session.options.depthLimit) ∧
      ((∀ error,
          (session.run limits script).ending = .failed (.running error) →
            error.exceedsDepth = false) →
        (session.withMaxDepth maxDepth).run limits script =
          { session.run limits script with
            session := (session.run limits script).session.withMaxDepth maxDepth }) ∧
      ∀ calls step position function arguments,
        (session.firstStep limits [] script).Leads calls step →
          step.task = .call position function arguments →
            step.outcome.state.depth = step.state.depth := by
  have counts (calls : List Evaluation.ActiveCall) (step : Evaluation.Step)
      (leads : (session.firstStep limits [] script).Leads calls step) :
      step.environment.options = session.options ∧ step.state.depth = calls.length ∧
        calls.length ≤ session.options.depthLimit := by
    obtain ⟨sameEnvironment, depthEq, withinLimit⟩ := leads.depth_eq alone (Nat.zero_le _)
    have countEq : step.state.depth = calls.length := depthEq.trans (Nat.zero_add _)
    rw [countEq] at withinLimit
    exact ⟨congrArg Environment.options sameEnvironment, countEq, withinLimit⟩
  refine ⟨fun calls step leads => (counts calls step leads).2.2, ?_, fun shallow => ?_, ?_⟩
  · rw [exceedsDepth_iff]
    constructor
    · intro exceeds
      obtain ⟨calls, step, leads, fitting, tooDeep⟩ := exceeds.exists_refused
      obtain ⟨sameOptions, depthEq, withinLimit⟩ := counts calls step leads
      rw [sameOptions, depthEq] at tooDeep
      exact ⟨calls, step, leads, fitting, Nat.le_antisymm withinLimit tooDeep⟩
    · rintro ⟨calls, step, leads, fitting, full⟩
      obtain ⟨sameOptions, depthEq, -⟩ := counts calls step leads
      have refused : step.Refused := by
        refine ⟨fitting, Nat.le_of_eq ?_⟩
        rw [sameOptions, depthEq, full]
      exact leads.exceedsDepth alone refused.exceedsDepth
  · refine run_withMaxDepth higher alone fun exceeds => ?_
    obtain ⟨error, failed, tooDeep⟩ := exceedsDepth_iff.mpr exceeds
    simp [shallow error failed] at tooDeep
  · rintro calls ⟨fuel, environment, task, state⟩ position function arguments - rfl
    exact ((Evaluation.preserves fuel).callFunction environment position function arguments
      state).depth

/-- A script that calls its function as often, one call inside the other, as it is told to. -/
def nestingScript : String :=
  "fun nest(n) \x7b if (n == 0) \x7b return 0 \x7d\n  return nest(n - 1) + 1 \x7d\n" ++
    "print(nest(2))\nprint(nest(3))"

/-- With a limit of three calls the script is cut off at the fourth, and with a limit of four it runs
as with any higher one. -/
theorem nesting_needs_four_calls :
    (∃ session script calls step,
      reading? (Options.usual.withMaxDepth 3) nestingScript = some (session, script) ∧
        (session.firstStep (.still 60) [] script).Leads calls step ∧
        step.CallsFitting ∧ calls.length = 3) ∧
      ∃ session script,
        reading? (Options.usual.withMaxDepth 4) nestingScript = some (session, script) ∧
          ((session.withMaxDepth 9).run (.still 60) script).output = ["2", "3"] := by
  constructor
  · have checked :
        (reading? (Options.usual.withMaxDepth 3) nestingScript).any (fun (session, script) =>
          (session.run (.still 60) script).ending.runningError?.any fun error =>
            decide (error.exceedsDepth = true ∧ session.options.depthLimit = 3 ∧
              session.options.depthLimit ≤ (session.options.withMaxDepth 9).depthLimit ∧
              (session.firstStep (.still 60) [] script).RunsAlone)) = true := by
      decide +kernel
    obtain ⟨⟨session, script⟩, reads, failing⟩ := (Option.any_eq_true _ _).mp checked
    obtain ⟨error, found, holds⟩ := (Option.any_eq_true _ _).mp failing
    obtain ⟨tooDeep, limitEq, higher, alone⟩ := of_decide_eq_true holds
    obtain ⟨-, cutOff, -⟩ := depth_limit_only_cuts_off higher alone
    obtain ⟨calls, step, leads, fitting, full⟩ :=
      cutOff.mp ⟨error, Ending.of_runningError? found, tooDeep⟩
    exact ⟨session, script, calls, step, reads, leads, fitting, full.trans limitEq⟩
  · have checked :
        (reading? (Options.usual.withMaxDepth 4) nestingScript).any (fun (session, script) =>
          decide ((session.run (.still 60) script).ending.isFinished = true ∧
            (session.run (.still 60) script).output = ["2", "3"] ∧
            session.options.depthLimit ≤ (session.options.withMaxDepth 9).depthLimit ∧
            (session.firstStep (.still 60) [] script).RunsAlone)) = true := by
      decide +kernel
    obtain ⟨⟨session, script⟩, reads, holds⟩ := (Option.any_eq_true _ _).mp checked
    obtain ⟨isFinished, printed, higher, alone⟩ := of_decide_eq_true holds
    obtain ⟨-, -, same, -⟩ := depth_limit_only_cuts_off higher alone
    refine ⟨session, script, reads, ?_⟩
    rw [same (by simp [Ending.eq_finished isFinished])]
    exact printed

end Session

end Scripting
