import Scripting.Proofs.Evaluation.Isolation

namespace Scripting.Evaluation

/-!
# The steps of a run

A run is a tree of steps: to evaluate an expression takes steps that evaluate its parts, and to
call a function takes a step that executes its body.  Every task has a plan, which says what steps
it takes and how it ends, and the evaluator follows the plans.  So the plans tell which steps are
taken during a run, and which calls are active when one is taken.
-/

/-- What there is to do in a run. -/
inductive Task where
  | expr (expression : Expr)
  | exprs (expressions : List Expr)
  | truth (expression : Expr)
  | call (position : Position) (function : Function) (arguments : List Value)
  | standard (position : Position) (function : Standard) (arguments : List Value)
  | nested (position : Position) (text : String)
  | stmts (statements : List Stmt)
  | stmt (statement : Stmt)
  | choice (branches : List Branch)
  | forLoop (position : Position) (key : String) (statements : List Stmt) (elements : Elements)
  | whileLoop (position : Position) (condition : Expr) (statements : List Stmt)
  | topLevel (items : List Item)
  | file (script : Script)

namespace Task

/-- What a task comes to, unless it fails. -/
abbrev Result : Task → Type
  | .expr _ => Value
  | .exprs _ => List Value
  | .truth _ => Bool
  | .call .. => Value
  | .standard .. => Value
  | .nested .. => Value
  | .stmts _ => Signal
  | .stmt _ => Signal
  | .choice _ => Signal
  | .forLoop .. => Signal
  | .whileLoop .. => Signal
  | .topLevel _ => Unit
  | .file _ => Unit

/-- Do a task. -/
def run (fuel : Nat) (environment : Environment) : (task : Task) → State → Outcome task.Result
  | .expr expression, state => evalExpr fuel environment expression state
  | .exprs expressions, state => evalAll fuel environment expressions state
  | .truth expression, state => evalCondition fuel environment expression state
  | .call position function arguments, state =>
      callFunction fuel environment position function arguments state
  | .standard position function arguments, state =>
      callStandard fuel environment position function arguments state
  | .nested position text, state => runScript fuel environment position text state
  | .stmts statements, state => execAll fuel environment statements state
  | .stmt statement, state => exec fuel environment statement state
  | .choice branches, state => execChoice fuel environment branches state
  | .forLoop position key statements elements, state =>
      execFor fuel environment position key statements elements state
  | .whileLoop position condition statements, state =>
      execWhile fuel environment position condition statements state
  | .topLevel items, state => execItems fuel environment items state
  | .file script, state => runFile fuel environment script state

end Task

/-- What a task does: it ends, or it takes a step, after which the state is changed, and goes on
with the result. -/
inductive Plan (Result : Type) where
  | ends (outcome : Outcome Result)
  | takes (environment : Environment) (task : Task) (state : State) (change : State → State)
      (next : task.Result → State → Plan Result)

namespace Plan

variable {First Result : Type}

/-- Take a step, and go on from where it ends. -/
def after (environment : Environment) (task : Task) (state : State)
    (next : task.Result → State → Plan Result) : Plan Result :=
  .takes environment task state id next

/-- Take a step and end as it ends, but for a change of the state. -/
def closing (environment : Environment) (task : Task) (state : State)
    (change : State → State) : Plan task.Result :=
  .takes environment task state change fun result final => .ends (.ok result final)

/-- Take a last step and end as it ends. -/
def last (environment : Environment) (task : Task) (state : State) : Plan task.Result :=
  closing environment task state id

/-- Go on with a result that is there without a step. -/
def given (outcome : Outcome First) (next : First → State → Plan Result) : Plan Result :=
  match outcome with
  | .ok result state => next result state
  | .fail failure state => .ends (.fail failure state)

end Plan

namespace Task

/-- What a loop does when the statements of a round have ended: it is left, or it takes the step
of the next round. -/
def afterRound (next : State → Plan Signal) : Signal → State → Plan Signal
  | .returned value, state => .ends (.ok (.returned value) state)
  | .broke, state => .ends (.ok .normal state)
  | .normal, state => next state
  | .continued, state => next state

/-- The plan of an expression. -/
def planExpr (environment : Environment) (state : State) : Expr → Plan Value
  | .literal _ value _ => .ends (.ok (.ofLiteral value) state)
  | .null _ => .ends (.ok .null state)
  | .name identifier => .ends (readVariable identifier state)
  | .paren inner _ => .last environment (.expr inner) state
  | .template parts _ =>
      .after environment (.exprs parts) state fun values final =>
        .ends (.ok (.string (String.join (values.map Value.text))) final)
  | .list elements _ =>
      .after environment (.exprs elements) state fun values final =>
        .ends (.ok (.list values) final)
  | .binary operator left right =>
      .after environment (.expr left) state fun first between =>
        .after environment (.expr right) between fun second final =>
          .ends (applyOperator operator left.position first second final)
  | .call function arguments =>
      if environment.cancelled state then
        .ends (.fail (interruption environment function.position) state.glance)
      else
        match state.functions[function.text]? with
        | none =>
            .ends (.fail (.failedAt function.position (.undefinedFunction function.text))
              state.glance)
        | some callee =>
            .after environment (.exprs arguments) state.glance fun values between =>
              .last environment (.call function.position callee values) between

/-- The plan of a call. -/
def planCall (environment : Environment) (state : State) (position : Position)
    (arguments : List Value) : Function → Plan Value
  | .user callee =>
      if arguments.length ≠ callee.parameters.length then
        .ends (.fail (.failedAt position
          (.wrongArity callee.name callee.parameters.length arguments.length)) state)
      else if environment.options.depthLimit ≤ state.depth then
        .ends (.fail (.failedAt position
          (.depthExceeded callee.name environment.options.depthLimit)) state)
      else
        .takes environment (.stmts callee.declaration.body.statements)
          (state.enterCall callee arguments) state.leaveCall fun signal final =>
            .ends (callResult position callee.name (.ok signal final))
  | .builtin callee =>
      match callee.argumentFault? arguments with
      | some fault => .ends (.fail (.failedAt position fault) state)
      | none =>
          let took := logged environment.logger .timing (.callTook callee.name)
          match callee with
          | .host inner => .ends (inner.call took position arguments state)
          | .standard inner =>
              .closing environment (.standard position inner arguments) state fun final =>
                final.note took

/-- The plan of a call of a standard function. -/
def planStandard (environment : Environment) (state : State) (position : Position)
    (arguments : List Value) : Standard → Plan Value
  | .print => .ends (.ok .null (state.print (onlyArgument arguments).text))
  | .nanoTime => .ends (state.look environment.clock.nanoTime)
  | .currentMillis => .ends (state.look environment.clock.currentMillis)
  | .typeOf => .ends (.ok (.string (onlyArgument arguments).typeName) state)
  | .length => .ends (lengthCall position (onlyArgument arguments) state)
  | .runScript => .last environment (.nested position (onlyArgument arguments).text) state

/-- The plan of a script that a script runs. -/
def planScript (environment : Environment) (state : State) (position : Position)
    (text : String) : Plan Value :=
  match Session.create environment.nested.options environment.nested.logger with
  | .error error =>
      .ends (.fail (.failedAt position (.builtin Standard.runScript.name (.setup error))) state)
  | .ok session =>
      match session.parse Standard.runScript.name text with
      | (records, .error error) => .ends (.ok (.string error.message) (state.note records))
      | (records, .ok (script, session)) =>
          .takes environment.nested (.file script) (state.enterScript session records)
            state.leaveScript fun _ final => .ends (.ok .null final)

/-- The plan of a statement. -/
def planStmt (environment : Environment) (state : State) : Stmt → Plan Signal
  | .expr value =>
      .after environment (.expr value) state fun _ final => .ends (.ok .normal final)
  | .declare mutable name value _ =>
      .after environment (.expr value) state fun result final =>
        .ends (.ok .normal (final.define name.text result mutable))
  | .assign defines name value =>
      .after environment (.expr value) state fun result final =>
        if defines then
          .ends (.ok .normal (final.define name.text result true))
        else
          .ends (writeVariable name result final)
  | .choice branches _ => .last environment (.choice branches) state
  | .forEach key bound body place =>
      .after environment (.expr bound) state fun value between =>
        .given (loopElements bound.position value between) fun elements final =>
          .last environment (.forLoop place key.text body.statements elements) final
  | .whileLoop condition body place =>
      .last environment (.whileLoop place condition body.statements) state
  | .return none _ => .ends (.ok (.returned .null) state)
  | .return (some value) _ =>
      .after environment (.expr value) state fun result final =>
        .ends (.ok (.returned result) final)
  | .control .leave _ => .ends (.ok .broke state)
  | .control .next _ => .ends (.ok .continued state)

/-- The plan of a task. -/
def plan (environment : Environment) (state : State) : (task : Task) → Plan task.Result
  | .expr expression => planExpr environment state expression
  | .exprs [] => .ends (.ok [] state)
  | .exprs (first :: rest) =>
      .after environment (.expr first) state fun value between =>
        .after environment (.exprs rest) between fun values final =>
          .ends (.ok (value :: values) final)
  | .truth expression =>
      .after environment (.expr expression) state fun value final =>
        match value.truth environment.options.numericTruth with
        | .ok holds => .ends (.ok holds final)
        | .error fault => .ends (.fail (.failedAt expression.position (.condition fault)) final)
  | .call position function arguments =>
      planCall environment state position arguments function
  | .standard position function arguments =>
      planStandard environment state position arguments function
  | .nested position text => planScript environment state position text
  | .stmts [] => .ends (.ok .normal state)
  | .stmts (first :: rest) =>
      .after environment (.stmt first) state fun signal between =>
        match signal with
        | .normal => .last environment (.stmts rest) between
        | signal => .ends (.ok signal between)
  | .stmt statement => planStmt environment state statement
  | .choice [] => .ends (.ok .normal state)
  | .choice (first :: rest) =>
      .after environment (.truth first.condition) state fun holds between =>
        if holds then
          .closing environment (.stmts first.body.statements) (between.enter "if") State.leave
        else
          .last environment (.choice rest) between
  | .forLoop position key statements elements =>
      match elements.next? with
      | none => .ends (.ok .normal state)
      | some (element, rest) =>
          if environment.cancelled state then
            .ends (.fail (interruption environment position) state.glance)
          else
            .takes environment (.stmts statements)
              ((state.glance.enter "for loop").define key element false) State.leave
              (afterRound (.last environment (.forLoop position key statements rest)))
  | .whileLoop position condition statements =>
      if environment.cancelled state then
        .ends (.fail (interruption environment position) state.glance)
      else
        .after environment (.truth condition) state.glance fun holds between =>
          if holds then
            .takes environment (.stmts statements) (between.enter "while loop") State.leave
              (afterRound (.last environment (.whileLoop position condition statements)))
          else
            .ends (.ok .normal between)
  | .topLevel [] => .ends (.ok () state)
  | .topLevel (.statement inner :: rest) =>
      .after environment (.stmt inner)
        (state.note (statementRecord environment.logger inner)) fun _ between =>
          .last environment (.topLevel rest) between
  | .topLevel (.function _ :: rest) => .last environment (.topLevel rest) state
  | .topLevel (.type _ :: rest) => .last environment (.topLevel rest) state
  | .file script =>
      match hoist script.origin script.file.items state with
      | .ok _ hoisted =>
          .after environment (.topLevel script.file.items) hoisted fun _ final =>
            .ends (fileResult environment.logger script.file.position (.ok () final))
      | .fail failure final =>
          .ends (fileResult environment.logger script.file.position (.fail failure final))

/-- How a task ends when a step fails that it has taken.  Only a script that a script runs comes
to a value. -/
def relay (environment : Environment) :
    (task : Task) → Failure → State → Outcome task.Result
  | .call position (.user callee) _, failure, state =>
      callResult position callee.name (.fail failure state)
  | .nested .., .error error, state => .ok (.string error.message) state
  | .file script, failure, state =>
      fileResult environment.logger script.file.position (.fail failure state)
  | _, failure, state => .fail failure state

end Task

/-- A step of a run: a task, where it is done, and with how much fuel. -/
structure Step where
  fuel : Nat
  environment : Environment
  task : Task
  state : State

namespace Step

/-- How a step ends. -/
def outcome (step : Step) : Outcome step.task.Result :=
  step.task.run step.fuel step.environment step.state

end Step

namespace Plan

variable {Result : Type} (fuel : Nat) (relay : Failure → State → Outcome Result)

/-- How a plan ends, if the steps that it takes end as they do with an amount of fuel. -/
def outcome : Plan Result → Outcome Result
  | .ends outcome => outcome
  | .takes environment task state change next =>
      match (Step.mk fuel environment task state).outcome with
      | .ok result final => (next result (change final)).outcome
      | .fail failure final => relay failure (change final)

/-- The steps that a plan takes, in order. -/
def steps : Plan Result → List Step
  | .ends _ => []
  | .takes environment task state change next =>
      ⟨fuel, environment, task, state⟩ ::
        match (Step.mk fuel environment task state).outcome with
        | .ok result final => (next result (change final)).steps
        | .fail _ _ => []

section Plain

variable (environment : Environment) (task : Task) (state : State)

theorem outcome_closing (change : State → State) :
    (closing environment task state change).outcome fuel .fail =
      (task.run fuel environment state).afterwards change := by
  simp only [closing, outcome, Step.outcome]
  cases task.run fuel environment state <;> rfl

theorem outcome_last :
    (last environment task state).outcome fuel .fail = task.run fuel environment state := by
  rw [last, outcome_closing]
  cases task.run fuel environment state <;> rfl

theorem outcome_takes (change : State → State) (next : task.Result → State → Plan Result) :
    (takes environment task state change next).outcome fuel .fail =
      ((task.run fuel environment state).afterwards change).andThen fun result final =>
        (next result final).outcome fuel .fail := by
  simp only [outcome, Step.outcome]
  cases task.run fuel environment state <;> rfl

theorem outcome_after (next : task.Result → State → Plan Result) :
    (after environment task state next).outcome fuel .fail =
      (task.run fuel environment state).andThen fun result final =>
        (next result final).outcome fuel .fail := by
  rw [after, outcome_takes]
  cases task.run fuel environment state <;> rfl

end Plain

end Plan

namespace Task

variable (fuel : Nat) (environment : Environment) (state : State)

theorem outcome_planExpr (expression : Expr) :
    (planExpr environment state expression).outcome fuel .fail =
      evalExpr (fuel + 1) environment expression state := by
  cases expression with
  | paren inner place =>
      exact Plan.outcome_last fuel environment (.expr inner) state
  | template parts place =>
      exact Plan.outcome_after fuel environment (.exprs parts) state _
  | list elements place =>
      exact Plan.outcome_after fuel environment (.exprs elements) state _
  | binary operator left right =>
      simp only [planExpr, evalExpr, Plan.outcome_after, run, Plan.outcome]
  | call function arguments =>
      simp only [planExpr, evalExpr]
      split
      · rfl
      · cases state.functions[function.text]? with
        | none =>
            rfl
        | some callee =>
            rw [Plan.outcome_after]
            congr 1
            funext values between
            exact Plan.outcome_last fuel environment
              (.call function.position callee values) between
  | _ =>
      rfl

theorem outcome_planCall
    (position : Position)
    (arguments : List Value)
    (function : Function) :
    (planCall environment state position arguments function).outcome fuel
        (relay environment (.call position function arguments)) =
      callFunction (fuel + 1) environment position function arguments state := by
  cases function with
  | user callee =>
      simp only [planCall, callFunction]
      split
      · rfl
      · split
        · rfl
        · simp only [Plan.outcome, Step.outcome, run]
          rcases execAll fuel environment callee.declaration.body.statements
            (state.enterCall callee arguments) with
            ⟨_ | value | _ | _, final⟩ | ⟨error | message | _, final⟩
          case fail.error =>
            simp only [relay, callResult]
            split <;> rfl
          all_goals rfl
  | builtin callee =>
      simp only [planCall, callFunction]
      cases callee.argumentFault? arguments with
      | some fault =>
          rfl
      | none =>
          cases callee with
          | host inner =>
              rfl
          | standard inner =>
              exact Plan.outcome_closing fuel environment (.standard position inner arguments)
                state _

theorem outcome_planScript (position : Position) (text : String) :
    (planScript environment state position text).outcome fuel
        (relay environment (.nested position text)) =
      runScript (fuel + 1) environment position text state := by
  cases created : Session.create environment.nested.options environment.nested.logger with
  | error error =>
      rw [Environment.nested] at created
      simp only [planScript, runScript, Environment.nested, created]
      rfl
  | ok session =>
      rw [runScript_succ created]
      simp only [planScript, created]
      rcases session.parse Standard.runScript.name text with ⟨records, error | ⟨script, started⟩⟩
      · rfl
      · simp only [Plan.outcome, Step.outcome, run]
        rcases runFile fuel environment.nested script (state.enterScript started records) with
          ⟨_, final⟩ | ⟨error | message | _, final⟩ <;> rfl

theorem outcome_planStmt (statement : Stmt) :
    (planStmt environment state statement).outcome fuel .fail =
      exec (fuel + 1) environment statement state := by
  cases statement with
  | expr value =>
      exact Plan.outcome_after fuel environment (.expr value) state _
  | declare mutable name value place =>
      exact Plan.outcome_after fuel environment (.expr value) state _
  | assign defines name value =>
      simp only [planStmt, exec, Plan.outcome_after, run]
      congr 1
      funext result final
      cases defines <;> rfl
  | choice branches place =>
      exact Plan.outcome_last fuel environment (.choice branches) state
  | forEach key bound body place =>
      simp only [planStmt, exec, Plan.outcome_after, run]
      congr 1
      funext value between
      cases loopElements bound.position value between with
      | ok elements final =>
          exact Plan.outcome_last fuel environment
            (.forLoop place key.text body.statements elements) final
      | fail failure final =>
          rfl
  | whileLoop condition body place =>
      exact Plan.outcome_last fuel environment (.whileLoop place condition body.statements) state
  | «return» value place =>
      cases value with
      | none =>
          rfl
      | some value =>
          exact Plan.outcome_after fuel environment (.expr value) state _
  | control kind place =>
      cases kind <;> rfl

/-- With a unit of fuel more than its steps have, the evaluator does what the plan says. -/
theorem outcome_plan (task : Task) :
    (task.plan environment state).outcome fuel (task.relay environment) =
      task.run (fuel + 1) environment state := by
  cases task with
  | expr expression =>
      exact outcome_planExpr fuel environment state expression
  | exprs expressions =>
      cases expressions with
      | nil =>
          rfl
      | cons first rest =>
          show (Plan.after ..).outcome fuel .fail = _
          simp only [run, evalAll, Plan.outcome_after, Plan.outcome]
  | truth expression =>
      show (Plan.after ..).outcome fuel .fail = _
      simp only [run, evalCondition, Plan.outcome_after]
      congr 1
      funext value final
      cases value.truth environment.options.numericTruth <;> rfl
  | call position function arguments =>
      exact outcome_planCall fuel environment state position arguments function
  | standard position function arguments =>
      cases function with
      | runScript =>
          exact Plan.outcome_last fuel environment
            (.nested position (onlyArgument arguments).text) state
      | _ =>
          rfl
  | nested position text =>
      exact outcome_planScript fuel environment state position text
  | stmts statements =>
      cases statements with
      | nil =>
          rfl
      | cons first rest =>
          show (Plan.after ..).outcome fuel .fail = _
          simp only [run, execAll, Plan.outcome_after]
          congr 1
          funext signal between
          cases signal with
          | normal =>
              exact Plan.outcome_last fuel environment (.stmts rest) between
          | _ =>
              rfl
  | stmt statement =>
      exact outcome_planStmt fuel environment state statement
  | choice branches =>
      cases branches with
      | nil =>
          rfl
      | cons first rest =>
          show (Plan.after ..).outcome fuel .fail = _
          simp only [run, execChoice, Plan.outcome_after]
          congr 1
          funext holds between
          cases holds with
          | true =>
              exact Plan.outcome_closing fuel environment (.stmts first.body.statements)
                (between.enter "if") State.leave
          | false =>
              exact Plan.outcome_last fuel environment (.choice rest) between
  | forLoop position key statements elements =>
      simp only [plan, run, execFor]
      rcases elements.next? with _ | ⟨element, rest⟩
      · rfl
      · dsimp only
        split
        · rfl
        · show (Plan.takes ..).outcome fuel .fail = _
          rw [Plan.outcome_takes]
          congr 1
          funext signal between
          cases signal with
          | returned value =>
              rfl
          | broke =>
              rfl
          | _ =>
              exact Plan.outcome_last fuel environment
                (.forLoop position key statements rest) between
  | whileLoop position condition statements =>
      simp only [plan, run, execWhile]
      split
      · rfl
      · show (Plan.after ..).outcome fuel .fail = _
        rw [Plan.outcome_after]
        congr 1
        funext holds between
        cases holds with
        | true =>
            show (Plan.takes ..).outcome fuel .fail = _
            rw [Plan.outcome_takes, if_pos rfl]
            congr 1
            funext signal final
            cases signal with
            | returned value =>
                rfl
            | broke =>
                rfl
            | _ =>
                exact Plan.outcome_last fuel environment
                  (.whileLoop position condition statements) final
        | false =>
            rfl
  | topLevel items =>
      rcases items with _ | ⟨inner | inner | inner, rest⟩
      · rfl
      · exact Plan.outcome_last fuel environment (.topLevel rest) state
      · exact Plan.outcome_last fuel environment (.topLevel rest) state
      · show (Plan.after ..).outcome fuel .fail = _
        simp only [run, execItems, Plan.outcome_after]
        congr 1
        funext signal between
        exact Plan.outcome_last fuel environment (.topLevel rest) between
  | file script =>
      simp only [plan, run, runFile]
      cases hoist script.origin script.file.items state with
      | fail failure final =>
          rfl
      | ok _ hoisted =>
          simp only [Plan.after, Plan.outcome, Step.outcome, run, Outcome.andThen]
          cases execItems fuel environment script.file.items hoisted <;> rfl

/-- A task without fuel is not done. -/
theorem run_zero (task : Task) :
    task.run 0 environment state = .fail .outOfFuel state := by
  cases task <;> rfl

end Task

namespace Plan

variable {Result : Type} {fuel : Nat} {relay : Failure → State → Outcome Result}

theorem fuel_of_mem_steps
    {plan : Plan Result}
    {taken : Step}
    (member : taken ∈ plan.steps fuel) :
    taken.fuel = fuel := by
  induction plan with
  | ends outcome =>
      cases member
  | takes environment task state change next inductionHypothesis =>
      simp only [steps] at member
      rcases List.mem_cons.mp member with rfl | later
      · rfl
      · split at later
        · exact inductionHypothesis _ _ later
        · cases later

/-- A plan takes its first step, and then those with which it goes on. -/
theorem mem_steps_takes
    {environment : Environment}
    {task : Task}
    {state : State}
    {change : State → State}
    {next : task.Result → State → Plan Result}
    {taken : Step} :
    taken ∈ (takes environment task state change next).steps fuel ↔
      taken = ⟨fuel, environment, task, state⟩ ∨
        ∃ result final, task.run fuel environment state = .ok result final ∧
          taken ∈ (next result (change final)).steps fuel := by
  simp only [steps, Step.outcome, List.mem_cons]
  cases task.run fuel environment state <;> simp

/-- A plan whose first step does not fail takes it, and then the steps with which it goes on. -/
theorem steps_takes_of_eq_ok
    {environment : Environment}
    {task : Task}
    {state final : State}
    {result : task.Result}
    {change : State → State}
    {next : task.Result → State → Plan Result}
    (ended : task.run fuel environment state = .ok result final) :
    (takes environment task state change next).steps fuel =
      ⟨fuel, environment, task, state⟩ :: (next result (change final)).steps fuel := by
  simp only [steps, Step.outcome, ended]

theorem steps_closing
    (environment : Environment)
    (task : Task)
    (state : State)
    (change : State → State) :
    (closing environment task state change).steps fuel = [⟨fuel, environment, task, state⟩] := by
  simp only [closing, steps]
  cases (Step.mk fuel environment task state).outcome <;> rfl

@[simp] theorem mem_steps_closing
    {environment : Environment}
    {task : Task}
    {state : State}
    {change : State → State}
    {taken : Step} :
    taken ∈ (closing environment task state change).steps fuel ↔
      taken = ⟨fuel, environment, task, state⟩ := by
  rw [steps_closing, List.mem_singleton]

@[simp] theorem mem_steps_last
    {environment : Environment}
    {task : Task}
    {state : State}
    {taken : Step} :
    taken ∈ (last environment task state).steps fuel ↔
      taken = ⟨fuel, environment, task, state⟩ :=
  mem_steps_closing

/-- When a step fails, the plan that has taken it ends at once. -/
theorem outcome_of_fail
    {plan : Plan Result}
    {taken : Step}
    {failure : Failure}
    {final : State}
    (member : taken ∈ plan.steps fuel)
    (fails : taken.outcome = .fail failure final) :
    ∃ change : State → State, plan.outcome fuel relay = relay failure (change final) := by
  induction plan with
  | ends outcome =>
      cases member
  | takes environment task state change next inductionHypothesis =>
      simp only [steps, outcome] at member ⊢
      rcases List.mem_cons.mp member with rfl | later
      · rw [fails]
        exact ⟨change, rfl⟩
      · split at later
        · exact inductionHypothesis _ _ later
        · cases later

/-- What holds of all that a plan can end with, other than by a step that fails. -/
def Leaves (holds : Outcome Result → Prop) : Plan Result → Prop
  | .ends outcome => holds outcome
  | .takes _ _ _ _ next => ∀ result state, (next result state).Leaves holds

/-- A plan that takes no step that fails ends with one of its own endings. -/
theorem Leaves.outcome
    {holds : Outcome Result → Prop}
    {plan : Plan Result}
    (leaves : plan.Leaves holds)
    (noneFails : ∀ taken ∈ plan.steps fuel, ∀ failure final, taken.outcome ≠ .fail failure final) :
    holds (plan.outcome fuel relay) := by
  induction plan with
  | ends outcome =>
      exact leaves
  | takes environment task state change next inductionHypothesis =>
      simp only [steps, List.mem_cons, forall_eq_or_imp] at noneFails
      obtain ⟨endsWell, laterEndWell⟩ := noneFails
      simp only [Plan.outcome]
      split
      · next result final ended =>
          rw [ended] at laterEndWell
          exact inductionHypothesis _ _ (leaves _ _) laterEndWell
      · next failure final ended =>
          exact (endsWell failure final ended).elim

end Plan

/-- A call of a function of a script: where it was made, and which function was called. -/
structure ActiveCall where
  position : Position
  name : String
  deriving Repr, DecidableEq

/-- The call that is active while a task takes its steps. -/
def Task.opens : Task → List ActiveCall
  | .call position (.user callee) _ => [⟨position, callee.name⟩]
  | _ => []

/-- Only the call of a function of a script becomes active. -/
theorem Task.opens_cases (task : Task) :
    task.opens = [] ∨
      ∃ position callee arguments, task = .call position (.user callee) arguments := by
  cases task with
  | call position function arguments =>
      cases function with
      | user callee =>
          exact .inr ⟨position, callee, arguments, rfl⟩
      | builtin callee =>
          exact .inl rfl
  | _ =>
      exact .inl rfl

namespace Step

/-- What a step does. -/
def plan (step : Step) : Plan step.task.Result :=
  match step.fuel with
  | 0 => .ends (.fail .outOfFuel step.state)
  | _ + 1 => step.task.plan step.environment step.state

/-- The steps that a step takes, in order. -/
def substeps (step : Step) : List Step :=
  step.plan.steps (step.fuel - 1)

/-- A step ends as its plan does. -/
theorem outcome_eq (step : Step) :
    step.outcome = step.plan.outcome (step.fuel - 1) (step.task.relay step.environment) := by
  rcases step with ⟨_ | fuel, environment, task, state⟩
  · exact Task.run_zero environment state task
  · exact (Task.outcome_plan fuel environment state task).symm

theorem fuel_of_mem_substeps
    {step taken : Step}
    (member : taken ∈ step.substeps) :
    step.fuel = taken.fuel + 1 := by
  rcases step with ⟨_ | fuel, environment, task, state⟩
  · cases member
  · rw [Plan.fuel_of_mem_steps member]
    rfl

/-- What holds of a step if it holds of the steps that it takes holds of every step. -/
theorem induction
    {motive : Step → Prop}
    (steps : ∀ step : Step, (∀ taken ∈ step.substeps, motive taken) → motive step)
    (step : Step) :
    motive step := by
  generalize fuelEq : step.fuel = fuel
  induction fuel using Nat.strongRecOn generalizing step with
  | ind fuel inductionHypothesis =>
      refine steps step fun taken member => ?_
      have more := fuel_of_mem_substeps member
      exact inductionHypothesis taken.fuel (by omega) taken rfl

/-- Whether a step fails. -/
def Fails (step : Step) : Prop :=
  ∃ failure final, step.outcome = .fail failure final

/-- When a step fails, the step that has taken it ends at once. -/
theorem outcome_of_fail
    {step taken : Step}
    {failure : Failure}
    {final : State}
    (member : taken ∈ step.substeps)
    (fails : taken.outcome = .fail failure final) :
    ∃ after, step.outcome = step.task.relay step.environment failure after := by
  obtain ⟨change, ended⟩ := Plan.outcome_of_fail member fails
  exact ⟨change final, step.outcome_eq.trans ended⟩

/-- A step leads to the steps that are taken during it.  The calls are those that became active on
the way and still are, outermost first. -/
inductive Leads (start : Step) : List ActiveCall → Step → Prop where
  | here :
      Leads start [] start
  | takes {calls : List ActiveCall} {step taken : Step} :
      Leads start calls step →
      taken ∈ step.substeps →
      Leads start (calls ++ step.task.opens) taken

theorem Leads.trans
    {start middle step : Step}
    {calls later : List ActiveCall}
    (first : start.Leads calls middle)
    (second : middle.Leads later step) :
    start.Leads (calls ++ later) step := by
  induction second with
  | here =>
      rw [List.append_nil]
      exact first
  | takes _ member inductionHypothesis =>
      rw [← List.append_assoc]
      exact .takes inductionHypothesis member

/-- Whether a step and all that are taken during it pass a test, down to a number of levels. -/
def throughout (test : Step → Bool) : Nat → Step → Bool
  | 0, step => test step
  | levels + 1, step => test step && step.substeps.all (throughout test levels)

/-- The steps that are taken during a step are found within as many levels as it has fuel. -/
theorem throughout_iff {test : Step → Bool} {start : Step} :
    start.throughout test start.fuel = true ↔
      ∀ calls step, start.Leads calls step → test step = true := by
  constructor
  · intro passes calls step leads
    have passesHere : step.throughout test step.fuel = true := by
      induction leads with
      | here =>
          exact passes
      | takes _ member inductionHypothesis =>
          rw [fuel_of_mem_substeps member] at inductionHypothesis
          simp only [throughout, Bool.and_eq_true, List.all_eq_true] at inductionHypothesis
          exact inductionHypothesis.2 _ member
    cases fuelEq : step.fuel <;> simp_all [throughout]
  · intro passes
    induction start using Step.induction with
    | steps start inductionHypothesis =>
        have passesHere := passes [] start .here
        cases fuelEq : start.fuel with
        | zero =>
            exact passesHere
        | succ levels =>
            simp only [throughout, Bool.and_eq_true, List.all_eq_true]
            refine ⟨passesHere, fun taken member => ?_⟩
            have more := fuel_of_mem_substeps member
            obtain rfl : levels = taken.fuel := by omega
            exact inductionHypothesis taken member fun calls step leads =>
              passes _ step ((Leads.takes .here member).trans leads)

theorem exists_of_throughout_eq_false
    {test : Step → Bool}
    {start : Step}
    (fails : start.throughout test start.fuel = false) :
    ∃ calls step, start.Leads calls step ∧ test step = false := by
  by_contra nowhere
  have passes : start.throughout test start.fuel = true := by
    refine throughout_iff.mpr fun calls step leads => ?_
    by_contra failed
    exact nowhere ⟨calls, step, leads, Bool.eq_false_iff.mpr failed⟩
  cases fails.symm.trans passes

end Step

end Scripting.Evaluation

namespace Scripting.Session

/-- The step that runs a script in a session, after what has been logged about it. -/
def firstStep (session : Session) (limits : Limits) (records : List LogRecord)
    (script : Script) : Evaluation.Step :=
  ⟨limits.fuel, session.environment limits, .file script, .ofSession session records⟩

/-- A new session that has read a script, and the script. -/
def reading? (options : Options) (text : String) : Option (Session × Script) :=
  match create options none with
  | .error _ => none
  | .ok session =>
      match session.parse "main" text with
      | (_, .ok (script, after)) => some (after, script)
      | (_, .error _) => none

theorem of_reading?
    {options : Options}
    {text : String}
    {session : Session}
    {script : Script}
    (reads : reading? options text = some (session, script)) :
    ∃ created, create options none = .ok created ∧
      (created.parse "main" text).2 = .ok (script, session) := by
  unfold reading? at reads
  split at reads
  · cases reads
  · next created isCreated =>
      split at reads
      · next records parsedScript after parsed =>
          cases reads
          exact ⟨created, isCreated, congrArg Prod.snd parsed⟩
      · cases reads

end Scripting.Session
