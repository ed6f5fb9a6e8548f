import Scripting.Proofs.Evaluation.Steps

namespace Scripting

/-!
# What steps a step takes

Most steps are taken for a part of a task, in the same environment, with the same functions and at
the same depth of calls.  There are three exceptions: the body of a function is executed one call
deeper, the statements of a file are executed when its definitions have taken effect, and a script
that a script runs starts anew.  In whatever way a step ends, it leaves the functions and the depth
of calls as they were, but for the functions that a file defines.
-/

/-- A state with the same functions and at the same depth of calls. -/
structure State.Alongside (before after : State) : Prop where
  functions : after.functions = before.functions
  depth : after.depth = before.depth

/-- A state runs alongside itself. -/
theorem State.Alongside.refl (state : State) : state.Alongside state :=
  ⟨rfl, rfl⟩

/-- What runs alongside a state that runs alongside another runs alongside that one too. -/
theorem State.Alongside.trans
    {first second third : State}
    (firstSame : first.Alongside second)
    (secondSame : second.Alongside third) :
    first.Alongside third :=
  ⟨secondSame.functions.trans firstSame.functions, secondSame.depth.trans firstSame.depth⟩

/-- A look at the clock changes neither functions nor frames. -/
theorem State.alongside_glance (state : State) : state.Alongside state.glance :=
  ⟨rfl, rfl⟩

namespace Evaluation

/-- A task takes steps for its parts, and one that calls takes a step for the function of that
name. -/
inductive Task.Parts (functions : FunctionTable) : Task → Task → Prop where
  | paren {inner : Expr} {place : Position} :
      Parts functions (.expr (.paren inner place)) (.expr inner)
  | template :
      Parts functions (.expr (.template parts place)) (.exprs parts)
  | list :
      Parts functions (.expr (.list elements place)) (.exprs elements)
  | left :
      Parts functions (.expr (.binary operator left right)) (.expr left)
  | right :
      Parts functions (.expr (.binary operator left right)) (.expr right)
  | arguments :
      Parts functions (.expr (.call function arguments)) (.exprs arguments)
  | callee :
      functions[function.text]? = some callee →
      Parts functions (.expr (.call function arguments)) (.call function.position callee values)
  | firstExpr :
      Parts functions (.exprs (first :: rest)) (.expr first)
  | otherExprs :
      Parts functions (.exprs (first :: rest)) (.exprs rest)
  | condition :
      Parts functions (.truth expression) (.expr expression)
  | standard :
      Parts functions (.call position (.builtin (.standard function)) arguments)
        (.standard position function arguments)
  | script :
      Parts functions (.standard position .runScript arguments) (.nested position text)
  | firstStmt :
      Parts functions (.stmts (first :: rest)) (.stmt first)
  | otherStmts :
      Parts functions (.stmts (first :: rest)) (.stmts rest)
  | evaluated :
      Parts functions (.stmt (.expr value)) (.expr value)
  | declared :
      Parts functions (.stmt (.declare mutable name value place)) (.expr value)
  | assigned :
      Parts functions (.stmt (.assign defines name value)) (.expr value)
  | returned :
      Parts functions (.stmt (.return (some value) place)) (.expr value)
  | choice :
      Parts functions (.stmt (.choice branches place)) (.choice branches)
  | bound :
      Parts functions (.stmt (.forEach key bound body place)) (.expr bound)
  | forLoop :
      Parts functions (.stmt (.forEach key bound body place))
        (.forLoop place key.text body.statements elements)
  | whileLoop :
      Parts functions (.stmt (.whileLoop condition body place))
        (.whileLoop place condition body.statements)
  | branchCondition :
      Parts functions (.choice (first :: rest)) (.truth first.condition)
  | branchBody :
      Parts functions (.choice (first :: rest)) (.stmts first.body.statements)
  | otherBranches :
      Parts functions (.choice (first :: rest)) (.choice rest)
  | forRound :
      Parts functions (.forLoop position key statements elements) (.stmts statements)
  | forAgain :
      elements.next? = some (element, rest) →
      Parts functions (.forLoop position key statements elements)
        (.forLoop position key statements rest)
  | whileCondition :
      Parts functions (.whileLoop position condition statements) (.truth condition)
  | whileRound :
      Parts functions (.whileLoop position condition statements) (.stmts statements)
  | whileAgain :
      Parts functions (.whileLoop position condition statements)
        (.whileLoop position condition statements)
  | statement {inner : Stmt} {rest : List Item} :
      Parts functions (.topLevel (.statement inner :: rest)) (.stmt inner)
  | otherItems :
      Parts functions (.topLevel (first :: rest)) (.topLevel rest)

namespace Step

/-- The state whose functions and depth a step leaves: a file defines its functions first. -/
def settled (step : Step) : State :=
  match step.fuel, step.task with
  | _ + 1, .file script => (hoist script.origin script.file.items step.state).state
  | _, _ => step.state

/-- In which ways a step can take another one. -/
inductive Edge (step taken : Step) : Prop where
  | part
      (part : step.task.Parts step.state.functions taken.task)
      (sameEnvironment : taken.environment = step.environment)
      (alongside : step.state.Alongside taken.state)
  | body {position : Position} {callee : UserFunction} {arguments : List Value}
      (calls : step.task = .call position (.user callee) arguments)
      (executes : taken.task = .stmts callee.declaration.body.statements)
      (sameEnvironment : taken.environment = step.environment)
      (sameFunctions : taken.state.functions = step.state.functions)
      (deeper : taken.state.depth = step.state.depth + 1)
      (allowed : step.state.depth < step.environment.options.depthLimit)
  | content {script : Script}
      (runs : step.task = .file script)
      (executes : taken.task = .topLevel script.file.items)
      (sameEnvironment : taken.environment = step.environment)
      (hoists : hoist script.origin script.file.items step.state = .ok () taken.state)
  | nested {position : Position} {text : String} {session started : Session} {script : Script}
      {records : List LogRecord}
      (runs : step.task = .nested position text)
      (executes : taken.task = .file script)
      (sameEnvironment : taken.environment = step.environment.nested)
      (created :
        Session.create step.environment.nested.options step.environment.nested.logger =
          .ok session)
      (parsed :
        session.parse Standard.runScript.name text = (records, .ok (script, started)))
      (enters : taken.state = step.state.enterScript started records)

end Step

/-- The steps of a plan are steps that a step can take, and it ends with the functions and at the
depth of a state. -/
def Plan.Follows {Result : Type} (step : Step) (base : State) : Plan Result → Prop
  | .ends outcome => base.Alongside outcome.state
  | .takes environment task state change next =>
      let taken : Step := ⟨step.fuel - 1, environment, task, state⟩
      step.Edge taken ∧
        ∀ final, taken.settled.Alongside final →
          base.Alongside (change final) ∧
            ∀ result, (next result (change final)).Follows step base

/-- The outcome of a file keeps the state of its items. -/
theorem alongside_fileResult
    (logger : Option Logger)
    (position : Position)
    (outcome : Outcome Unit) :
    outcome.state.Alongside (fileResult logger position outcome).state := by
  rcases outcome with ⟨_, final⟩ | ⟨error | message | _, final⟩ <;> exact ⟨rfl, rfl⟩

/-- A failure that is passed on keeps its state. -/
theorem alongside_relay
    (environment : Environment)
    (task : Task)
    (failure : Failure)
    (state : State) :
    state.Alongside (task.relay environment failure state).state := by
  cases task with
  | call position function arguments =>
      cases function with
      | user callee =>
          show state.Alongside (callResult position callee.name (.fail failure state)).state
          rw [state_callResult]
          exact .refl state
      | builtin callee =>
          exact .refl state
  | nested position text =>
      cases failure <;> exact .refl state
  | file script =>
      exact alongside_fileResult _ _ (.fail failure state)
  | _ =>
      exact .refl state

section Plain

variable {Result : Type} {step : Step} {task : Task} {state : State}

/-- A part of a task is no file, and starts in the state that it is given. -/
theorem Task.Parts.settled_eq
    {functions : FunctionTable}
    {whole : Task}
    (part : whole.Parts functions task)
    (fuel : Nat)
    (environment : Environment) :
    (Step.mk fuel environment task state).settled = state := by
  cases fuel <;> cases part <;> rfl

/-- A call of a function takes no step but that for its body. -/
theorem Task.Parts.opens_eq
    {functions : FunctionTable}
    {whole : Task}
    (part : whole.Parts functions task) :
    whole.opens = [] := by
  cases part <;> rfl

/-- A plan goes on after a part of its task if it does so with every result of it. -/
theorem Plan.follows_takes
    {change : State → State}
    {next : task.Result → State → Plan Result}
    (part : step.task.Parts step.state.functions task)
    (alongside : step.state.Alongside state)
    (changes : ∀ final, state.Alongside final → step.state.Alongside (change final))
    (goesOn :
      ∀ result final, step.state.Alongside final → (next result final).Follows step step.state) :
    (Plan.takes step.environment task state change next).Follows step step.state := by
  refine ⟨.part part rfl alongside, fun final settled => ?_⟩
  rw [part.settled_eq] at settled
  exact ⟨changes final settled, fun result => goesOn result _ (changes final settled)⟩

/-- A plan goes on after a part of its task that is not changed afterwards. -/
theorem Plan.follows_after
    {next : task.Result → State → Plan Result}
    (part : step.task.Parts step.state.functions task)
    (alongside : step.state.Alongside state)
    (goesOn :
      ∀ result final, step.state.Alongside final → (next result final).Follows step step.state) :
    (Plan.after step.environment task state next).Follows step step.state :=
  follows_takes part alongside (fun _ => alongside.trans) goesOn

/-- A plan may end with a part of its task and a change of the state. -/
theorem Plan.follows_closing
    {change : State → State}
    (part : step.task.Parts step.state.functions task)
    (alongside : step.state.Alongside state)
    (changes : ∀ final, state.Alongside final → step.state.Alongside (change final)) :
    (Plan.closing step.environment task state change).Follows step step.state :=
  follows_takes part alongside changes fun _ _ => id

/-- A plan may end with a part of its task. -/
theorem Plan.follows_last
    (part : step.task.Parts step.state.functions task)
    (alongside : step.state.Alongside state) :
    (Plan.last step.environment task state).Follows step step.state :=
  follows_closing part alongside fun _ => alongside.trans

end Plain

section Plans

variable (fuel : Nat) (environment : Environment) (state : State)

/-- The plan of an expression consists of its parts. -/
theorem follows_planExpr (expression : Expr) :
    (Task.planExpr environment state expression).Follows
      ⟨fuel + 1, environment, .expr expression, state⟩ state := by
  cases expression with
  | name identifier =>
      show state.Alongside (readVariable identifier state).state
      rw [state_readVariable]
      exact .refl state
  | literal text value place =>
      exact .refl state
  | null place =>
      exact .refl state
  | paren inner place =>
      exact Plan.follows_last .paren (.refl state)
  | template parts place =>
      exact Plan.follows_after .template (.refl state) fun _ _ => id
  | list elements place =>
      exact Plan.follows_after .list (.refl state) fun _ _ => id
  | binary operator left right =>
      refine Plan.follows_after .left (.refl state) fun first between alongside => ?_
      refine Plan.follows_after .right alongside fun second final alongside => ?_
      show state.Alongside (applyOperator operator left.position first second final).state
      rw [state_applyOperator]
      exact alongside
  | call function arguments =>
      simp only [Task.planExpr]
      split
      · exact state.alongside_glance
      · cases found : state.functions[function.text]? with
        | none =>
            exact state.alongside_glance
        | some callee =>
            exact Plan.follows_after .arguments state.alongside_glance
              fun values between alongside => Plan.follows_last (.callee found) alongside

/-- The plan of a call consists of the body of the function, or is that of a standard function. -/
theorem follows_planCall
    (position : Position)
    (arguments : List Value)
    (function : Function) :
    (Task.planCall environment state position arguments function).Follows
      ⟨fuel + 1, environment, .call position function arguments, state⟩ state := by
  cases function with
  | user callee =>
      simp only [Task.planCall]
      split
      · exact .refl state
      · split
        · exact .refl state
        · next notTooDeep =>
            have leaves (final : State)
                (alongside : (state.enterCall callee arguments).Alongside final) :
                state.Alongside (state.leaveCall final) := by
              refine ⟨alongside.functions, ?_⟩
              show final.depth - 1 = state.depth
              rw [alongside.depth]
              rfl
            refine ⟨.body rfl rfl rfl rfl rfl (Nat.lt_of_not_le notTooDeep),
              fun final settled => ?_⟩
            have alongside := leaves final (by cases fuel <;> exact settled)
            refine ⟨alongside, fun signal => ?_⟩
            show state.Alongside (callResult position callee.name (.ok signal _)).state
            rw [state_callResult]
            exact alongside
  | builtin callee =>
      simp only [Task.planCall]
      cases callee.argumentFault? arguments with
      | some fault =>
          exact State.Alongside.refl state
      | none =>
          cases callee with
          | host inner =>
              show state.Alongside (HostFunction.call ..).state
              simp only [HostFunction.call]
              cases inner.resultIn arguments state <;> exact ⟨rfl, rfl⟩
          | standard inner =>
              exact Plan.follows_closing .standard (.refl state)
                fun final alongside => ⟨alongside.functions, alongside.depth⟩

/-- The plan of a standard function has at most a nested script for a part. -/
theorem follows_planStandard
    (position : Position)
    (arguments : List Value)
    (function : Standard) :
    (Task.planStandard environment state position arguments function).Follows
      ⟨fuel + 1, environment, .standard position function arguments, state⟩ state := by
  cases function with
  | length =>
      show state.Alongside (lengthCall ..).state
      simp only [lengthCall]
      split <;> exact .refl state
  | runScript =>
      exact Plan.follows_last .script (.refl state)
  | _ =>
      exact ⟨rfl, rfl⟩

/-- The plan of a nested script consists of its file. -/
theorem follows_planScript (position : Position) (text : String) :
    (Task.planScript environment state position text).Follows
      ⟨fuel + 1, environment, .nested position text, state⟩ state := by
  simp only [Task.planScript]
  cases created : Session.create environment.nested.options environment.nested.logger with
  | error error =>
      exact State.Alongside.refl state
  | ok session =>
      dsimp only
      rcases parsed : session.parse Standard.runScript.name text with
        ⟨records, error | ⟨script, started⟩⟩
      · exact ⟨rfl, rfl⟩
      · exact ⟨.nested rfl rfl rfl created parsed rfl, fun _ _ =>
          ⟨⟨rfl, rfl⟩, fun _ => ⟨rfl, rfl⟩⟩⟩

/-- The plan of a statement consists of its parts. -/
theorem follows_planStmt (statement : Stmt) :
    (Task.planStmt environment state statement).Follows
      ⟨fuel + 1, environment, .stmt statement, state⟩ state := by
  cases statement with
  | expr value =>
      exact Plan.follows_after .evaluated (.refl state) fun _ _ => id
  | declare mutable name value place =>
      exact Plan.follows_after .declared (.refl state) fun _ _ alongside =>
        ⟨alongside.functions, alongside.depth⟩
  | assign defines name value =>
      refine Plan.follows_after .assigned (.refl state) fun result final alongside => ?_
      cases defines with
      | true =>
          exact ⟨alongside.functions, alongside.depth⟩
      | false =>
          show state.Alongside (writeVariable name result final).state
          simp only [writeVariable]
          split <;> exact ⟨alongside.functions, alongside.depth⟩
  | choice branches place =>
      exact Plan.follows_last .choice (.refl state)
  | forEach key bound body place =>
      refine Plan.follows_after .bound (.refl state) fun value between alongside => ?_
      have sameState := state_loopElements bound.position value between
      revert sameState
      cases loopElements bound.position value between with
      | ok elements final =>
          rintro rfl
          exact Plan.follows_last .forLoop alongside
      | fail failure final =>
          rintro rfl
          exact alongside
  | whileLoop condition body place =>
      exact Plan.follows_last .whileLoop (.refl state)
  | «return» value place =>
      cases value with
      | none =>
          exact .refl state
      | some value =>
          exact Plan.follows_after .returned (.refl state) fun _ _ => id
  | control kind place =>
      cases kind <;> exact State.Alongside.refl state

/-- After a round a loop goes on, or its plan is over. -/
theorem follows_afterRound
    {step : Step}
    {next : State → Plan Signal}
    {signal : Signal}
    {final : State}
    (alongside : step.state.Alongside final)
    (goesOn : (next final).Follows step step.state) :
    (Task.afterRound next signal final).Follows step step.state := by
  cases signal with
  | returned value =>
      exact alongside
  | broke =>
      exact alongside
  | _ =>
      exact goesOn

/-- A plan takes the steps that a step can take, and leaves the functions and the depth. -/
theorem follows_plan (task : Task) :
    (task.plan environment state).Follows ⟨fuel + 1, environment, task, state⟩
      (Step.mk (fuel + 1) environment task state).settled := by
  cases task with
  | expr expression =>
      exact follows_planExpr fuel environment state expression
  | exprs expressions =>
      cases expressions with
      | nil =>
          exact .refl state
      | cons first rest =>
          refine Plan.follows_after .firstExpr (.refl state) fun _ between alongside => ?_
          exact Plan.follows_after .otherExprs alongside fun _ _ => id
  | truth expression =>
      refine Plan.follows_after .condition (.refl state) fun value final alongside => ?_
      cases value.truth environment.options.numericTruth <;> exact alongside
  | call position function arguments =>
      exact follows_planCall fuel environment state position arguments function
  | standard position function arguments =>
      exact follows_planStandard fuel environment state position arguments function
  | nested position text =>
      exact follows_planScript fuel environment state position text
  | stmts statements =>
      cases statements with
      | nil =>
          exact .refl state
      | cons first rest =>
          refine Plan.follows_after .firstStmt (.refl state) fun signal between alongside => ?_
          cases signal with
          | normal =>
              exact Plan.follows_last .otherStmts alongside
          | _ =>
              exact alongside
  | stmt statement =>
      exact follows_planStmt fuel environment state statement
  | choice branches =>
      cases branches with
      | nil =>
          exact .refl state
      | cons first rest =>
          refine Plan.follows_after .branchCondition (.refl state)
            fun holds between alongside => ?_
          cases holds with
          | true =>
              exact Plan.follows_closing .branchBody ⟨alongside.functions, alongside.depth⟩
                fun final settled => alongside.trans ⟨settled.functions, settled.depth⟩
          | false =>
              exact Plan.follows_last .otherBranches alongside
  | forLoop position key statements elements =>
      simp only [Task.plan]
      rcases visited : elements.next? with _ | ⟨element, rest⟩
      · exact State.Alongside.refl state
      · dsimp only
        split
        · exact state.alongside_glance
        · refine Plan.follows_takes .forRound ⟨rfl, rfl⟩
            (fun final settled => ⟨settled.functions, settled.depth⟩) fun signal final alongside => ?_
          exact follows_afterRound alongside (Plan.follows_last (.forAgain visited) alongside)
  | whileLoop position condition statements =>
      simp only [Task.plan]
      split
      · exact state.alongside_glance
      · refine Plan.follows_after .whileCondition state.alongside_glance
          fun holds between alongside => ?_
        cases holds with
        | true =>
            refine Plan.follows_takes .whileRound ⟨alongside.functions, alongside.depth⟩
              (fun final settled => alongside.trans ⟨settled.functions, settled.depth⟩)
              fun signal final alongside => ?_
            exact follows_afterRound alongside (Plan.follows_last .whileAgain alongside)
        | false =>
            exact alongside
  | topLevel items =>
      rcases items with _ | ⟨inner | inner | inner, rest⟩
      · exact State.Alongside.refl state
      · exact Plan.follows_last .otherItems (.refl state)
      · exact Plan.follows_last .otherItems (.refl state)
      · refine Plan.follows_after .statement ⟨rfl, rfl⟩ fun _ between alongside => ?_
        exact Plan.follows_last .otherItems alongside
  | file script =>
      simp only [Task.plan, Step.settled]
      cases hoists : hoist script.origin script.file.items state with
      | fail failure final =>
          exact alongside_fileResult _ _ (.fail failure final)
      | ok _ hoisted =>
          refine ⟨.content rfl rfl rfl hoists, fun final settled => ?_⟩
          have alongside : hoisted.Alongside final := by cases fuel <;> exact settled
          exact ⟨alongside, fun _ => alongside.trans (alongside_fileResult _ _ (.ok () final))⟩

end Plans

namespace Step

theorem follows_plan (step : Step) : step.plan.Follows step step.settled := by
  rcases step with ⟨_ | fuel, environment, task, state⟩
  · exact .refl state
  · exact Evaluation.follows_plan fuel environment state task

end Step

/-- What a plan promises holds, if the steps that it takes leave the functions and the depth. -/
theorem Plan.Follows.outcome
    {Result : Type}
    {step : Step}
    {base : State}
    {relay : Failure → State → Outcome Result}
    {plan : Plan Result}
    (follows : plan.Follows step base)
    (relays : ∀ failure (state : State), state.Alongside (relay failure state).state)
    (settle :
      ∀ taken ∈ plan.steps (step.fuel - 1), taken.settled.Alongside taken.outcome.state) :
    base.Alongside (plan.outcome (step.fuel - 1) relay).state ∧
      ∀ taken ∈ plan.steps (step.fuel - 1), step.Edge taken := by
  induction plan with
  | ends outcome =>
      exact ⟨follows, by simp [Plan.steps]⟩
  | takes environment task state change next inductionHypothesis =>
      simp only [Plan.Follows] at follows
      obtain ⟨edge, goesOn⟩ := follows
      simp only [Plan.steps, List.mem_cons, forall_eq_or_imp] at settle ⊢
      obtain ⟨firstSettles, laterSettle⟩ := settle
      obtain ⟨changed, next⟩ := goesOn _ firstSettles
      simp only [Plan.outcome]
      split
      · next result final ended =>
          rw [ended] at laterSettle changed next
          obtain ⟨reached, laterEdges⟩ := inductionHypothesis _ _ (next result) laterSettle
          exact ⟨reached, edge, laterEdges⟩
      · next failure final ended =>
          rw [ended] at changed
          exact ⟨changed.trans (relays failure _), edge, by simp⟩

namespace Step

/-- However a step ends, it leaves the functions and the depth of calls. -/
theorem settled_alongside (step : Step) : step.settled.Alongside step.outcome.state := by
  induction step using Step.induction with
  | steps step inductionHypothesis =>
      rw [step.outcome_eq]
      exact (step.follows_plan.outcome (alongside_relay _ _) inductionHypothesis).1

/-- A step takes steps in these ways and in no others. -/
theorem edge_of_mem
    {step taken : Step}
    (member : taken ∈ step.substeps) :
    step.Edge taken :=
  (step.follows_plan.outcome (alongside_relay step.environment step.task)
    fun taken _ => taken.settled_alongside).2 taken member

end Step

end Evaluation

end Scripting
