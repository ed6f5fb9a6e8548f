import Scripting.Proofs.Evaluation.CallTree

namespace Scripting

/-!
# What is printed

Lines are printed by calls of one standard function and by nothing else.  Every task hands on what
has been printed from each of its steps to the next one, so that printed lines are never taken back.
-/

/-- The lines that have been printed. -/
def State.lines (state : State) : List String :=
  state.output.toList

@[simp] theorem State.lines_print (state : State) (line : String) :
    (state.print line).lines = state.lines ++ [line] := by
  simp [State.lines, State.print]

namespace Evaluation

/-- Whether a task is to print a line that is there. -/
def Task.isPrint : Task → Bool
  | .standard _ .print _ => true
  | _ => false

/-- A plan starts each step with what has been printed before, and goes on with what the step has
printed.  Only the end of a plan may print a line besides. -/
def Plan.HandsOn {Result : Type} (printing : Bool) (printed : List String) : Plan Result → Prop
  | .ends outcome =>
      outcome.state.lines = printed ∨
        printing = true ∧ ∃ line, outcome.state.lines = printed ++ [line]
  | .takes _ _ state change next =>
      state.lines = printed ∧
        ∀ final, (change final).lines = final.lines ∧
          ∀ result, (next result (change final)).HandsOn printing final.lines

section Plain

variable {Result : Type} {environment : Environment} {task : Task} {state : State}
variable {printing : Bool} {printed : List String}

/-- A step that goes on after a task hands on what it was started with. -/
theorem Plan.handsOn_after
    {next : task.Result → State → Plan Result}
    (started : state.lines = printed)
    (goesOn : ∀ result final, (next result final).HandsOn printing final.lines) :
    (Plan.after environment task state next).HandsOn printing printed :=
  ⟨started, fun final => ⟨rfl, fun result => goesOn result final⟩⟩

/-- Closing a frame or a call prints nothing of its own. -/
theorem Plan.handsOn_closing
    {change : State → State}
    (started : state.lines = printed)
    (changes : ∀ final, (change final).lines = final.lines) :
    (Plan.closing environment task state change).HandsOn printing printed :=
  ⟨started, fun final => ⟨changes final, fun _ => .inl (changes final)⟩⟩

/-- A task in last position is started with the lines printed so far. -/
theorem Plan.handsOn_last
    (started : state.lines = printed) :
    (Plan.last environment task state).HandsOn printing printed :=
  handsOn_closing started fun _ => rfl

end Plain

/-- A host function is called without a line of the script being printed. -/
theorem lines_hostCall
    (function : HostFunction)
    (took : List LogRecord)
    (position : Position)
    (arguments : List Value)
    (state : State) :
    (function.call took position arguments state).state.lines = state.lines := by
  unfold HostFunction.call
  cases function.resultIn arguments state <;> rfl

/-- Neither a written nor a refused variable prints. -/
theorem lines_writeVariable (identifier : Identifier) (value : Value) (state : State) :
    (writeVariable identifier value state).state.lines = state.lines := by
  unfold writeVariable
  split <;> rfl

/-- Defining the functions of a file prints nothing. -/
theorem lines_hoist (origin : Nat) (items : List Item) (state : State) :
    (hoist origin items state).state.lines = state.lines := by
  induction items generalizing state with
  | nil =>
      rfl
  | cons first rest inductionHypothesis =>
      cases first with
      | function declaration =>
          simp only [hoist, defineFunction]
          split
          · exact inductionHypothesis _
          · rfl
          · split
            · exact inductionHypothesis _
            · rfl
      | type declaration =>
          exact inductionHypothesis _
      | statement inner =>
          exact inductionHypothesis _

/-- The record of how a file ended is no line of its output. -/
theorem lines_fileResult
    (logger : Option Logger)
    (position : Position)
    (outcome : Outcome Unit) :
    (fileResult logger position outcome).state.lines = outcome.state.lines := by
  rcases outcome with ⟨_, final⟩ | ⟨error | message | _, final⟩ <;> rfl

/-- Handing an error on prints nothing, whatever is logged of it. -/
theorem lines_relay
    (environment : Environment)
    (task : Task)
    (failure : Failure)
    (state : State) :
    (task.relay environment failure state).state.lines = state.lines := by
  cases task with
  | call position function arguments =>
      cases function with
      | user callee =>
          show (callResult position callee.name (.fail failure state)).state.lines = _
          rw [state_callResult]
          rfl
      | builtin callee =>
          rfl
  | nested position text =>
      cases failure <;> rfl
  | file script =>
      exact lines_fileResult _ _ (.fail failure state)
  | _ =>
      rfl

section Plans

variable (environment : Environment) (state : State)

/-- No form of expression prints by itself. -/
theorem handsOn_planExpr (expression : Expr) :
    (Task.planExpr environment state expression).HandsOn false state.lines := by
  cases expression with
  | name identifier =>
      exact .inl (by rw [state_readVariable])
  | literal text value place =>
      exact .inl rfl
  | null place =>
      exact .inl rfl
  | paren inner place =>
      exact Plan.handsOn_last rfl
  | template parts place =>
      exact Plan.handsOn_after rfl fun _ _ => .inl rfl
  | list elements place =>
      exact Plan.handsOn_after rfl fun _ _ => .inl rfl
  | binary operator left right =>
      refine Plan.handsOn_after rfl fun first between => ?_
      exact Plan.handsOn_after rfl fun second final => .inl (by rw [state_applyOperator])
  | call function arguments =>
      simp only [Task.planExpr]
      split
      · exact .inl rfl
      · cases state.functions[function.text]? with
        | none =>
            exact .inl rfl
        | some callee =>
            exact Plan.handsOn_after rfl fun values between => Plan.handsOn_last rfl

/-- A call prints only through the task it starts. -/
theorem handsOn_planCall
    (position : Position)
    (arguments : List Value)
    (function : Function) :
    (Task.planCall environment state position arguments function).HandsOn false state.lines := by
  cases function with
  | user callee =>
      simp only [Task.planCall]
      split
      · exact .inl rfl
      · split
        · exact .inl rfl
        · exact ⟨rfl, fun final => ⟨rfl, fun signal => .inl (by rw [state_callResult]; rfl)⟩⟩
  | builtin callee =>
      simp only [Task.planCall]
      cases callee.argumentFault? arguments with
      | some fault =>
          exact .inl rfl
      | none =>
          cases callee with
          | host inner =>
              exact .inl (lines_hostCall ..)
          | standard inner =>
              exact Plan.handsOn_closing rfl fun _ => rfl

/-- Of the standard functions, only print adds a line. -/
theorem handsOn_planStandard
    (position : Position)
    (arguments : List Value)
    (function : Standard) :
    (Task.planStandard environment state position arguments function).HandsOn
      (Task.standard position function arguments).isPrint state.lines := by
  cases function with
  | print =>
      exact .inr ⟨rfl, _, State.lines_print ..⟩
  | length =>
      refine .inl ?_
      simp only [lengthCall]
      split <;> rfl
  | runScript =>
      exact Plan.handsOn_last rfl
  | _ =>
      exact .inl rfl

/-- Starting an inner script prints nothing. -/
theorem handsOn_planScript (position : Position) (text : String) :
    (Task.planScript environment state position text).HandsOn false state.lines := by
  simp only [Task.planScript]
  split
  · exact .inl rfl
  · split
    · exact .inl rfl
    · exact ⟨rfl, fun final => ⟨rfl, fun _ => .inl rfl⟩⟩

/-- No form of statement prints by itself. -/
theorem handsOn_planStmt (statement : Stmt) :
    (Task.planStmt environment state statement).HandsOn false state.lines := by
  cases statement with
  | expr value =>
      exact Plan.handsOn_after rfl fun _ _ => .inl rfl
  | declare mutable name value place =>
      exact Plan.handsOn_after rfl fun _ _ => .inl rfl
  | assign defines name value =>
      refine Plan.handsOn_after rfl fun result final => ?_
      cases defines with
      | true =>
          exact .inl rfl
      | false =>
          exact .inl (lines_writeVariable ..)
  | choice branches place =>
      exact Plan.handsOn_last rfl
  | forEach key bound body place =>
      refine Plan.handsOn_after rfl fun value between => ?_
      have sameState := state_loopElements bound.position value between
      revert sameState
      cases loopElements bound.position value between with
      | ok elements final =>
          rintro rfl
          exact Plan.handsOn_last rfl
      | fail failure final =>
          rintro rfl
          exact .inl rfl
  | whileLoop condition body place =>
      exact Plan.handsOn_last rfl
  | «return» value place =>
      cases value with
      | none =>
          exact .inl rfl
      | some value =>
          exact Plan.handsOn_after rfl fun _ _ => .inl rfl
  | control kind place =>
      cases kind <;> exact .inl rfl

/-- What comes after a round of a loop is started with the lines the round left. -/
theorem handsOn_afterRound
    {next : State → Plan Signal}
    (goesOn : ∀ final : State, (next final).HandsOn false final.lines)
    (signal : Signal)
    (final : State) :
    (Task.afterRound next signal final).HandsOn false final.lines := by
  cases signal with
  | returned value =>
      exact .inl rfl
  | broke =>
      exact .inl rfl
  | _ =>
      exact goesOn final

/-- A task hands on what has been printed, and prints a line only if that is what it is for. -/
theorem handsOn_plan (task : Task) :
    (task.plan environment state).HandsOn task.isPrint state.lines := by
  cases task with
  | expr expression =>
      exact handsOn_planExpr environment state expression
  | exprs expressions =>
      cases expressions with
      | nil =>
          exact .inl rfl
      | cons first rest =>
          refine Plan.handsOn_after rfl fun _ between => ?_
          exact Plan.handsOn_after rfl fun _ _ => .inl rfl
  | truth expression =>
      refine Plan.handsOn_after rfl fun value final => ?_
      cases value.truth environment.options.numericTruth <;> exact .inl rfl
  | call position function arguments =>
      exact handsOn_planCall environment state position arguments function
  | standard position function arguments =>
      exact handsOn_planStandard environment state position arguments function
  | nested position text =>
      exact handsOn_planScript environment state position text
  | stmts statements =>
      cases statements with
      | nil =>
          exact .inl rfl
      | cons first rest =>
          refine Plan.handsOn_after rfl fun signal between => ?_
          cases signal with
          | normal =>
              exact Plan.handsOn_last rfl
          | _ =>
              exact .inl rfl
  | stmt statement =>
      exact handsOn_planStmt environment state statement
  | choice branches =>
      cases branches with
      | nil =>
          exact .inl rfl
      | cons first rest =>
          refine Plan.handsOn_after rfl fun holds between => ?_
          cases holds with
          | true =>
              exact Plan.handsOn_closing rfl fun _ => rfl
          | false =>
              exact Plan.handsOn_last rfl
  | forLoop position key statements elements =>
      simp only [Task.plan]
      rcases elements.next? with _ | ⟨element, rest⟩
      · exact .inl rfl
      · dsimp only
        split
        · exact .inl rfl
        · exact ⟨rfl, fun final => ⟨rfl, fun signal =>
            handsOn_afterRound (fun _ => Plan.handsOn_last rfl) signal final.leave⟩⟩
  | whileLoop position condition statements =>
      simp only [Task.plan]
      split
      · exact .inl rfl
      · refine Plan.handsOn_after rfl fun holds between => ?_
        cases holds with
        | true =>
            exact ⟨rfl, fun final => ⟨rfl, fun signal =>
              handsOn_afterRound (fun _ => Plan.handsOn_last rfl) signal final.leave⟩⟩
        | false =>
            exact .inl rfl
  | topLevel items =>
      rcases items with _ | ⟨inner | inner | inner, rest⟩
      · exact .inl rfl
      · exact Plan.handsOn_last rfl
      · exact Plan.handsOn_last rfl
      · exact Plan.handsOn_after rfl fun _ between => Plan.handsOn_last rfl
  | file script =>
      have hoistedLines := lines_hoist script.origin script.file.items state
      simp only [Task.plan]
      revert hoistedLines
      cases hoist script.origin script.file.items state with
      | fail failure final =>
          exact fun sameLines => .inl ((lines_fileResult _ _ _).trans sameLines)
      | ok _ hoisted =>
          exact fun sameLines => Plan.handsOn_after sameLines fun _ final =>
            .inl (lines_fileResult _ _ (.ok () final))

end Plans

/-- Every step hands the printed lines on, and adds a line only if it is a call of print. -/
theorem Step.handsOn_plan (step : Step) :
    step.plan.HandsOn step.task.isPrint step.state.lines := by
  rcases step with ⟨_ | fuel, environment, task, state⟩
  · exact .inl rfl
  · exact Evaluation.handsOn_plan environment state task

/-- What has been printed stays printed, if the steps of a plan take nothing back. -/
theorem Plan.HandsOn.grows
    {Result : Type}
    {plan : Plan Result}
    {printing : Bool}
    {printed : List String}
    {fuel : Nat}
    {relay : Failure → State → Outcome Result}
    (handsOn : plan.HandsOn printing printed)
    (relays : ∀ failure (state : State), (relay failure state).state.lines = state.lines)
    (grow : ∀ taken ∈ plan.steps fuel, taken.state.lines <+: taken.outcome.state.lines) :
    printed <+: (plan.outcome fuel relay).state.lines := by
  induction plan generalizing printed with
  | ends outcome =>
      rcases handsOn with same | ⟨-, line, more⟩
      · exact same ▸ List.prefix_rfl
      · exact ⟨[line], more.symm⟩
  | takes environment task state change next inductionHypothesis =>
      obtain ⟨rfl, goesOn⟩ := handsOn
      simp only [Plan.steps, List.mem_cons, forall_eq_or_imp] at grow
      obtain ⟨firstGrows, laterGrow⟩ := grow
      simp only [Plan.outcome]
      split
      · next result final ended =>
          rw [ended] at firstGrows laterGrow
          exact firstGrows.trans (inductionHypothesis _ _ ((goesOn final).2 result) laterGrow)
      · next failure final ended =>
          rw [ended] at firstGrows
          rw [relays, (goesOn final).1]
          exact firstGrows

/-- No step takes back what has been printed. -/
theorem Step.lines_grow (step : Step) : step.state.lines <+: step.outcome.state.lines := by
  induction step using Step.induction with
  | steps step inductionHypothesis =>
      rw [step.outcome_eq]
      exact step.handsOn_plan.grows (lines_relay _ _) inductionHypothesis

end Evaluation

end Scripting
