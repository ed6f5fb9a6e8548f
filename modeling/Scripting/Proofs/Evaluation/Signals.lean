import Scripting.Proofs.Evaluation.CallTree
import Mathlib.Logic.Function.Iterate
import Mathlib.Logic.Relation

namespace Scripting

/-!
# How signals travel

A statement that ends early does so with a signal.  The statements around it pass the signal on, and
close their scopes, up to the loop whose statements they are.  A loop passes on that a function is
returned from, and keeps the other signals to itself: it ends, or goes on with its next round.
-/

/-- A statement ends early on its own, with a signal. -/
inductive Stmt.Exits : Stmt → Signal → Prop where
  | returns {value : Option Expr} {place : Position} {result : Value} :
      Exits (.return value place) (.returned result)
  | leaves {place : Position} :
      Exits (.control .leave place) .broke
  | continues {place : Position} :
      Exits (.control .next place) .continued

namespace Evaluation

namespace Task

/-- Whether a task is to execute statements of a function or of a file. -/
def isStatement : Task → Bool
  | .stmts _ => true
  | .stmt _ => true
  | .choice _ => true
  | .forLoop .. => true
  | .whileLoop .. => true
  | _ => false

/-- Whether a task is what is left to do of a loop. -/
def isLoop : Task → Bool
  | .forLoop .. => true
  | .whileLoop .. => true
  | _ => false

/-- What is left to do of a loop after a round. -/
def again? : Task → Option Task
  | .forLoop position key statements elements =>
      elements.next?.map fun (_, rest) => .forLoop position key statements rest
  | .whileLoop position condition statements => some (.whileLoop position condition statements)
  | _ => none

end Task

namespace Step

/-- How a step ends that executes statements. -/
def ending? (step : Step) : Option (Outcome Signal) :=
  match step.task, step.outcome with
  | .stmts _, outcome => some outcome
  | .stmt _, outcome => some outcome
  | .choice _, outcome => some outcome
  | .forLoop .., outcome => some outcome
  | .whileLoop .., outcome => some outcome
  | _, _ => none

/-- A step executes statements and ends with a signal. -/
def EndsWith (step : Step) (signal : Signal) (final : State) : Prop :=
  step.ending? = some (.ok signal final)

/-- A step that executes statements takes another one for some of them. -/
structure TakesStatement (step taken : Step) : Prop where
  member : taken ∈ step.substeps
  whole : step.task.isStatement = true
  part : taken.task.isStatement = true

/-- A step that executes statements takes another one for some of them, and not for a round of a
loop that it starts. -/
structure SameRound (step taken : Step) : Prop extends step.TakesStatement taken where
  round : step.task.isLoop = true → taken.task.isLoop = true

/-- A step executes statements, and during it another one does, outside of any call that it
makes. -/
def Executes : Step → Step → Prop :=
  Relation.ReflTransGen TakesStatement

/-- As `Executes`, in the same round of the same loop. -/
def Encloses : Step → Step → Prop :=
  Relation.ReflTransGen SameRound

/-- What becomes of a loop when the statements of a round have ended. -/
def AfterRound (loop : Step) : Signal → State → Prop
  | .returned value, final => loop.EndsWith (.returned value) final.leave
  | .broke, final => loop.EndsWith .normal final.leave
  | _, final =>
      ∃ again ∈ loop.substeps, loop.task.again? = some again.task ∧ again.state = final.leave ∧
        loop.ending? = again.ending?

/-- A step has one end. -/
theorem EndsWith.unique
    {step : Step}
    {signal other : Signal}
    {final otherFinal : State}
    (ends : step.EndsWith signal final)
    (endsToo : step.EndsWith other otherFinal) :
    signal = other ∧ final = otherFinal := by
  have same := ends.symm.trans endsToo
  cases same
  exact ⟨rfl, rfl⟩

end Step

section Within

variable {fuel : Nat} {environment : Environment} {state final : State} {signal : Signal}
  {taken : Step}

/-- A statement that ends early ends the statements around it. -/
theorem sameRound_stmts
    {statements : List Stmt}
    (member : taken ∈ (Step.mk (fuel + 1) environment (.stmts statements) state).substeps)
    (ends : taken.EndsWith signal final)
    (early : signal ≠ .normal) :
    (Step.mk (fuel + 1) environment (.stmts statements) state).EndsWith signal final := by
  cases statements with
  | nil =>
      cases member
  | cons first rest =>
      show some (execAll (fuel + 1) environment (first :: rest) state) = _
      rcases Plan.mem_steps_takes.mp member with rfl | ⟨result, between, firstEnds, later⟩
      · have firstEnds : exec fuel environment first state = .ok signal final :=
          Option.some.inj ends
        simp only [execAll, firstEnds, Outcome.andThen]
      · change exec fuel environment first state = .ok result between at firstEnds
        cases result with
        | normal =>
            obtain rfl := Plan.mem_steps_last.mp later
            simp only [execAll, firstEnds, Outcome.andThen]
            exact ends
        | _ =>
            cases later

/-- A statement ends as the part of it that is a statement. -/
theorem sameRound_stmt
    {statement : Stmt}
    (member : taken ∈ (Step.mk (fuel + 1) environment (.stmt statement) state).substeps)
    (isStatement : taken.task.isStatement = true) :
    (Step.mk (fuel + 1) environment (.stmt statement) state).ending? = taken.ending? := by
  show some (exec (fuel + 1) environment statement state) = _
  cases statement with
  | choice branches place =>
      obtain rfl := Plan.mem_steps_last.mp member
      rfl
  | forEach key bound body place =>
      rcases Plan.mem_steps_takes.mp member with rfl | ⟨value, between, evaluated, later⟩
      · cases isStatement
      · change evalExpr fuel environment bound state = .ok value between at evaluated
        simp only [exec, evaluated, Outcome.andThen]
        revert later
        simp only [id]
        cases loopElements bound.position value between with
        | ok elements final =>
            intro later
            obtain rfl := Plan.mem_steps_last.mp later
            rfl
        | fail failure final =>
            intro later
            cases later
  | whileLoop condition body place =>
      obtain rfl := Plan.mem_steps_last.mp member
      rfl
  | «return» value place =>
      cases value with
      | none =>
          cases member
      | some value =>
          rcases Plan.mem_steps_takes.mp member with rfl | ⟨_, _, _, later⟩
          · cases isStatement
          · cases later
  | control kind place =>
      cases kind <;> cases member
  | assign defines name value =>
      rcases Plan.mem_steps_takes.mp member with rfl | ⟨_, _, _, later⟩
      · cases isStatement
      · cases defines <;> cases later
  | expr value =>
      rcases Plan.mem_steps_takes.mp member with rfl | ⟨_, _, _, later⟩
      · cases isStatement
      · cases later
  | declare mutable name value place =>
      rcases Plan.mem_steps_takes.mp member with rfl | ⟨_, _, _, later⟩
      · cases isStatement
      · cases later

/-- A choice ends as the branches that are left do, or as the body of the first one when its frame is
left. -/
theorem sameRound_choice
    {branches : List Branch}
    (member : taken ∈ (Step.mk (fuel + 1) environment (.choice branches) state).substeps)
    (isStatement : taken.task.isStatement = true)
    (ends : taken.EndsWith signal final) :
    (Step.mk (fuel + 1) environment (.choice branches) state).EndsWith signal final ∨
      (Step.mk (fuel + 1) environment (.choice branches) state).EndsWith signal final.leave := by
  cases branches with
  | nil =>
      cases member
  | cons first rest =>
      show some (execChoice (fuel + 1) environment (first :: rest) state) = _ ∨
        some (execChoice (fuel + 1) environment (first :: rest) state) = _
      rcases Plan.mem_steps_takes.mp member with rfl | ⟨holds, between, tested, later⟩
      · cases isStatement
      · change evalCondition fuel environment first.condition state = .ok holds between at tested
        simp only [execChoice, tested, Outcome.andThen]
        cases holds with
        | true =>
            obtain rfl := Plan.mem_steps_closing.mp later
            have bodyEnds : execAll fuel environment first.body.statements (between.enter "if") =
                .ok signal final := Option.some.inj ends
            right
            simp only [↓reduceIte, bodyEnds]
            rfl
        | false =>
            obtain rfl := Plan.mem_steps_last.mp later
            exact .inl ends

end Within

section Rounds

variable {fuel : Nat} {environment : Environment} {state : State} {taken loop : Step}

/-- The plan of a round of a loop. -/
def roundPlan (environment : Environment) (statements : List Stmt) (inside : State)
    (next : State → Plan Signal) : Plan Signal :=
  .takes environment (.stmts statements) inside State.leave (Task.afterRound next)

/-- A plan that does what is left of a loop, and nothing else. -/
structure GoesOn (fuel : Nat) (environment : Environment) (next : State → Plan Signal)
    (task : Task) : Prop where
  isLoop : task.isLoop = true
  steps :
    ∀ state taken, taken ∈ (next state).steps fuel ↔ taken = ⟨fuel, environment, task, state⟩
  outcome :
    ∀ state, some ((next state).outcome fuel .fail) =
      (Step.mk fuel environment task state).ending?

/-- What a loop does: it is finished, or there is a round, after which it may go on. -/
inductive Step.Loops (loop : Step) : Prop where
  | finished
      (silent : ∀ taken ∈ loop.substeps, taken.task.isStatement = false)
      (ends : ∀ signal final, loop.EndsWith signal final → signal = .normal)
  | round {statements : List Stmt} {inside : State} {next : State → Plan Signal} {task : Task}
      (goesOn : GoesOn (loop.fuel - 1) loop.environment next task)
      (left : loop.task.again? = some task)
      (takes :
        ∀ taken : Step, taken.task.isStatement = true →
          (taken ∈ loop.substeps ↔
            taken ∈ (roundPlan loop.environment statements inside next).steps (loop.fuel - 1)))
      (ends :
        loop.ending? =
          some ((roundPlan loop.environment statements inside next).outcome (loop.fuel - 1)
            .fail))

/-- A loop over elements takes breaks and continues of its rounds for itself. -/
theorem loops_forLoop
    (position : Position)
    (key : String)
    (statements : List Stmt)
    (elements : Elements) :
    (Step.mk (fuel + 1) environment (.forLoop position key statements elements) state).Loops := by
  have ends : (Step.mk (fuel + 1) environment (.forLoop position key statements elements)
      state).ending? = some ((Task.plan environment state
        (.forLoop position key statements elements)).outcome fuel .fail) :=
    congrArg some (Task.outcome_plan fuel environment state
      (.forLoop position key statements elements)).symm
  have takes (taken : Step) :
      taken ∈ (Step.mk (fuel + 1) environment (.forLoop position key statements elements)
        state).substeps ↔ taken ∈ (Task.plan environment state
          (.forLoop position key statements elements)).steps fuel :=
    .rfl
  simp only [Task.plan] at ends takes
  cases visited : elements.next? with
  | none =>
      simp only [visited] at ends takes
      refine .finished (fun taken member => ?_) fun signal final endsWith => ?_
      · cases (takes taken).mp member
      · cases ends.symm.trans endsWith
        rfl
  | some visit =>
      obtain ⟨element, rest⟩ := visit
      simp only [visited] at ends takes
      by_cases isCancelled : environment.cancelled state = true
      · simp only [isCancelled, ↓reduceIte] at ends takes
        refine .finished (fun taken member => ?_) fun signal final endsWith => ?_
        · cases (takes taken).mp member
        · cases ends.symm.trans endsWith
      · simp only [isCancelled, Bool.false_eq_true, ↓reduceIte] at ends takes
        refine .round ⟨rfl, fun _ _ => Plan.mem_steps_last, fun final => ?_⟩ ?_
          (fun taken _ => takes taken) ends
        · exact congrArg some (Plan.outcome_last fuel environment
            (.forLoop position key statements rest) final)
        · simp [Task.again?, visited]

/-- A loop with a condition takes breaks and continues of its rounds for itself. -/
theorem loops_whileLoop
    (position : Position)
    (condition : Expr)
    (statements : List Stmt) :
    (Step.mk (fuel + 1) environment (.whileLoop position condition statements) state).Loops := by
  have ends : (Step.mk (fuel + 1) environment (.whileLoop position condition statements)
      state).ending? = some ((Task.plan environment state
        (.whileLoop position condition statements)).outcome fuel .fail) :=
    congrArg some (Task.outcome_plan fuel environment state
      (.whileLoop position condition statements)).symm
  have takes (taken : Step) :
      taken ∈ (Step.mk (fuel + 1) environment (.whileLoop position condition statements)
        state).substeps ↔ taken ∈ (Task.plan environment state
          (.whileLoop position condition statements)).steps fuel :=
    .rfl
  simp only [Task.plan] at ends takes
  by_cases isCancelled : environment.cancelled state = true
  · simp only [isCancelled, ↓reduceIte] at ends takes
    refine .finished (fun taken member => ?_) fun signal final endsWith => ?_
    · cases (takes taken).mp member
    · cases ends.symm.trans endsWith
  · simp only [isCancelled, Bool.false_eq_true, ↓reduceIte] at ends takes
    rw [Plan.outcome_after] at ends
    simp only [Plan.after, Plan.mem_steps_takes, id] at takes
    cases tested : Task.run fuel environment (.truth condition) state.glance with
    | fail failure between =>
        simp only [tested, Outcome.andThen] at ends takes
        refine .finished (fun taken member => ?_) fun signal final endsWith => ?_
        · obtain rfl | ⟨_, _, ⟨⟩, _⟩ := (takes taken).mp member
          rfl
        · cases ends.symm.trans endsWith
    | ok holds between =>
        simp only [tested, Outcome.andThen] at ends takes
        cases holds with
        | false =>
            refine .finished (fun taken member => ?_) fun signal final endsWith => ?_
            · obtain rfl | ⟨_, _, ⟨⟩, later⟩ := (takes taken).mp member
              · rfl
              · cases later
            · cases ends.symm.trans endsWith
              rfl
        | true =>
            refine .round ⟨rfl, fun _ _ => Plan.mem_steps_last, fun final => ?_⟩ rfl
              (fun taken isStatement => ⟨fun member => ?_, fun member => ?_⟩) ends
            · exact congrArg some (Plan.outcome_last fuel environment
                (.whileLoop position condition statements) final)
            · obtain rfl | ⟨_, _, ⟨⟩, later⟩ := (takes taken).mp member
              · cases isStatement
              · exact later
            · exact (takes taken).mpr (.inr ⟨true, between, rfl, member⟩)

/-- Every loop takes breaks and continues of its rounds for itself. -/
theorem Step.loops (isLoop : loop.task.isLoop = true) (started : loop.fuel ≠ 0) : loop.Loops := by
  rcases loop with ⟨_ | fuel, environment, task, state⟩
  · exact (started rfl).elim
  · cases task with
    | forLoop position key statements elements =>
        exact loops_forLoop position key statements elements
    | whileLoop position condition statements =>
        exact loops_whileLoop position condition statements
    | _ =>
        cases isLoop

theorem Task.isStatement_of_isLoop {task : Task} (isLoop : task.isLoop = true) :
    task.isStatement = true := by
  cases task <;> trivial

/-- What a loop takes of statements is a round or what is left after it. -/
theorem Step.cases_of_loop
    (member : taken ∈ loop.substeps)
    (isLoop : loop.task.isLoop = true)
    (isStatement : taken.task.isStatement = true) :
    (taken.task.isLoop = false ∧
        ∀ signal final, taken.EndsWith signal final → loop.AfterRound signal final) ∨
      (taken.task.isLoop = true ∧ loop.ending? = taken.ending?) := by
  have more := fuel_of_mem_substeps member
  cases Step.loops isLoop (by omega) with
  | finished silent _ =>
      cases (silent taken member).symm.trans isStatement
  | @round statements inside next task goesOn left takes ends =>
      have goes (final : State)
          (same : loop.ending? = some ((next final.leave).outcome (loop.fuel - 1) .fail)) :
          loop.ending? =
            (Step.mk (loop.fuel - 1) loop.environment task final.leave).ending? :=
        same.trans (goesOn.outcome _)
      rw [roundPlan, Plan.outcome_takes] at ends
      rcases Plan.mem_steps_takes.mp ((takes taken isStatement).mp member) with
        rfl | ⟨signal, final, bodyEnds, later⟩
      · refine .inl ⟨rfl, fun signal final bodyEnds => ?_⟩
        have bodyEnds : execAll (loop.fuel - 1) loop.environment statements inside =
            .ok signal final := Option.some.inj bodyEnds
        simp only [Task.run, bodyEnds, Outcome.afterwards, Outcome.andThen] at ends
        have again (takesNext : ⟨loop.fuel - 1, loop.environment, task, final.leave⟩ ∈
            (Task.afterRound next signal final.leave).steps (loop.fuel - 1)) :
            ⟨loop.fuel - 1, loop.environment, task, final.leave⟩ ∈ loop.substeps :=
          (takes _ (Task.isStatement_of_isLoop goesOn.isLoop)).mpr
            (Plan.mem_steps_takes.mpr (.inr ⟨signal, final, bodyEnds, takesNext⟩))
        cases signal with
        | returned value =>
            exact ends
        | broke =>
            exact ends
        | normal =>
            exact ⟨_, again ((goesOn.steps _ _).mpr rfl), left, rfl, goes final ends⟩
        | continued =>
            exact ⟨_, again ((goesOn.steps _ _).mpr rfl), left, rfl, goes final ends⟩
      · simp only [bodyEnds, Outcome.afterwards, Outcome.andThen] at ends
        cases signal with
        | returned value =>
            cases later
        | broke =>
            cases later
        | normal =>
            obtain rfl := (goesOn.steps _ _).mp later
            exact .inr ⟨goesOn.isLoop, goes final ends⟩
        | continued =>
            obtain rfl := (goesOn.steps _ _).mp later
            exact .inr ⟨goesOn.isLoop, goes final ends⟩

/-- A loop ends early because what is left of it does, or because a function is returned from. -/
theorem Step.source_of_loop
    {signal : Signal}
    {final : State}
    (isLoop : loop.task.isLoop = true)
    (started : loop.fuel ≠ 0)
    (ends : loop.EndsWith signal final)
    (early : signal ≠ .normal) :
    ∃ taken ∈ loop.substeps,
      (∃ between, taken.EndsWith signal between) ∧
        (taken.task.isLoop = true ∨ ∃ value, signal = .returned value) := by
  cases Step.loops isLoop started with
  | finished _ endsFinished =>
      exact (early (endsFinished signal final ends)).elim
  | @round statements inside next task goesOn left takes endsRound =>
      have ended := Option.some.inj (endsRound.symm.trans ends)
      rw [roundPlan, Plan.outcome_takes, Outcome.andThen_eq_ok] at ended
      obtain ⟨result, after, ended, goes⟩ := ended
      obtain ⟨between, bodyEnds, rfl⟩ := Outcome.afterwards_eq_ok.mp ended
      have isNext := Task.isStatement_of_isLoop goesOn.isLoop
      have again (goes : (next between.leave).outcome (loop.fuel - 1) .fail = .ok signal final)
          (takesNext : ⟨loop.fuel - 1, loop.environment, task, between.leave⟩ ∈
            (Task.afterRound next result between.leave).steps (loop.fuel - 1)) :
          ∃ taken ∈ loop.substeps, (∃ between, taken.EndsWith signal between) ∧
            (taken.task.isLoop = true ∨ ∃ value, signal = .returned value) :=
        ⟨⟨loop.fuel - 1, loop.environment, task, between.leave⟩,
          (takes _ isNext).mpr (Plan.mem_steps_takes.mpr
            (.inr ⟨result, between, bodyEnds, takesNext⟩)),
          ⟨final, (goesOn.outcome between.leave).symm.trans (congrArg some goes)⟩,
          .inl goesOn.isLoop⟩
      cases result with
      | returned value =>
          cases goes
          exact ⟨_, (takes _ rfl).mpr (Plan.mem_steps_takes.mpr (.inl rfl)),
            ⟨between, congrArg some bodyEnds⟩, .inr ⟨value, rfl⟩⟩
      | broke =>
          cases goes
          exact (early rfl).elim
      | normal =>
          exact again goes ((goesOn.steps _ _).mpr rfl)
      | continued =>
          exact again goes ((goesOn.steps _ _).mpr rfl)

end Rounds

section Sources

variable {fuel : Nat} {environment : Environment} {state final : State} {signal : Signal}

/-- Statements end early because one of them does. -/
theorem source_of_stmts
    {statements : List Stmt}
    (ends : (Step.mk (fuel + 1) environment (.stmts statements) state).EndsWith signal final)
    (early : signal ≠ .normal) :
    ∃ taken ∈ (Step.mk (fuel + 1) environment (.stmts statements) state).substeps,
      taken.EndsWith signal final := by
  have ends : execAll (fuel + 1) environment statements state = .ok signal final :=
    Option.some.inj ends
  cases statements with
  | nil =>
      cases ends
      exact (early rfl).elim
  | cons first rest =>
      rw [execAll, Outcome.andThen_eq_ok] at ends
      obtain ⟨result, between, firstEnds, restEnds⟩ := ends
      cases result with
      | normal =>
          refine ⟨⟨fuel, environment, .stmts rest, between⟩, ?_, congrArg some restEnds⟩
          exact Plan.mem_steps_takes.mpr
            (.inr ⟨.normal, between, firstEnds, Plan.mem_steps_last.mpr rfl⟩)
      | _ =>
          cases restEnds
          exact ⟨_, Plan.mem_steps_takes.mpr (.inl rfl), congrArg some firstEnds⟩

/-- A statement ends early because it says so, or a part of it does. -/
theorem source_of_stmt
    {statement : Stmt}
    (ends : (Step.mk (fuel + 1) environment (.stmt statement) state).EndsWith signal final)
    (early : signal ≠ .normal) :
    statement.Exits signal ∨
      ∃ taken ∈ (Step.mk (fuel + 1) environment (.stmt statement) state).substeps,
        taken.EndsWith signal final := by
  have ended : exec (fuel + 1) environment statement state = .ok signal final :=
    Option.some.inj ends
  cases statement with
  | expr value =>
      rw [exec, Outcome.andThen_eq_ok] at ended
      obtain ⟨_, _, _, ⟨⟩⟩ := ended
      exact (early rfl).elim
  | declare mutable name value place =>
      rw [exec, Outcome.andThen_eq_ok] at ended
      obtain ⟨_, _, _, ⟨⟩⟩ := ended
      exact (early rfl).elim
  | assign defines name value =>
      rw [exec, Outcome.andThen_eq_ok] at ended
      obtain ⟨result, between, -, written⟩ := ended
      simp only [writeVariable] at written
      split at written
      · cases written
        exact (early rfl).elim
      · split at written <;> cases written
        exact (early rfl).elim
  | choice branches place =>
      exact .inr ⟨_, Plan.mem_steps_last.mpr rfl, ends⟩
  | forEach key bound body place =>
      simp only [exec, Outcome.andThen_eq_ok] at ended
      obtain ⟨value, between, evaluated, elements, inside, visits, ended⟩ := ended
      refine .inr ⟨⟨fuel, environment, .forLoop place key.text body.statements elements, inside⟩,
        ?_, congrArg some ended⟩
      refine Plan.mem_steps_takes.mpr (.inr ⟨value, between, evaluated, ?_⟩)
      simp only [id, visits]
      exact Plan.mem_steps_last.mpr rfl
  | whileLoop condition body place =>
      exact .inr ⟨_, Plan.mem_steps_last.mpr rfl, ends⟩
  | «return» value place =>
      cases value with
      | none =>
          cases ended
          exact .inl .returns
      | some value =>
          rw [exec, Outcome.andThen_eq_ok] at ended
          obtain ⟨_, _, _, ⟨⟩⟩ := ended
          exact .inl .returns
  | control kind place =>
      cases kind with
      | leave =>
          cases ended
          exact .inl .leaves
      | next =>
          cases ended
          exact .inl .continues

/-- A choice ends early because the body that was chosen does. -/
theorem source_of_choice
    {branches : List Branch}
    (ends : (Step.mk (fuel + 1) environment (.choice branches) state).EndsWith signal final)
    (early : signal ≠ .normal) :
    ∃ taken ∈ (Step.mk (fuel + 1) environment (.choice branches) state).substeps,
      ∃ between, taken.EndsWith signal between := by
  have ends : execChoice (fuel + 1) environment branches state = .ok signal final :=
    Option.some.inj ends
  cases branches with
  | nil =>
      cases ends
      exact (early rfl).elim
  | cons first rest =>
      rw [execChoice, Outcome.andThen_eq_ok] at ends
      obtain ⟨holds, between, tested, ends⟩ := ends
      cases holds with
      | true =>
          obtain ⟨inside, bodyEnds, -⟩ := Outcome.afterwards_eq_ok.mp ends
          exact ⟨_, Plan.mem_steps_takes.mpr (.inr ⟨true, between, tested,
            Plan.mem_steps_closing.mpr rfl⟩), inside, congrArg some bodyEnds⟩
      | false =>
          exact ⟨_, Plan.mem_steps_takes.mpr (.inr ⟨false, between, tested,
            Plan.mem_steps_last.mpr rfl⟩), final, congrArg some ends⟩

end Sources

namespace Step

/-- Only statements end with a signal. -/
theorem EndsWith.isStatement
    {step : Step}
    {signal : Signal}
    {final : State}
    (ends : step.EndsWith signal final) :
    step.task.isStatement = true := by
  rcases step with ⟨fuel, environment, task, state⟩
  cases task
  case stmts | stmt | choice | forLoop | whileLoop =>
    rfl
  all_goals cases ends

/-- A step ends early because it is a statement that does so, or because a step does so that it has
taken, in the same round unless a function is returned from. -/
theorem EndsWith.source
    {step : Step}
    {signal : Signal}
    {final : State}
    (ends : step.EndsWith signal final)
    (early : signal ≠ .normal) :
    (∃ statement, step.task = .stmt statement ∧ statement.Exits signal) ∨
      ∃ taken, step.TakesStatement taken ∧ (∃ between, taken.EndsWith signal between) ∧
        (step.SameRound taken ∨ ∃ value, signal = .returned value) := by
  have isStatement := ends.isStatement
  have takes {taken : Step} {between : State} (member : taken ∈ step.substeps)
      (takenEnds : taken.EndsWith signal between) : step.TakesStatement taken :=
    ⟨member, isStatement, takenEnds.isStatement⟩
  rcases step with ⟨_ | fuel, environment, task, state⟩
  · cases task <;> cases ends
  · cases task with
    | stmts statements =>
        obtain ⟨taken, member, takenEnds⟩ := source_of_stmts ends early
        exact .inr ⟨taken, takes member takenEnds, ⟨_, takenEnds⟩,
          .inl ⟨takes member takenEnds, nofun⟩⟩
    | stmt statement =>
        rcases source_of_stmt ends early with exits | ⟨taken, member, takenEnds⟩
        · exact .inl ⟨statement, rfl, exits⟩
        · exact .inr ⟨taken, takes member takenEnds, ⟨_, takenEnds⟩,
            .inl ⟨takes member takenEnds, nofun⟩⟩
    | choice branches =>
        obtain ⟨taken, member, between, takenEnds⟩ := source_of_choice ends early
        exact .inr ⟨taken, takes member takenEnds, ⟨between, takenEnds⟩,
          .inl ⟨takes member takenEnds, nofun⟩⟩
    | forLoop position key statements elements =>
        obtain ⟨taken, member, ⟨between, takenEnds⟩, isNext⟩ := 
          source_of_loop rfl (Nat.succ_ne_zero fuel) ends early
        exact .inr ⟨taken, takes member takenEnds, ⟨between, takenEnds⟩,
          isNext.imp_left fun isLoop => ⟨takes member takenEnds, fun _ => isLoop⟩⟩
    | whileLoop position condition statements =>
        obtain ⟨taken, member, ⟨between, takenEnds⟩, isNext⟩ := 
          source_of_loop rfl (Nat.succ_ne_zero fuel) ends early
        exact .inr ⟨taken, takes member takenEnds, ⟨between, takenEnds⟩,
          isNext.imp_left fun isLoop => ⟨takes member takenEnds, fun _ => isLoop⟩⟩
    | _ =>
        cases isStatement

/-- In the same round, a signal is passed on, and at most a scope is closed. -/
theorem SameRound.endsWith
    {step taken : Step}
    {signal : Signal}
    {final : State}
    (sameRound : step.SameRound taken)
    (ends : taken.EndsWith signal final)
    (early : signal ≠ .normal) :
    step.EndsWith signal final ∨ step.EndsWith signal final.leave := by
  obtain ⟨⟨member, isStatement, isPart⟩, round⟩ := sameRound
  rcases step with ⟨_ | fuel, environment, task, state⟩
  · cases member
  · cases task with
    | stmts statements =>
        exact .inl (sameRound_stmts member ends early)
    | stmt statement =>
        exact .inl ((sameRound_stmt member isPart).trans ends)
    | choice branches =>
        exact sameRound_choice member isPart ends
    | forLoop position key statements elements =>
        rcases cases_of_loop member rfl isPart with ⟨notLoop, -⟩ | ⟨-, same⟩
        · cases notLoop.symm.trans (round rfl)
        · exact .inl (same.trans ends)
    | whileLoop position condition statements =>
        rcases cases_of_loop member rfl isPart with ⟨notLoop, -⟩ | ⟨-, same⟩
        · cases notLoop.symm.trans (round rfl)
        · exact .inl (same.trans ends)
    | _ =>
        cases isStatement

/-- That a function is returned from is passed on by all statements. -/
theorem TakesStatement.returns
    {step taken : Step}
    {value : Value}
    {final : State}
    (takes : step.TakesStatement taken)
    (returns : taken.EndsWith (.returned value) final) :
    ∃ last, step.EndsWith (.returned value) last := by
  by_cases sameRound : step.task.isLoop = true → taken.task.isLoop = true
  · rcases SameRound.endsWith ⟨takes, sameRound⟩ returns nofun with ends | ends
    · exact ⟨_, ends⟩
    · exact ⟨_, ends⟩
  · obtain ⟨isLoop, notLoop⟩ := Classical.not_imp.mp sameRound
    rcases cases_of_loop takes.member isLoop takes.part with ⟨-, ends⟩ | ⟨isLoopToo, -⟩
    · exact ⟨_, ends _ _ returns⟩
    · exact (notLoop isLoopToo).elim

/-- The failure of a statement is passed on. -/
theorem TakesStatement.fails
    {step taken : Step}
    (takes : step.TakesStatement taken)
    (fails : taken.Fails) :
    step.Fails := by
  obtain ⟨failure, final, failed⟩ := fails
  obtain ⟨after, relayed⟩ := outcome_of_fail takes.member failed
  have isStatement := takes.whole
  rcases step with ⟨fuel, environment, task, state⟩
  refine ⟨failure, after, relayed.trans ?_⟩
  cases task with
  | call position function arguments =>
      cases isStatement
  | nested position text =>
      cases isStatement
  | file script =>
      cases isStatement
  | _ =>
      rfl

/-- A return that is reached ends the whole body. -/
theorem Executes.returns
    {step reached : Step}
    {value : Value}
    {final : State}
    (executes : step.Executes reached)
    (returns : reached.EndsWith (.returned value) final) :
    ∃ last, step.EndsWith (.returned value) last := by
  induction executes generalizing final with
  | refl =>
      exact ⟨final, returns⟩
  | tail _ takes inductionHypothesis =>
      obtain ⟨between, ends⟩ := takes.returns returns
      exact inductionHypothesis ends

/-- A failure that is reached fails the whole body. -/
theorem Executes.fails
    {step reached : Step}
    (executes : step.Executes reached)
    (fails : reached.Fails) :
    step.Fails := by
  induction executes with
  | refl =>
      exact fails
  | tail _ takes inductionHypothesis =>
      exact inductionHypothesis (takes.fails fails)

/-- In the same round, a signal is passed on, and only scopes are closed. -/
theorem Encloses.endsWith
    {step reached : Step}
    {signal : Signal}
    {final : State}
    (encloses : step.Encloses reached)
    (ends : reached.EndsWith signal final)
    (early : signal ≠ .normal) :
    ∃ scopes, step.EndsWith signal (State.leave^[scopes] final) := by
  induction encloses generalizing final with
  | refl =>
      exact ⟨0, ends⟩
  | tail _ sameRound inductionHypothesis =>
      rcases sameRound.endsWith ends early with same | left
      · exact inductionHypothesis same
      · obtain ⟨scopes, ends⟩ := inductionHypothesis left
        exact ⟨scopes + 1, ends⟩

/-- A loop ends normally or by a return. -/
theorem EndsWith.of_loop
    {loop : Step}
    {signal : Signal}
    {final : State}
    (ends : loop.EndsWith signal final)
    (isLoop : loop.task.isLoop = true) :
    signal = .normal ∨ ∃ value, signal = .returned value := by
  induction loop using Step.induction generalizing final with
  | steps loop inductionHypothesis =>
      by_cases early : signal = .normal
      · exact .inl early
      · rcases ends.source early with
          ⟨statement, executes, -⟩ | ⟨taken, takes, ⟨between, takenEnds⟩, sameRound | returns⟩
        · rw [executes] at isLoop
          cases isLoop
        · exact inductionHypothesis taken takes.member takenEnds (sameRound.round isLoop)
        · exact .inr returns

/-- Where a function is returned from, a return has been executed. -/
theorem EndsWith.exists_return
    {step : Step}
    {value : Value}
    {final : State}
    (ends : step.EndsWith (.returned value) final) :
    ∃ reached returned place between,
      step.Executes reached ∧ reached.task = .stmt (.return returned place) ∧
        reached.EndsWith (.returned value) between := by
  induction step using Step.induction generalizing final with
  | steps step inductionHypothesis =>
      rcases ends.source nofun with
        ⟨statement, executes, exits⟩ | ⟨taken, takes, ⟨between, takenEnds⟩, -⟩
      · cases exits
        exact ⟨step, _, _, final, .refl, executes, ends⟩
      · obtain ⟨reached, returned, place, last, executes, isReturn, returns⟩ :=
          inductionHypothesis taken takes.member takenEnds
        exact ⟨reached, returned, place, last, .head takes executes, isReturn, returns⟩

/-- A return that does not fail ends the function, a bare one without a value. -/
theorem endsWith_of_return
    {step : Step}
    {returned : Option Expr}
    {place : Position}
    (isReturn : step.task = .stmt (.return returned place))
    (succeeds : ¬ step.Fails) :
    ∃ value final, step.EndsWith (.returned value) final ∧ (returned = none → value = .null) := by
  rcases step with ⟨_ | fuel, environment, task, state⟩
  · exact (succeeds ⟨_, _, Task.run_zero environment state task⟩).elim
  · subst isReturn
    cases returned with
    | none =>
        exact ⟨.null, state, rfl, fun _ => rfl⟩
    | some value =>
        cases evaluated : evalExpr fuel environment value state with
        | ok result final =>
            refine ⟨result, final, ?_, nofun⟩
            show some (exec (fuel + 1) environment (.return (some value) place) state) = _
            simp only [exec, evaluated, Outcome.andThen]
        | fail failure final =>
            refine (succeeds ⟨failure, final, ?_⟩).elim
            show exec (fuel + 1) environment (.return (some value) place) state = _
            simp only [exec, evaluated, Outcome.andThen]

/-- A step that ends with a signal does not fail. -/
theorem EndsWith.not_fails
    {step : Step}
    {signal : Signal}
    {final : State}
    (ends : step.EndsWith signal final) :
    ¬ step.Fails := by
  rintro ⟨failure, last, fails⟩
  rcases step with ⟨fuel, environment, task, state⟩
  unfold EndsWith ending? at ends
  rw [fails] at ends
  cases task <;> cases ends

end Step

end Evaluation

end Scripting
