import Scripting.Proofs.Evaluation.Printing
import Scripting.Proofs.Session.Agreement

namespace Scripting

/-!
# Cancelled runs

A run asks whether it has been cancelled where a call or a round of a loop begins, and a call begins
before its arguments are evaluated.  So a call that prints and whose arguments were being evaluated
when the run was cancelled may still print its line.  Apart from such calls a cancelled run prints
nothing, and what it printed before is what it prints when nobody cancels it.
-/

/-- The same environment, in which nobody cancels the run. -/
def Environment.uncancelled (environment : Environment) : Environment :=
  { environment with cancellation := .never }

namespace Environment

variable {environment : Environment} {state later : State}

@[simp] theorem cancelled_uncancelled : environment.uncancelled.cancelled state = false :=
  rfl

@[simp] theorem options_uncancelled : environment.uncancelled.options = environment.options :=
  rfl

@[simp] theorem nested_uncancelled :
    environment.uncancelled.nested = environment.nested.uncancelled :=
  rfl

@[simp] theorem logger_uncancelled : environment.uncancelled.logger = environment.logger :=
  rfl

/-- A run that is cancelled after a number of lines is cancelled once they are printed. -/
theorem cancelled_iff {lines : Nat} (limit : environment.cancellation = .afterLines lines) :
    environment.cancelled state = true ↔ lines ≤ state.lines.length := by
  simp [cancelled, limit, Cancellation.afterLines, State.lines]

/-- A run that is cancelled stays cancelled while it prints. -/
theorem cancelled_of_prefix
    {other : Environment}
    {lines : Nat}
    (limit : environment.cancellation = .afterLines lines)
    (isCancelled : environment.cancelled state = true)
    (same : other.cancellation = environment.cancellation)
    (grown : state.lines <+: later.lines) :
    other.cancelled later = true :=
  (cancelled_iff (same.trans limit)).mpr
    (Nat.le_trans ((cancelled_iff limit).mp isCancelled) grown.length_le)

end Environment

namespace Evaluation

/-- Whether a task is to call the function that prints, with arguments that are there. -/
def Task.prints : Task → Bool
  | .call _ (.builtin (.standard .print)) _ => true
  | .standard _ .print _ => true
  | _ => false

/-- What prints is a call of the print function. -/
theorem Task.eq_of_isPrint
    {task : Task}
    (isPrint : task.isPrint = true) :
    ∃ position arguments, task = .standard position .print arguments := by
  unfold Task.isPrint at isPrint
  split at isPrint
  · exact ⟨_, _, rfl⟩
  · cases isPrint

section Counting

variable {Result : Type} {plan : Plan Result} {printing : Bool} {printed : List String}
variable {fuel : Nat} {relay : Failure → State → Outcome Result}

/-- Every step of a plan starts with what was printed before the plan. -/
theorem Plan.HandsOn.started
    (handsOn : plan.HandsOn printing printed) :
    ∀ taken ∈ plan.steps fuel, printed <+: taken.state.lines := by
  induction plan generalizing printed with
  | ends outcome =>
      simp [Plan.steps]
  | takes environment task state change next inductionHypothesis =>
      obtain ⟨rfl, goesOn⟩ := handsOn
      simp only [Plan.steps, List.mem_cons, forall_eq_or_imp]
      refine ⟨List.prefix_rfl, ?_⟩
      split
      · next result final ended =>
          have grown := (Step.mk fuel environment task state).lines_grow
          rw [ended] at grown
          exact fun taken member =>
            grown.trans (inductionHypothesis _ _ ((goesOn final).2 result) taken member)
      · simp

/-- If each step prints a line only where that is its task, a plan prints no more lines than it
takes such steps, but for the line that is its own task. -/
theorem Plan.HandsOn.length_le
    (handsOn : plan.HandsOn printing printed)
    (relays : ∀ failure (state : State), (relay failure state).state.lines = state.lines)
    (bounded :
      ∀ taken ∈ plan.steps fuel,
        taken.outcome.state.lines.length ≤
          taken.state.lines.length + taken.task.prints.toNat) :
    (plan.outcome fuel relay).state.lines.length ≤
      printed.length + (plan.steps fuel).countP (·.task.prints) + printing.toNat := by
  induction plan generalizing printed with
  | ends outcome =>
      rcases handsOn with same | ⟨rfl, line, more⟩
      · simp [Plan.outcome, Plan.steps, same]
      · simp [Plan.outcome, Plan.steps, more]
  | takes environment task state change next inductionHypothesis =>
      obtain ⟨rfl, goesOn⟩ := handsOn
      simp only [Plan.steps, List.mem_cons, forall_eq_or_imp] at bounded
      obtain ⟨firstBounded, laterBounded⟩ := bounded
      simp only [Plan.outcome, Plan.steps, List.countP_cons]
      have firstCounts : (if task.prints = true then 1 else 0) = task.prints.toNat := by
        cases task.prints <;> rfl
      rw [firstCounts]
      split
      · next result final ended =>
          rw [ended] at firstBounded laterBounded
          have rest := inductionHypothesis _ _ ((goesOn final).2 result) laterBounded
          change final.lines.length ≤ _ at firstBounded
          omega
      · next failure final ended =>
          rw [ended] at firstBounded
          change final.lines.length ≤ _ at firstBounded
          rw [relays, (goesOn final).1]
          omega

/-- A plan that closes something after a step takes this step only. -/
theorem Plan.steps_closing_of_mem
    {environment : Environment}
    {task : Task}
    {state : State}
    {change : State → State}
    {taken : Step}
    (member : taken ∈ (Plan.closing environment task state change).steps fuel) :
    (Plan.closing environment task state change).steps fuel = [taken] := by
  rw [Plan.mem_steps_closing.mp member, Plan.steps_closing]

end Counting

namespace Step

/-- Whether the run has been cancelled when a step starts. -/
def Cancelled (step : Step) : Prop :=
  step.environment.cancelled step.state = true

/-- A step is cancelled by the same schedule as the step that takes it. -/
theorem cancellation_eq
    {step taken : Step}
    (member : taken ∈ step.substeps) :
    taken.environment.cancellation = step.environment.cancellation := by
  cases edge_of_mem member with
  | part _ sameEnvironment _ =>
      rw [sameEnvironment]
  | body _ _ sameEnvironment _ _ _ =>
      rw [sameEnvironment]
  | content _ _ sameEnvironment _ =>
      rw [sameEnvironment]
  | nested _ _ sameEnvironment _ _ _ =>
      rw [sameEnvironment]
      rfl

/-- What comes to be taken after a cancellation is cancelled too. -/
theorem Cancelled.of_taken
    {step taken : Step}
    {lines : Nat}
    (isCancelled : step.Cancelled)
    (limit : step.environment.cancellation = .afterLines lines)
    (member : taken ∈ step.substeps) :
    taken.Cancelled :=
  Environment.cancelled_of_prefix limit isCancelled (cancellation_eq member)
    (step.handsOn_plan.started taken member)

/-- The function that prints is called once the arguments of an expression are there, and there is
no other way to it.  Whether the run has been cancelled is asked before. -/
theorem substeps_of_prints
    {step taken : Step}
    (member : taken ∈ step.substeps)
    (prints : taken.task.prints = true) :
    (step.task.prints = true ∧ step.task.isPrint = false ∧ step.substeps = [taken]) ∨
      ∃ function arguments evaluation,
        step.task = .expr (.call function arguments) ∧ ¬ step.Cancelled ∧
          step.state.functions[function.text]? = some (.builtin (.standard .print)) ∧
          evaluation.task = .exprs arguments ∧ step.substeps = [evaluation, taken] := by
  rcases step with ⟨_ | fuel, environment, task, state⟩
  · cases member
  · rcases taken with ⟨takenFuel, takenEnvironment, takenTask, takenState⟩
    cases edge_of_mem member with
    | body _ executes _ _ _ _ =>
        rw [executes] at prints
        cases prints
    | content _ executes _ _ =>
        rw [executes] at prints
        cases prints
    | nested _ executes _ _ _ _ =>
        rw [executes] at prints
        cases prints
    | part part _ _ =>
        dsimp only at part prints
        cases part with
        | @callee callee function arguments values found =>
            obtain rfl : callee = .builtin (.standard .print) := by
              unfold Task.prints at prints
              split at prints <;> simp_all
            refine .inr ⟨function, arguments, ⟨fuel, environment, .exprs arguments, state.glance⟩,
              rfl, ?_⟩
            by_cases isCancelled : environment.cancelled state = true
            · simp [substeps, plan, Task.plan, Task.planExpr, isCancelled, Plan.steps] at member
            · refine ⟨isCancelled, found, rfl, ?_⟩
              simp only [substeps, plan, Task.plan, Task.planExpr, isCancelled, found, Plan.after,
                Bool.false_eq_true, ↓reduceIte] at member ⊢
              simp only [Plan.steps, List.mem_cons] at member ⊢
              rcases member with sameStep | member
              · cases sameStep
              · revert member
                split
                · exact fun member => congrArg (List.cons _) (Plan.steps_closing_of_mem member)
                · simp
        | @standard position function arguments =>
            obtain rfl : function = .print := by
              cases function <;> first | rfl | cases prints
            refine .inl ⟨rfl, rfl, ?_⟩
            simp only [substeps, plan, Task.plan, Task.planCall] at member ⊢
            revert member
            split
            · simp [Plan.steps]
            · exact Plan.steps_closing_of_mem
        | _ =>
            cases prints

/-- Of the steps that a cancelled one takes, one at most prints, and only if it may print itself. -/
theorem Cancelled.countP_le
    {step : Step}
    (isCancelled : step.Cancelled) :
    step.substeps.countP (·.task.prints) + step.task.isPrint.toNat ≤ step.task.prints.toNat := by
  rcases Nat.eq_zero_or_pos (step.substeps.countP (·.task.prints)) with none | some
  · rw [none, Nat.zero_add]
    cases isPrint : step.task.isPrint with
    | true =>
        obtain ⟨position, arguments, same⟩ := Task.eq_of_isPrint isPrint
        rw [same]
        exact Nat.le_refl 1
    | false =>
        exact Nat.zero_le _
  · obtain ⟨taken, member, prints⟩ := List.countP_pos_iff.mp some
    rcases substeps_of_prints member prints with ⟨calls, notPrint, only⟩ | ⟨_, _, _, _, going, _⟩
    · simp [only, prints, calls, notPrint]
    · exact (going isCancelled).elim

/-- A cancelled step prints a line only if it is a call of the function that prints. -/
theorem Cancelled.length_le
    {step : Step}
    {lines : Nat}
    (isCancelled : step.Cancelled)
    (limit : step.environment.cancellation = .afterLines lines) :
    step.outcome.state.lines.length ≤ step.state.lines.length + step.task.prints.toNat := by
  induction step using Step.induction with
  | steps step inductionHypothesis =>
      have few := isCancelled.countP_le
      have within := step.handsOn_plan.length_le (lines_relay step.environment step.task)
        fun taken member => inductionHypothesis taken member (isCancelled.of_taken limit member)
          ((cancellation_eq member).trans limit)
      rw [← step.outcome_eq] at within
      change _ ≤ _ + step.substeps.countP _ + _ at within
      omega

/-- The call of the function that prints which waits while a step is taken for its arguments. -/
def holds (step taken : Step) : List Position :=
  match step.task, taken.task with
  | .expr (.call function _), .exprs _ =>
      match step.state.functions[function.text]? with
      | some (.builtin (.standard .print)) => [function.position]
      | _ => []
  | _, _ => []

/-- After a step is taken, only the call that has waited for it prints. -/
theorem countP_after_le
    {step taken : Step}
    {before after : List Step}
    (order : step.substeps = before ++ taken :: after) :
    after.countP (·.task.prints) ≤ (step.holds taken).length := by
  rcases Nat.eq_zero_or_pos (after.countP (·.task.prints)) with none | some
  · exact none ▸ Nat.zero_le _
  · obtain ⟨printing, later, prints⟩ := List.countP_pos_iff.mp some
    have member : printing ∈ step.substeps := by
      rw [order]
      exact List.mem_append_right _ (List.mem_cons_of_mem _ later)
    rcases substeps_of_prints member prints with
      ⟨-, -, only⟩ | ⟨function, arguments, evaluation, calls, -, found, evaluates, both⟩
    · have short := congrArg List.length (order.symm.trans only)
      have nonempty := List.length_pos_of_mem later
      simp at short
      omega
    · have short := congrArg List.length (order.symm.trans both)
      have nonempty := List.length_pos_of_mem later
      simp only [List.length_append, List.length_cons, List.length_nil] at short
      obtain rfl : before = [] := List.eq_nil_of_length_eq_zero (by omega)
      obtain ⟨rfl, rfl⟩ := List.cons.inj (order.symm.trans both)
      simp [holds, calls, evaluates, found, prints]

/-- The calls of the function that prints whose arguments are being evaluated when a step is taken,
outermost first. -/
inductive Waits : Step → List Position → Step → Prop where
  | here {step : Step} :
      Waits step [] step
  | inside {step taken last : Step} {waiting : List Position} :
      taken ∈ step.substeps →
      Waits taken waiting last →
      Waits step (step.holds taken ++ waiting) last

/-- A step prints the line of a number. -/
structure Prints (step : Step) (line : Nat) : Prop where
  isPrint : step.task.isPrint = true
  before : step.state.lines.length < line
  after : step.outcome.state.lines.length = line

/-- The same step, in a run that nobody cancels. -/
def uncancelled (step : Step) : Step :=
  { step with environment := step.environment.uncancelled }

end Step

/-- The same plan, in a run that nobody cancels. -/
def Plan.uncancelled {Result : Type} : Plan Result → Plan Result
  | .ends outcome => .ends outcome
  | .takes environment task state change next =>
      .takes environment.uncancelled task state change fun result final =>
        (next result final).uncancelled

section Plans

variable {environment : Environment} {state : State}

/-- While nothing is cancelled, expressions are planned alike. -/
theorem planExpr_uncancelled
    (goesOn : environment.cancelled state = false)
    (expression : Expr) :
    Task.planExpr environment.uncancelled state expression =
      (Task.planExpr environment state expression).uncancelled := by
  cases expression with
  | call function arguments =>
      simp only [Task.planExpr, Environment.cancelled_uncancelled, goesOn, Bool.false_eq_true,
        ↓reduceIte]
      split <;> rfl
  | _ =>
      rfl

/-- While nothing is cancelled, calls are planned alike. -/
theorem planCall_uncancelled
    (position : Position)
    (arguments : List Value)
    (function : Function) :
    Task.planCall environment.uncancelled state position arguments function =
      (Task.planCall environment state position arguments function).uncancelled := by
  cases function with
  | user callee =>
      simp only [Task.planCall]
      split
      · rfl
      · by_cases tooDeep : environment.options.depthLimit ≤ state.depth
        · rw [if_pos tooDeep, if_pos (by exact tooDeep)]
          rfl
        · rw [if_neg tooDeep, if_neg (by exact tooDeep)]
          rfl
  | builtin callee =>
      simp only [Task.planCall]
      split
      · rfl
      · cases callee <;> rfl

/-- Inner scripts are planned alike. -/
theorem planScript_uncancelled (position : Position) (text : String) :
    Task.planScript environment.uncancelled state position text =
      (Task.planScript environment state position text).uncancelled := by
  simp only [Task.planScript, Environment.nested_uncancelled, Environment.options_uncancelled,
    Environment.logger_uncancelled]
  split
  · rfl
  · split <;> rfl

/-- While nothing is cancelled, statements are planned alike. -/
theorem planStmt_uncancelled (statement : Stmt) :
    Task.planStmt environment.uncancelled state statement =
      (Task.planStmt environment state statement).uncancelled := by
  cases statement with
  | assign defines name value =>
      cases defines <;> rfl
  | forEach key bound body place =>
      simp only [Task.planStmt, Plan.after, Plan.uncancelled]
      congr 1
      funext value between
      cases loopElements bound.position value between <;> rfl
  | «return» value place =>
      cases value <;> rfl
  | control kind place =>
      cases kind <;> rfl
  | _ =>
      rfl

/-- What comes after a round depends on how it ended, not on a cancellation. -/
theorem afterRound_uncancelled
    {next : State → Plan Signal}
    (signal : Signal)
    (final : State) :
    (Task.afterRound next signal final).uncancelled =
      Task.afterRound (fun final => (next final).uncancelled) signal final := by
  cases signal <;> rfl

/-- A task that is not cancelled when it starts takes the same steps in a run that nobody
cancels. -/
theorem plan_uncancelled
    (goesOn : environment.cancelled state = false)
    (task : Task) :
    task.plan environment.uncancelled state = (task.plan environment state).uncancelled := by
  cases task with
  | expr expression =>
      exact planExpr_uncancelled goesOn expression
  | exprs expressions =>
      cases expressions <;> rfl
  | truth expression =>
      simp only [Task.plan, Plan.after, Plan.uncancelled, Environment.options_uncancelled]
      congr 1
      funext value final
      cases value.truth environment.options.numericTruth <;> rfl
  | call position function arguments =>
      exact planCall_uncancelled position arguments function
  | standard position function arguments =>
      cases function <;> rfl
  | nested position text =>
      exact planScript_uncancelled position text
  | stmts statements =>
      cases statements with
      | nil =>
          rfl
      | cons first rest =>
          simp only [Task.plan, Plan.after, Plan.uncancelled]
          congr 1
          funext signal between
          cases signal <;> rfl
  | stmt statement =>
      exact planStmt_uncancelled statement
  | choice branches =>
      cases branches with
      | nil =>
          rfl
      | cons first rest =>
          simp only [Task.plan, Plan.after, Plan.uncancelled]
          congr 1
          funext holds between
          cases holds <;> rfl
  | forLoop position key statements elements =>
      simp only [Task.plan, Environment.cancelled_uncancelled, goesOn, Bool.false_eq_true,
        ↓reduceIte]
      rcases elements.next? with _ | ⟨element, rest⟩
      · rfl
      · simp only [Plan.uncancelled, afterRound_uncancelled]
        rfl
  | whileLoop position condition statements =>
      simp only [Task.plan, Environment.cancelled_uncancelled, goesOn, Bool.false_eq_true,
        ↓reduceIte, Plan.after, Plan.uncancelled]
      congr 1
      funext holds between
      cases holds with
      | true =>
          simp only [↓reduceIte, Plan.uncancelled, afterRound_uncancelled]
          rfl
      | false =>
          rfl
  | topLevel items =>
      rcases items with _ | ⟨inner | inner | inner, rest⟩ <;> rfl
  | file script =>
      simp only [Task.plan]
      cases hoist script.origin script.file.items state <;> rfl

end Plans

/-- How a step ends in a run that is cancelled after a number of lines, compared with how it ends in
one that is not.  Either the lines are not printed during the step, and it ends in the same way; or
the last of them is printed, and besides at most as many as were waiting then. -/
inductive Step.CutsOff (lines : Nat) (step : Step) : Prop where
  | earlier :
      step.outcome = step.uncancelled.outcome →
      step.outcome.state.lines.length < lines →
      CutsOff lines step
  | reached {waiting : List Position} {last : Step} :
      step.Waits waiting last →
      last.Prints lines →
      last.outcome.state.lines <+: step.outcome.state.lines →
      last.outcome.state.lines <+: step.uncancelled.outcome.state.lines →
      step.outcome.state.lines.length ≤ lines + waiting.length →
      CutsOff lines step

/-- Without the cancellation a plan hands on the same lines. -/
theorem Plan.HandsOn.uncancelled
    {Result : Type}
    {plan : Plan Result}
    {printing : Bool}
    {printed : List String}
    (handsOn : plan.HandsOn printing printed) :
    plan.uncancelled.HandsOn printing printed := by
  induction plan generalizing printed with
  | ends outcome =>
      exact handsOn
  | takes environment task state change next inductionHypothesis =>
      obtain ⟨started, goesOn⟩ := handsOn
      exact ⟨started, fun final => ⟨(goesOn final).1, fun result =>
        inductionHypothesis result (change final) ((goesOn final).2 result)⟩⟩

/-- What the first step of a plan has printed stays printed. -/
theorem Plan.HandsOn.outcome_extends
    {Result : Type}
    {environment : Environment}
    {task : Task}
    {state : State}
    {change : State → State}
    {next : task.Result → State → Plan Result}
    {printing : Bool}
    {printed : List String}
    {relay : Failure → State → Outcome Result}
    (handsOn : (Plan.takes environment task state change next).HandsOn printing printed)
    (relays : ∀ failure (state : State), (relay failure state).state.lines = state.lines)
    (fuel : Nat) :
    (Step.mk fuel environment task state).outcome.state.lines <+:
      ((Plan.takes environment task state change next).outcome fuel relay).state.lines := by
  obtain ⟨-, goesOn⟩ := handsOn
  simp only [Plan.outcome]
  split
  · next result final ended =>
      rw [ended]
      exact ((goesOn final).2 result).grows relays fun taken _ => taken.lines_grow
  · next failure final ended =>
      rw [ended, relays, (goesOn final).1]
      exact List.prefix_rfl

/-- How a plan that itself prints nothing ends in a run that is cancelled after a number of lines,
if its steps are cut off there. -/
theorem Plan.cutsOff
    {Result : Type}
    {plan : Plan Result}
    {printed : List String}
    {fuel lines : Nat}
    {relay : Failure → State → Outcome Result}
    {held : Step → List Position}
    (handsOn : plan.HandsOn false printed)
    (few : printed.length < lines)
    (relays : ∀ failure (state : State), (relay failure state).state.lines = state.lines)
    (cut : ∀ taken ∈ plan.steps fuel, taken.state.lines.length < lines → taken.CutsOff lines)
    (silent :
      ∀ taken ∈ plan.steps fuel, lines ≤ taken.state.lines.length →
        taken.outcome.state.lines.length ≤
          taken.state.lines.length + taken.task.prints.toNat)
    (later :
      ∀ before taken after, plan.steps fuel = before ++ taken :: after →
        after.countP (·.task.prints) ≤ (held taken).length) :
    (plan.outcome fuel relay = plan.uncancelled.outcome fuel relay ∧
        (plan.outcome fuel relay).state.lines.length < lines) ∨
      ∃ taken ∈ plan.steps fuel, ∃ waiting last,
        taken.Waits waiting last ∧ last.Prints lines ∧
          last.outcome.state.lines <+: (plan.outcome fuel relay).state.lines ∧
          last.outcome.state.lines <+: (plan.uncancelled.outcome fuel relay).state.lines ∧
          (plan.outcome fuel relay).state.lines.length ≤
            lines + (held taken ++ waiting).length := by
  induction plan generalizing printed with
  | ends outcome =>
      rcases handsOn with same | ⟨⟨⟩, -⟩
      refine .inl ⟨rfl, ?_⟩
      simpa [Plan.outcome, same] using few
  | takes environment task state change next inductionHypothesis =>
      have printedFirst := handsOn.outcome_extends relays fuel
      have printedFirstThere := handsOn.uncancelled.outcome_extends relays fuel
      obtain ⟨rfl, goesOn⟩ := handsOn
      simp only [Plan.steps, List.mem_cons, forall_eq_or_imp] at cut silent later
      obtain ⟨firstCut, laterCut⟩ := cut
      obtain ⟨-, laterSilent⟩ := silent
      have laterCounts := later [] _ _ rfl
      cases firstCut few with
      | earlier same short =>
          simp only [Plan.outcome, Plan.uncancelled, Plan.steps]
          change Step.outcome ⟨fuel, environment, task, state⟩ =
            Step.outcome ⟨fuel, environment.uncancelled, task, state⟩ at same
          rw [← same]
          cases ended : (Step.mk fuel environment task state).outcome with
          | ok result final =>
              rw [ended] at short laterCut laterSilent later
              rcases inductionHypothesis result (change final) ((goesOn final).2 result) short
                  laterCut laterSilent fun before taken after order =>
                    later (_ :: before) taken after (congrArg (List.cons _) order) with
                unchanged | ⟨taken, member, found⟩
              · exact .inl unchanged
              · exact .inr ⟨taken, List.mem_cons_of_mem _ member, found⟩
          | fail failure final =>
              rw [ended] at short
              refine .inl ⟨rfl, ?_⟩
              rw [relays, (goesOn final).1]
              exact short
      | @reached waiting last waits prints printedHere printedThere within =>
          refine .inr ⟨⟨fuel, environment, task, state⟩, Plan.mem_steps_takes.mpr (.inl rfl),
            waiting, last, waits, prints, printedHere.trans printedFirst,
            printedThere.trans printedFirstThere, ?_⟩
          have reached := printedHere.length_le
          rw [prints.after] at reached
          simp only [Plan.outcome, List.length_append]
          cases ended : (Step.mk fuel environment task state).outcome with
          | ok result final =>
              rw [ended] at within reached laterSilent laterCounts
              have rest := (goesOn final).2 result
              have restWithin := rest.length_le relays fun taken member =>
                laterSilent taken member
                  (Nat.le_trans reached (rest.started taken member).length_le)
              change final.lines.length ≤ _ at within
              simp only [Bool.toNat_false] at restWithin laterCounts ⊢
              omega
          | fail failure final =>
              rw [ended] at within
              change final.lines.length ≤ _ at within
              simp only [relays, (goesOn final).1]
              omega

/-- A step that is to print a line does so whether or not the run can be cancelled. -/
theorem Step.cutsOff_of_isPrint
    {step : Step}
    {lines : Nat}
    (isPrint : step.task.isPrint = true)
    (few : step.state.lines.length < lines) :
    step.CutsOff lines := by
  obtain ⟨fuel, environment, task, state⟩ := step
  obtain ⟨position, arguments, rfl⟩ := Task.eq_of_isPrint isPrint
  rcases fuel with _ | fuel
  · exact .earlier rfl few
  · have grown : (Step.mk (fuel + 1) environment (.standard position .print arguments)
        state).outcome.state.lines.length = state.lines.length + 1 := by
      rw [Step.outcome_eq]
      exact congrArg List.length (State.lines_print ..) |>.trans List.length_append
    by_cases short : state.lines.length + 1 < lines
    · exact .earlier rfl (grown ▸ short)
    · have full : state.lines.length + 1 = lines := by
        change state.lines.length < lines at few
        omega
      exact .reached .here ⟨rfl, few, grown.trans full⟩ List.prefix_rfl List.prefix_rfl
        (Nat.le_of_eq (grown.trans full))

/-- A step in a run that is cancelled after a number of lines is cut off there. -/
theorem Step.cutsOff
    {step : Step}
    {lines : Nat}
    (limit : step.environment.cancellation = .afterLines lines)
    (few : step.state.lines.length < lines) :
    step.CutsOff lines := by
  induction step using Step.induction with
  | steps step inductionHypothesis =>
      have goesOn : step.environment.cancelled step.state = false := by
        rw [Bool.eq_false_iff]
        intro isCancelled
        exact Nat.not_lt_of_le ((Environment.cancelled_iff limit).mp isCancelled) few
      cases isPrint : step.task.isPrint with
      | true =>
          exact cutsOff_of_isPrint isPrint few
      | false =>
          have samePlan : step.uncancelled.plan = step.plan.uncancelled := by
            rcases step with ⟨_ | fuel, environment, task, state⟩
            · rfl
            · exact plan_uncancelled goesOn task
          have sameRelay :
              step.task.relay step.environment.uncancelled = step.task.relay step.environment := by
            cases step.task <;> rfl
          have sameOutcome : step.uncancelled.outcome =
              step.plan.uncancelled.outcome (step.fuel - 1) (step.task.relay step.environment) := by
            rw [← samePlan, ← sameRelay]
            exact step.uncancelled.outcome_eq
          have handsOn := step.handsOn_plan
          rw [isPrint] at handsOn
          have cut (taken : Step) (member : taken ∈ step.substeps)
              (short : taken.state.lines.length < lines) :
              taken.CutsOff lines :=
            inductionHypothesis taken member ((cancellation_eq member).trans limit) short
          have silent (taken : Step) (member : taken ∈ step.substeps)
              (reached : lines ≤ taken.state.lines.length) :
              taken.outcome.state.lines.length ≤
                taken.state.lines.length + taken.task.prints.toNat :=
            have sameLimit := (cancellation_eq member).trans limit
            Cancelled.length_le ((Environment.cancelled_iff sameLimit).mpr reached) sameLimit
          rcases Plan.cutsOff handsOn few (lines_relay step.environment step.task) cut silent
              fun before taken after order => countP_after_le order with
            ⟨unchanged, short⟩ | ⟨taken, member, waiting, last, waits, prints, here, there, within⟩
          · rw [← sameOutcome, ← step.outcome_eq] at unchanged
            rw [← step.outcome_eq] at short
            exact .earlier unchanged short
          · rw [← step.outcome_eq] at here within
            rw [← sameOutcome] at there
            exact .reached (.inside member waits) prints here there within

end Evaluation

/-- The same limits for a run that is cancelled after a number of lines, or never. -/
def Limits.cancelledAfter (limits : Limits) (cancelAfter : Option Nat) : Limits :=
  { limits with cancellation := .ofLines? cancelAfter }

namespace Session

/-- A run that is cancelled after a number of lines prints up to them what it prints when nobody
cancels it, and is the same run if it prints fewer.  After them it prints only lines of calls whose
arguments were being evaluated when the last of them was printed, at most one for each. -/
theorem cancelled_run_prints_only_what_waits
    (session : Session)
    (limits : Limits)
    (lines : Nat)
    (name text : String) :
    ((session.exec (limits.cancelledAfter none) name text).output.length < lines →
        session.exec (limits.cancelledAfter (some lines)) name text =
          session.exec (limits.cancelledAfter none) name text) ∧
      ∃ late,
        (session.exec (limits.cancelledAfter (some lines)) name text).output =
            (session.exec (limits.cancelledAfter none) name text).output.take lines ++ late ∧
          (late ≠ [] →
            ∃ records script started waiting last,
              session.parse name text = (records, .ok (script, started)) ∧
                (started.firstStep (limits.cancelledAfter (some lines)) records script).Waits
                  waiting last ∧
                last.Prints lines ∧ late.length ≤ waiting.length) := by
  rcases parsed : session.parse name text with ⟨records, error | ⟨script, started⟩⟩
  · simp [exec, parsed]
  · let start := started.firstStep (limits.cancelledAfter (some lines)) records script
    have cutEq : session.exec (limits.cancelledAfter (some lines)) name text =
        started.execution start.outcome.state (.ofOutcome start.outcome) :=
      (exec_of_accepted parsed _).trans (started.runAfter_eq _ records script)
    have wholeEq : session.exec (limits.cancelledAfter none) name text =
        started.execution start.uncancelled.outcome.state
          (.ofOutcome start.uncancelled.outcome) :=
      (exec_of_accepted parsed _).trans (started.runAfter_eq _ records script)
    rw [cutEq, wholeEq]
    show (start.uncancelled.outcome.state.lines.length < lines → _) ∧
      ∃ late, start.outcome.state.lines =
        start.uncancelled.outcome.state.lines.take lines ++ late ∧ _
    rcases Nat.eq_zero_or_pos lines with rfl | positive
    · have isCancelled : start.Cancelled :=
        (Environment.cancelled_iff rfl).mpr (Nat.zero_le _)
      have silent : start.outcome.state.lines = [] :=
        List.eq_nil_of_length_eq_zero (Nat.le_zero.mp (isCancelled.length_le rfl))
      exact ⟨fun short => (Nat.not_lt_zero _ short).elim, [], silent,
        fun late => (late rfl).elim⟩
    · have cut : start.CutsOff lines := Evaluation.Step.cutsOff rfl positive
      cases cut with
      | earlier same short =>
          have sameLines :
              start.outcome.state.lines = start.uncancelled.outcome.state.lines :=
            congrArg (fun outcome : Outcome Unit => outcome.state.lines) same
          rw [sameLines] at short
          refine ⟨fun _ => ?_, [], ?_, fun late => (late rfl).elim⟩
          · exact congrArg (fun outcome : Outcome Unit =>
              started.execution outcome.state (.ofOutcome outcome)) same
          · rw [List.take_of_length_le (Nat.le_of_lt short), List.append_nil, sameLines]
      | @reached waiting last waits prints here there within =>
          have sameFront : start.outcome.state.lines.take lines =
              start.uncancelled.outcome.state.lines.take lines := by
            rw [← prints.after, ← List.prefix_iff_eq_take.mp here,
              ← List.prefix_iff_eq_take.mp there]
          have reached : lines ≤ start.uncancelled.outcome.state.lines.length :=
            prints.after ▸ there.length_le
          refine ⟨fun short => (Nat.not_lt_of_le reached short).elim,
            start.outcome.state.lines.drop lines, ?_, fun _ => ?_⟩
          · rw [← sameFront, List.take_append_drop]
          · refine ⟨records, script, started, waiting, last, rfl, waits, prints, ?_⟩
            rw [List.length_drop]
            omega

/-- What a script prints in a new session, if it is cancelled after a number of lines or never. -/
def printedBy (text : String) (cancelAfter : Option Nat) : List String :=
  (usual.exec ((Limits.still 60).cancelledAfter cancelAfter) "main" text).output

/-- A script that prints what a function returns that prints itself. -/
def echoingScript : String :=
  "fun echo(n) \x7b\n  print(n)\n  return n + 1\n\x7d\nprint(echo(1))\nprint(echo(3))"

/-- A script that prints what a script comes to that prints itself. -/
def reportingScript : String :=
  "print(nerve_run(\"print(1) print(2)\"))"

/-- The call that waits when a run is cancelled prints its line, and this may be a line that is
never printed when nobody cancels the run. -/
theorem waiting_call_prints_after_cancellation :
    printedBy echoingScript none = ["1", "2", "3", "4"] ∧
      printedBy echoingScript (some 1) = ["1", "2"] ∧
      printedBy reportingScript none = ["1", "2", "null"] ∧
      printedBy reportingScript (some 1) =
        ["1", "nerve_run:1:10: interrupted: context canceled"] := by
  refine ⟨?_, ?_, ?_, ?_⟩ <;> decide +kernel

end Session

end Scripting
