import Scripting.Proofs.Evaluation.Printing

namespace Scripting

/-!
# More fuel

A step that comes to an end with some fuel comes to the same end with more.  One that uses its fuel
up has printed the first lines of what it prints with more.
-/

/-- One step ends as another one does, or runs out of fuel when it has printed the first of the
lines that the other one prints. -/
inductive Outcome.Approaches {Result : Type} : Outcome Result → Outcome Result → Prop where
  | same (outcome : Outcome Result) :
      Approaches outcome outcome
  | cutOff {state : State} {outcome : Outcome Result} :
      state.lines <+: outcome.state.lines →
      Approaches (.fail .outOfFuel state) outcome

namespace Outcome.Approaches

variable {First Second Result : Type}

theorem trans
    {first second third : Outcome Result}
    (firstApproaches : first.Approaches second)
    (secondApproaches : second.Approaches third) :
    first.Approaches third := by
  cases firstApproaches with
  | same =>
      exact secondApproaches
  | cutOff started =>
      cases secondApproaches with
      | same =>
          exact .cutOff started
      | cutOff goesOn =>
          exact .cutOff (started.trans goesOn)

theorem lines
    {first second : Outcome Result}
    (approaches : first.Approaches second) :
    first.state.lines <+: second.state.lines := by
  cases approaches with
  | same =>
      exact List.prefix_rfl
  | cutOff started =>
      exact started

/-- What follows one step approaches what follows the other. -/
theorem andThen
    {first second : Outcome First}
    {next following : First → State → Outcome Second}
    (approaches : first.Approaches second)
    (continues : ∀ result state, (next result state).Approaches (following result state))
    (grows : ∀ result state, state.lines <+: (following result state).state.lines) :
    (first.andThen next).Approaches (second.andThen following) := by
  cases approaches with
  | same =>
      cases first with
      | ok result state =>
          exact continues result state
      | fail failure state =>
          exact .same _
  | cutOff started =>
      refine .cutOff (started.trans ?_)
      cases second with
      | ok result state =>
          exact grows result state
      | fail failure state =>
          exact List.prefix_rfl

end Outcome.Approaches

namespace Evaluation

/-- A plan approaches its end with more fuel, if its steps do. -/
theorem Plan.approaches
    {Result : Type}
    {plan : Plan Result}
    {printing : Bool}
    {printed : List String}
    {fuel more : Nat}
    {relay : Failure → State → Outcome Result}
    (handsOn : plan.HandsOn printing printed)
    (relays : ∀ failure (state : State), (relay failure state).state.lines = state.lines)
    (relaysFuel : ∀ state, relay .outOfFuel state = .fail .outOfFuel state)
    (approach :
      ∀ taken ∈ plan.steps fuel, taken.outcome.Approaches { taken with fuel := more }.outcome) :
    (plan.outcome fuel relay).Approaches (plan.outcome more relay) := by
  induction plan generalizing printed with
  | ends outcome =>
      exact .same outcome
  | takes environment task state change next inductionHypothesis =>
      obtain ⟨-, goesOn⟩ := handsOn
      have grow (rest : Plan Result) : ∀ taken ∈ rest.steps more,
          taken.state.lines <+: taken.outcome.state.lines :=
        fun taken _ => taken.lines_grow
      simp only [Plan.steps, List.mem_cons, forall_eq_or_imp] at approach
      obtain ⟨firstApproaches, laterApproach⟩ := approach
      simp only [Plan.outcome]
      revert firstApproaches laterApproach
      generalize (Step.mk more environment task state).outcome = larger
      generalize (Step.mk fuel environment task state).outcome = smaller
      intro firstApproaches laterApproach
      cases firstApproaches with
      | same =>
          cases larger with
          | ok result final =>
              exact inductionHypothesis _ _ ((goesOn final).2 result) laterApproach
          | fail failure final =>
              exact .same _
      | @cutOff reached _ started =>
          dsimp only
          rw [relaysFuel]
          refine .cutOff ?_
          rw [(goesOn reached).1]
          refine started.trans ?_
          cases larger with
          | ok result final =>
              exact ((goesOn final).2 result).grows relays (grow _)
          | fail failure final =>
              dsimp only
              rw [relays, (goesOn final).1]
              exact List.prefix_rfl

theorem Task.relay_outOfFuel (environment : Environment) (task : Task) (state : State) :
    task.relay environment .outOfFuel state = .fail .outOfFuel state := by
  cases task with
  | call position function arguments =>
      cases function <;> rfl
  | _ =>
      rfl

/-- With more fuel a step goes on as with less, and further. -/
theorem Step.approaches
    {step : Step}
    {more : Nat}
    (enough : step.fuel ≤ more) :
    step.outcome.Approaches { step with fuel := more }.outcome := by
  induction step using Step.induction generalizing more with
  | steps step inductionHypothesis =>
      rcases step with ⟨_ | fuel, environment, task, state⟩
      · rw [show (Step.mk 0 environment task state).outcome = .fail .outOfFuel state from
          Task.run_zero environment state task]
        exact .cutOff (Step.lines_grow ⟨more, environment, task, state⟩)
      · obtain ⟨fewer, rfl⟩ : ∃ fewer, more = fewer + 1 := ⟨more - 1, by simp at enough; omega⟩
        rw [Step.outcome_eq, Step.outcome_eq]
        refine Plan.approaches (Step.handsOn_plan ⟨fuel + 1, environment, task, state⟩)
          (lines_relay environment task) (Task.relay_outOfFuel environment task)
          fun taken member => ?_
        refine inductionHypothesis taken member ?_
        rw [Plan.fuel_of_mem_steps member]
        exact Nat.le_of_succ_le_succ enough

/-- A task that is done with more fuel goes on as with less, and further. -/
theorem Task.run_approaches
    {fuel more : Nat}
    (enough : fuel ≤ more)
    (environment : Environment)
    (task : Task)
    (state : State) :
    (task.run fuel environment state).Approaches (task.run more environment state) :=
  @Step.approaches ⟨fuel, environment, task, state⟩ more enough

end Evaluation

end Scripting
