import Scripting.Evaluation.Eval

namespace Scripting.Outcome

/-!
# Endings of a step

A step of a run ends with a result or with a failure, and with a state in both cases.  What holds
at the end of a composed step follows from what holds at the ends of its parts.
-/

variable {First Second Result : Type}

/-- The state in which a step ends. -/
def state : Outcome Result → State
  | .ok _ state => state
  | .fail _ state => state

/-- What holds when a step ends with a result, and what holds when it fails. -/
def Ends (outcome : Outcome Result) (finished : Result → State → Prop)
    (failed : Failure → State → Prop) : Prop :=
  match outcome with
  | .ok result state => finished result state
  | .fail failure state => failed failure state

@[simp] theorem state_ok (result : Result) (state : State) :
    (Outcome.ok result state).state = state :=
  rfl

@[simp] theorem state_fail (failure : Failure) (state : State) :
    (Outcome.fail failure state : Outcome Result).state = state :=
  rfl

@[simp] theorem ends_ok
    (result : Result)
    (state : State)
    (finished : Result → State → Prop)
    (failed : Failure → State → Prop) :
    (Outcome.ok result state).Ends finished failed ↔ finished result state :=
  .rfl

@[simp] theorem ends_fail
    (failure : Failure)
    (state : State)
    (finished : Result → State → Prop)
    (failed : Failure → State → Prop) :
    (Outcome.fail failure state).Ends finished failed ↔ failed failure state :=
  .rfl

/-- A change afterwards is made to the state of every outcome. -/
@[simp] theorem state_afterwards
    (outcome : Outcome Result)
    (change : State → State) :
    (outcome.afterwards change).state = change outcome.state := by
  cases outcome <;> rfl

/-- An outcome ends as described after a change if it does so in the changed state. -/
theorem ends_afterwards
    (outcome : Outcome Result)
    (change : State → State)
    (finished : Result → State → Prop)
    (failed : Failure → State → Prop) :
    (outcome.afterwards change).Ends finished failed ↔
      outcome.Ends (fun result state => finished result (change state))
        (fun failure state => failed failure (change state)) := by
  cases outcome <;> rfl

/-- What holds at the end of two steps, from what holds between them. -/
theorem Ends.andThen
    {outcome : Outcome First}
    {next : First → State → Outcome Second}
    {between : First → State → Prop}
    {finished : Second → State → Prop}
    {failed : Failure → State → Prop}
    (first : outcome.Ends between failed)
    (second :
      ∀ result state, between result state → (next result state).Ends finished failed) :
    (outcome.andThen next).Ends finished failed := by
  cases outcome with
  | ok result state =>
      exact second result state first
  | fail failure state =>
      exact first

/-- What is said of the end of an outcome may be weakened. -/
theorem Ends.imp
    {outcome : Outcome Result}
    {finished finished' : Result → State → Prop}
    {failed failed' : Failure → State → Prop}
    (ends : outcome.Ends finished failed)
    (finishedImp : ∀ result state, finished result state → finished' result state)
    (failedImp : ∀ failure state, failed failure state → failed' failure state) :
    outcome.Ends finished' failed' := by
  cases outcome with
  | ok result state =>
      exact finishedImp result state ends
  | fail failure state =>
      exact failedImp failure state ends

/-- What is said of results holds of the result that there is. -/
theorem Ends.of_eq_ok
    {outcome : Outcome Result}
    {finished : Result → State → Prop}
    {failed : Failure → State → Prop}
    {result : Result}
    {final : State}
    (ends : outcome.Ends finished failed)
    (ended : outcome = .ok result final) :
    finished result final := by
  subst ended
  exact ends

/-- Two steps in a row succeed exactly if the first does, and then the second. -/
theorem andThen_eq_ok
    {outcome : Outcome First}
    {next : First → State → Outcome Second}
    {result : Second}
    {final : State} :
    outcome.andThen next = .ok result final ↔
      ∃ first between, outcome = .ok first between ∧ next first between = .ok result final := by
  cases outcome with
  | ok first between =>
      constructor
      · intro continued
        exact ⟨first, between, rfl, continued⟩
      · rintro ⟨_, _, ⟨⟩, continued⟩
        exact continued
  | fail failure state =>
      simp [andThen]

/-- An outcome with a change afterwards succeeds exactly if it does so without the change. -/
theorem afterwards_eq_ok
    {outcome : Outcome Result}
    {change : State → State}
    {result : Result}
    {final : State} :
    outcome.afterwards change = .ok result final ↔
      ∃ between, outcome = .ok result between ∧ change between = final := by
  cases outcome <;> simp [afterwards, and_assoc]

end Scripting.Outcome
