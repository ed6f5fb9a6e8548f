import Scripting.Proofs.Evaluation.Keeping

namespace Scripting.Outcome

/-!
# Comparing runs

A step that starts in one state is compared with a step that starts in a related one.  All endings
are compared, or those of a step that does not run out of fuel, or only those with a result.
Nothing is said of a step that looks at a clock.
-/

/-- Which endings of steps are compared. -/
inductive Extent where
  | results
  | endings
  | everything
  deriving DecidableEq

variable {First Second Result : Type}

/-- Whether an ending is to be compared. -/
def counts (extent : Extent) : Outcome Result → Bool
  | .ok _ _ => true
  | .fail .outOfFuel _ => extent = .everything
  | .fail _ _ => extent ≠ .results

/-- Where everything is counted, every outcome counts. -/
theorem counts_everything (outcome : Outcome Result) :
    outcome.counts .everything = true := by
  rcases outcome with ⟨_, _⟩ | ⟨_ | _ | _, _⟩ <;> rfl

/-- Two steps end in the same way and in related states. -/
inductive Agrees (related : State → State → Prop) : Outcome Result → Outcome Result → Prop where
  | ok {result : Result} {final other : State} :
      related final other →
      Agrees related (.ok result final) (.ok result other)
  | fail {failure : Failure} {final other : State} :
      related final other →
      Agrees related (.fail failure final) (.fail failure other)

/-- A weaker relation on the states may be asked for. -/
theorem Agrees.imp
    {related related' : State → State → Prop}
    {outcome ending : Outcome Result}
    (agrees : outcome.Agrees related ending)
    (implies : ∀ {final other : State}, related final other → related' final other) :
    outcome.Agrees related' ending := by
  cases agrees with
  | ok isRelated =>
      exact .ok (implies isRelated)
  | fail isRelated =>
      exact .fail (implies isRelated)

/-- How a step that starts in one state goes in the related ones. -/
structure Simulated (related : State → State → Prop) (extent : Extent) (state : State)
    (outcome : Outcome Result) (elsewhere : State → Outcome Result) : Prop where
  looks : state.clockLooks ≤ outcome.state.clockLooks
  agrees :
    ∀ {other : State}, related state other →
      outcome.state.clockLooks = state.clockLooks →
      outcome.counts extent = true →
      outcome.Agrees related (elsewhere other)

namespace Simulated

variable {related : State → State → Prop} {extent : Extent} {state : State}

/-- A result is simulated where the change of the state is. -/
theorem ok
    (result : Result)
    {final : State}
    {change : State → State}
    (sameLooks : final.clockLooks = state.clockLooks)
    (changes : ∀ {other : State}, related state other → related final (change other)) :
    (Outcome.ok result final).Simulated related extent state fun other =>
      .ok result (change other) :=
  ⟨Nat.le_of_eq sameLooks.symm, fun isRelated _ _ => .ok (changes isRelated)⟩

/-- A failure is simulated where the change of the state is. -/
theorem fail
    (failure : Failure)
    {final : State}
    {change : State → State}
    (sameLooks : final.clockLooks = state.clockLooks)
    (changes : ∀ {other : State}, related state other → related final (change other)) :
    (Outcome.fail failure final : Outcome Result).Simulated related extent state fun other =>
      .fail failure (change other) :=
  ⟨Nat.le_of_eq sameLooks.symm, fun isRelated _ _ => .fail (changes isRelated)⟩

/-- A result without a change of the state is simulated. -/
theorem done (result : Result) :
    (Outcome.ok result state).Simulated related extent state fun other => .ok result other :=
  ok result rfl id

/-- A failure without a change of the state is simulated. -/
theorem failed (failure : Failure) :
    (Outcome.fail failure state : Outcome Result).Simulated related extent state
      fun other => .fail failure other :=
  fail failure rfl id

/-- A run that is out of fuel is simulated by any other, unless everything is counted. -/
theorem outOfFuel
    (notAll : extent ≠ .everything)
    (elsewhere : State → Outcome Result) :
    (Outcome.fail .outOfFuel state).Simulated related extent state elsewhere := by
  refine ⟨Nat.le_refl _, fun _ _ counted => ?_⟩
  exact (notAll (of_decide_eq_true counted)).elim

/-- Where only results are compared, nothing is to be shown of a failure. -/
theorem ofFailure
    (failure : Failure)
    {final : State}
    (sameLooks : final.clockLooks = state.clockLooks)
    (elsewhere : State → Outcome Result) :
    (Outcome.fail failure final).Simulated related .results state elsewhere := by
  refine ⟨Nat.le_of_eq sameLooks.symm, fun _ _ counted => ?_⟩
  cases failure <;> simp [counts] at counted

/-- A step may look at what related states have in common. -/
theorem congr
    {outcome : Outcome Result}
    {elsewhere elsewhere' : State → Outcome Result}
    (simulated : outcome.Simulated related extent state elsewhere)
    (same : ∀ {other : State}, related state other → elsewhere' other = elsewhere other) :
    outcome.Simulated related extent state elsewhere' :=
  ⟨simulated.looks, fun isRelated sameLooks counted =>
    same isRelated ▸ simulated.agrees isRelated sameLooks counted⟩

/-- Something may be assumed that is about neither state. -/
theorem assuming
    {outcome : Outcome Result}
    {elsewhere : State → Outcome Result}
    (simulated : outcome.Simulated related extent state elsewhere)
    (assumption : Prop) :
    outcome.Simulated (fun state other => related state other ∧ assumption) extent state
      elsewhere :=
  ⟨simulated.looks, fun ⟨isRelated, assumed⟩ sameLooks counted =>
    (simulated.agrees isRelated sameLooks counted).imp fun finalRelated =>
      ⟨finalRelated, assumed⟩⟩

/-- What was assumed may follow from how the states are related. -/
theorem discharge
    {outcome : Outcome Result}
    {elsewhere : State → Outcome Result}
    {assumption : Prop}
    (simulated :
      outcome.Simulated (fun state other => related state other ∧ assumption) extent state
        elsewhere)
    (follows : ∀ {other : State}, related state other → assumption) :
    outcome.Simulated related extent state elsewhere :=
  ⟨simulated.looks, fun isRelated sameLooks counted =>
    (simulated.agrees ⟨isRelated, follows isRelated⟩ sameLooks counted).imp And.left⟩

/-- Outcomes in sequence are simulated one after the other. -/
theorem andThen
    {outcome : Outcome First}
    {elsewhere : State → Outcome First}
    {next following : First → State → Outcome Second}
    (simulated : outcome.Simulated related extent state elsewhere)
    (continues :
      ∀ result between,
        (next result between).Simulated related extent between (following result)) :
    (outcome.andThen next).Simulated related extent state fun other =>
      (elsewhere other).andThen following := by
  cases outcome with
  | ok result between =>
      have later := continues result between
      have laterLooks := later.looks
      have startLooks : state.clockLooks ≤ between.clockLooks := simulated.looks
      refine ⟨Nat.le_trans startLooks laterLooks, fun isRelated sameLooks counted => ?_⟩
      have finalEq : (next result between).state.clockLooks = state.clockLooks := sameLooks
      have betweenEq : between.clockLooks = state.clockLooks := by omega
      have firstAgrees := simulated.agrees isRelated betweenEq rfl
      revert firstAgrees
      generalize elsewhere _ = second
      rintro ⟨betweenRelated⟩
      exact later.agrees betweenRelated (finalEq.trans betweenEq.symm) counted
  | fail failure final =>
      refine ⟨simulated.looks, fun isRelated sameLooks counted => ?_⟩
      have countedBefore :
          (Outcome.fail failure final : Outcome First).counts extent = true := by
        cases failure <;> exact counted
      have firstAgrees := simulated.agrees isRelated sameLooks countedBefore
      revert firstAgrees
      generalize elsewhere _ = second
      rintro ⟨⟩
      next finalRelated =>
        exact .fail finalRelated

/-- What becomes of the end of a step may depend on how it ended and where it started. -/
theorem result
    {outcome : Outcome First}
    {elsewhere : State → Outcome First}
    (change : State → Outcome First → Outcome Second)
    (simulated : outcome.Simulated related extent state elsewhere)
    (sameLooks : (change state outcome).state.clockLooks = outcome.state.clockLooks)
    (sameCount :
      (change state outcome).counts extent = true → outcome.counts extent = true)
    (agrees :
      ∀ {other : State} {ending : Outcome First}, related state other →
        outcome.Agrees related ending →
        (change state outcome).Agrees related (change other ending)) :
    (change state outcome).Simulated related extent state fun other =>
      change other (elsewhere other) := by
  refine ⟨sameLooks ▸ simulated.looks, fun isRelated looksEq counted => ?_⟩
  exact agrees isRelated
    (simulated.agrees isRelated (sameLooks ▸ looksEq) (sameCount counted))

/-- A change of the final state keeps outcomes simulated if it keeps states related. -/
theorem afterwards
    {outcome : Outcome Result}
    {elsewhere : State → Outcome Result}
    (change : State → State → State)
    (simulated : outcome.Simulated related extent state elsewhere)
    (sameLooks : ∀ final, (change state final).clockLooks = final.clockLooks)
    (changes :
      ∀ {other final finalOther : State}, related state other → related final finalOther →
        related (change state final) (change other finalOther)) :
    (outcome.afterwards (change state)).Simulated related extent state fun other =>
      (elsewhere other).afterwards (change other) := by
  refine simulated.result (fun start ending => ending.afterwards (change start)) ?_ ?_ ?_
  · rw [state_afterwards, sameLooks]
  · rcases outcome with ⟨_, _⟩ | ⟨_ | _ | _, _⟩ <;> exact id
  · intro other ending isRelated agrees
    cases agrees with
    | ok finalRelated =>
        exact .ok (changes isRelated finalRelated)
    | fail finalRelated =>
        exact .fail (changes isRelated finalRelated)

/-- A step may start in another state, which follows from the one before. -/
theorem inside
    {inner : State}
    {outcome : Outcome Result}
    {elsewhere : State → Outcome Result}
    {enter : State → State}
    (simulated : outcome.Simulated related extent inner elsewhere)
    (sameLooks : inner.clockLooks = state.clockLooks)
    (enters : ∀ {other : State}, related state other → related inner (enter other)) :
    outcome.Simulated related extent state fun other => elsewhere (enter other) :=
  ⟨sameLooks ▸ simulated.looks, fun isRelated looksEq counted =>
    simulated.agrees (enters isRelated) (looksEq.trans sameLooks.symm) counted⟩

end Simulated

end Scripting.Outcome
