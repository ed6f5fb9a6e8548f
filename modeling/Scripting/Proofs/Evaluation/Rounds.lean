import Scripting.Proofs.Evaluation.Signals
import Scripting.Proofs.Value.Ranges

namespace Scripting

/-!
# The rounds of a loop

A loop takes a step for its statements in each round.  If it is not cancelled and no round leaves
it, then a loop over some elements has one round for each that these visit, in order, with its key
bound to the element.
-/

namespace Evaluation

namespace Step

/-- What a step that a loop takes adds to the rounds: itself, if it executes the statements of the
loop, or the rounds of what is left of the loop. -/
def roundsFrom (roundsOf : Step → List Step) (taken : Step) : List Step :=
  match taken.task with
  | .stmts _ => [taken]
  | .forLoop .. => roundsOf taken
  | .whileLoop .. => roundsOf taken
  | _ => []

/-- The rounds that a step for a loop leads to, down to a number of levels. -/
def roundsWithin : Nat → Step → List Step
  | 0, _ => []
  | levels + 1, step => step.substeps.flatMap (roundsFrom (roundsWithin levels))

/-- The rounds of a loop, in order: each executes the statements of the loop. -/
def rounds (loop : Step) : List Step :=
  loop.roundsWithin loop.fuel

theorem rounds_of_substeps
    {loop : Step}
    {less : Nat}
    {taken : List Step}
    (started : loop.fuel = less + 1)
    (takes : loop.substeps = taken) :
    loop.rounds = taken.flatMap (roundsFrom (roundsWithin less)) := by
  rw [rounds, started, roundsWithin, takes]

/-- A round lets its loop go on: it is not left, and nothing fails. -/
def Proceeds (round : Step) : Prop :=
  ∃ signal final, round.EndsWith signal final ∧ (signal = .normal ∨ signal = .continued)

/-- A step executes statements of a loop, with the key of the loop bound to a value. -/
structure IsRound (statements : List Stmt) (key : String) (round : Step) (value : Value) :
    Prop where
  task : round.task = .stmts statements
  bound : round.state.scopes.find? key = some ⟨value, false⟩

end Step

section ForLoop

variable {fuel : Nat} {environment : Environment} {position : Position} {key : String}
  {statements : List Stmt} {elements rest : Elements} {value : Value} {state : State}

/-- A step for what is left of a loop over elements. -/
def forStep (fuel : Nat) (environment : Environment) (position : Position) (key : String)
    (statements : List Stmt) (elements : Elements) (state : State) : Step :=
  ⟨fuel, environment, .forLoop position key statements elements, state⟩

/-- The first round of a loop over elements. -/
def firstRound (fuel : Nat) (environment : Environment) (key : String) (statements : List Stmt)
    (value : Value) (state : State) : Step :=
  ⟨fuel, environment, .stmts statements, (state.glance.enter "for loop").define key value false⟩

theorem isRound_firstRound :
    (firstRound fuel environment key statements value state).IsRound statements key value :=
  ⟨rfl, ScopeChain.find?_define_self _ _ _⟩

/-- A loop without elements ends without a round. -/
theorem rounds_forStep_of_none (next : elements.next? = none) :
    (forStep (fuel + 1) environment position key statements elements state).rounds = [] ∧
      (forStep (fuel + 1) environment position key statements elements state).EndsWith .normal
        state := by
  have plan : (forStep (fuel + 1) environment position key statements elements state).plan =
      .ends (.ok .normal state) := by
    simp only [forStep, Step.plan, Task.plan, next]
  have substeps :
      (forStep (fuel + 1) environment position key statements elements state).substeps = [] := by
    rw [Step.substeps, plan]
    rfl
  refine ⟨Step.rounds_of_substeps rfl substeps, ?_⟩
  simp only [forStep, Step.EndsWith, Step.ending?, Step.outcome, Task.run, execFor, next]

/-- A cancelled loop with an element left is interrupted. -/
theorem ending?_forStep_of_cancelled
    (next : elements.next? = some (value, rest))
    (isCancelled : environment.cancelled state = true) :
    (forStep (fuel + 1) environment position key statements elements state).ending? =
      some (.fail (interruption environment position) state.glance) := by
  simp only [forStep, Step.ending?, Step.outcome, Task.run, execFor, next, isCancelled, if_true]

/-- Unless the run is cancelled, a loop with an element takes a round, and then what is left of the
loop if the round lets it go on. -/
theorem plan_forStep
    (next : elements.next? = some (value, rest))
    (notCancelled : environment.cancelled state = false) :
    (forStep (fuel + 1) environment position key statements elements state).plan =
      roundPlan environment statements ((state.glance.enter "for loop").define key value false)
        (.last environment (.forLoop position key statements rest)) := by
  simp only [forStep, Step.plan, Task.plan, next, notCancelled]
  rfl

/-- A loop with an element has a round for it, unless the run is cancelled. -/
theorem firstRound_mem_rounds
    (next : elements.next? = some (value, rest))
    (notCancelled : environment.cancelled state = false) :
    firstRound fuel environment key statements value state ∈
      (forStep (fuel + 1) environment position key statements elements state).rounds := by
  have member : firstRound fuel environment key statements value state ∈
      (forStep (fuel + 1) environment position key statements elements state).substeps := by
    rw [Step.substeps, plan_forStep next notCancelled]
    exact Plan.mem_steps_takes.mpr (.inl rfl)
  rw [Step.rounds_of_substeps rfl rfl]
  exact List.mem_flatMap.mpr ⟨_, member, List.mem_singleton_self _⟩

/-- A loop whose first round lets it go on has this round and those of what is left, and ends as
what is left does. -/
theorem rounds_forStep
    (position : Position)
    (next : elements.next? = some (value, rest))
    (notCancelled : environment.cancelled state = false)
    (proceeds : (firstRound fuel environment key statements value state).Proceeds) :
    ∃ between,
      (forStep (fuel + 1) environment position key statements elements state).rounds =
        firstRound fuel environment key statements value state ::
          (forStep fuel environment position key statements rest between).rounds ∧
      (forStep (fuel + 1) environment position key statements elements state).ending? =
        (forStep fuel environment position key statements rest between).ending? := by
  obtain ⟨signal, final, ends, goesOn⟩ := proceeds
  have ended : Task.run fuel environment (.stmts statements)
      ((state.glance.enter "for loop").define key value false) = .ok signal final :=
    Option.some.inj ends
  refine ⟨final.leave, ?_, ?_⟩
  · have substeps :
        (forStep (fuel + 1) environment position key statements elements state).substeps =
          [firstRound fuel environment key statements value state,
            forStep fuel environment position key statements rest final.leave] := by
      rw [Step.substeps, plan_forStep next notCancelled]
      refine (Plan.steps_takes_of_eq_ok ended).trans ?_
      rcases goesOn with rfl | rfl <;> exact congrArg _ (Plan.steps_closing _ _ _ _)
    exact (Step.rounds_of_substeps rfl substeps).trans
      (congrArg (List.cons _) (List.append_nil _))
  · simp only [Task.run] at ended
    simp only [forStep, Step.ending?, Step.outcome, Task.run, execFor, next, notCancelled, ended,
      Outcome.afterwards, Outcome.andThen]
    rcases goesOn with rfl | rfl <;> rfl

/-- A loop that is not interrupted, and that no round leaves, has a round for each element. -/
theorem rounds_of_visits
    {values : List Value}
    (visits : elements.Visits values)
    (enough : values.length < fuel)
    (proceed :
      ∀ round ∈ (forStep fuel environment position key statements elements state).rounds,
        round.Proceeds)
    (notInterrupted :
      ∀ final, (forStep fuel environment position key statements elements state).ending? ≠
        some (.fail (interruption environment position) final)) :
    List.Forall₂ (Step.IsRound statements key)
        (forStep fuel environment position key statements elements state).rounds values ∧
      ∃ final, (forStep fuel environment position key statements elements state).EndsWith .normal
        final := by
  obtain ⟨less, rfl⟩ : ∃ less, fuel = less + 1 := ⟨fuel - 1, by omega⟩
  -- A round costs a unit of fuel and visits a value, so that there is enough for what is left.
  induction visits generalizing less state with
  | finished next =>
      obtain ⟨none, ends⟩ := rounds_forStep_of_none next
      rw [none]
      exact ⟨.nil, state, ends⟩
  | visit next _ inductionHypothesis =>
      cases isCancelled : environment.cancelled state with
      | true =>
          exact (notInterrupted _ (ending?_forStep_of_cancelled next isCancelled)).elim
      | false =>
          have proceeds := proceed _ (firstRound_mem_rounds next isCancelled)
          obtain ⟨between, rounds, ending⟩ := rounds_forStep position next isCancelled proceeds
          rw [rounds] at proceed ⊢
          rw [ending] at notInterrupted
          simp only [Step.EndsWith, ending]
          rw [List.length_cons] at enough
          obtain ⟨more, rfl⟩ : ∃ more, less = more + 1 := ⟨less - 1, by omega⟩
          obtain ⟨areRounds, ends⟩ :=
            inductionHypothesis more (Nat.lt_of_succ_lt_succ enough)
              (fun round member => proceed round (List.mem_cons_of_mem _ member)) notInterrupted
          exact ⟨.cons isRound_firstRound areRounds, ends⟩

/-- What has elements is not null. -/
theorem loopElements_of_elements
    (visited : value.elements = .ok elements)
    (position : Position)
    (state : State) :
    loopElements position value state = .ok elements state := by
  have notNull : value.isNull = false := by
    cases value with
    | null =>
        cases visited
    | _ =>
        rfl
  simp only [loopElements, notNull, visited]
  rfl

/-- A statement that is a loop over elements has the rounds of the loop, and ends as the loop
does. -/
theorem rounds_forEach
    {loop : Step}
    {name : Identifier}
    {bound : Expr}
    {body : Block}
    {between : State}
    (isLoop : loop.task = .stmt (.forEach name bound body position))
    (started : loop.fuel = fuel + 1)
    (evaluated : evalExpr fuel loop.environment bound loop.state = .ok value between)
    (visited : value.elements = .ok elements) :
    loop.rounds =
        (forStep fuel loop.environment position name.text body.statements elements between).rounds ∧
      loop.ending? =
        (forStep fuel loop.environment position name.text body.statements elements
          between).ending? := by
  obtain ⟨_, environment, _, state⟩ := loop
  cases isLoop
  cases started
  have ended : Task.run fuel environment (.expr bound) state = .ok value between := evaluated
  have iterates := loopElements_of_elements visited bound.position between
  refine ⟨?_, ?_⟩
  · have substeps :
        (Step.mk (fuel + 1) environment (.stmt (.forEach name bound body position))
          state).substeps =
          [⟨fuel, environment, .expr bound, state⟩,
            forStep fuel environment position name.text body.statements elements between] := by
      refine (Plan.steps_takes_of_eq_ok ended).trans ?_
      simp only [id, iterates, Plan.given]
      exact congrArg _ (Plan.steps_closing _ _ _ _)
    exact (Step.rounds_of_substeps rfl substeps).trans (List.append_nil _)
  · simp only [forStep, Step.ending?, Step.outcome, Task.run, exec, evaluated, iterates,
      Outcome.andThen]

end ForLoop

/-- A range of whole numbers visits the numbers from its lower to its upper bound, each once and in
order, and nothing if the upper bound is the smaller one.  They have the kind that the bounds
compute in, and who takes only some of them gets the first ones.  A loop over the range that has
fuel for its rounds, that is not interrupted, and that no round leaves, has one round for each of
the numbers, in order and with its key bound to the number, and then ends. -/
theorem ranges_are_visited_in_order
    (left right : Value)
    (a b : Int)
    (isLeft : left.number? = some a)
    (isRight : right.number? = some b) :
    ∃ range elements values,
      Operator.range.apply left right = .ok range ∧
      range.elements = .ok elements ∧
      elements.Visits values ∧
      List.Forall₂ (Value.IsNumber (left.kind.joined right.kind)) values (numbersBetween a b) ∧
      (b < a → values = []) ∧
      (∀ count, elements.take count = values.take count) ∧
      ∀ (loop : Step) (key : Identifier) (bound : Expr) (body : Block) (place : Position)
          (between : State),
        loop.task = .stmt (.forEach key bound body place) →
        evalExpr (loop.fuel - 1) loop.environment bound loop.state = .ok range between →
        values.length + 1 < loop.fuel →
        (∀ round ∈ loop.rounds, round.Proceeds) →
        (∀ final, loop.ending? ≠ some (.fail (interruption loop.environment place) final)) →
        List.Forall₂ (Step.IsRound body.statements key.text) loop.rounds values ∧
          loop.rounds.length = (b - a + 1).toNat ∧
          ∃ final, loop.EndsWith .normal final := by
  obtain ⟨low, isLow, rfl⟩ := Value.exists_integral? isLeft
  obtain ⟨high, isHigh, rfl⟩ := Value.exists_integral? isRight
  have ranged : Operator.range.apply left right =
      .ok (.range low high (left.kind = .long || right.kind = .long)) := by
    simp only [Operator.apply, Operator.evaluate, Value.rangeTo, isLow, isHigh]
  obtain ⟨values, visits, areNumbers⟩ :=
    Elements.exists_visits_numbers fun _ => Value.isNumber_ofIntegral_of_between isLow isHigh
  refine ⟨_, _, values, ranged, rfl, visits, areNumbers, fun empty => ?_, visits.take_eq, ?_⟩
  · rw [numbersBetween_of_lt empty] at areNumbers
    exact List.forall₂_nil_right_iff.mp areNumbers
  · intro loop key bound body place between isLoop evaluated enough proceed notInterrupted
    obtain ⟨rounds, ending⟩ := rounds_forEach isLoop (by omega) evaluated rfl
    rw [rounds] at proceed ⊢
    rw [ending] at notInterrupted
    simp only [Step.EndsWith, ending]
    obtain ⟨areRounds, ends⟩ := rounds_of_visits visits (by omega) proceed notInterrupted
    refine ⟨areRounds, ?_, ends⟩
    rw [areRounds.length_eq, areNumbers.length_eq, length_numbersBetween]

/-- A loop over the two greatest numbers, whose rounds go on to the next one at once. -/
def greatestLoop : Step :=
  ⟨9, freshCaller.1,
    .stmt (.forEach ⟨"k", .none⟩
      (.binary .range (.literal "" (.long 9223372036854775806) .none)
        (.literal "" (.long 9223372036854775807) .none))
      (.mk [.control .next .none] .none .none) .none),
    freshCaller.2⟩

/-- The loop has two rounds, and does not wrap. -/
theorem greatest_numbers_are_visited :
    ∃ values,
      List.Forall₂ (Value.IsNumber .long) values
        (numbersBetween 9223372036854775806 9223372036854775807) ∧
      List.Forall₂ (Step.IsRound [.control .next .none] "k") greatestLoop.rounds values ∧
      greatestLoop.rounds.length = 2 ∧
      ∃ final, greatestLoop.EndsWith .normal final := by
  obtain ⟨range, elements, values, ranged, isElements, visits, areNumbers, -, -, loops⟩ :=
    ranges_are_visited_in_order (.long 9223372036854775806) (.long 9223372036854775807)
      9223372036854775806 9223372036854775807 rfl rfl
  cases (show Except.ok (.range 9223372036854775806 9223372036854775807 true) = Except.ok range
    from ranged)
  have count : values.length = 2 := by
    rw [areNumbers.length_eq, length_numbersBetween]
    rfl
  have proceed : ∀ round ∈ greatestLoop.rounds, round.Proceeds := by
    intro round member
    have rounds : greatestLoop.rounds = [_, _] := rfl
    rw [rounds] at member
    rcases List.mem_pair.mp member with rfl | rfl
    · exact ⟨.continued, _, rfl, .inr rfl⟩
    · exact ⟨.continued, _, rfl, .inr rfl⟩
  obtain ⟨areRounds, rounds, ends⟩ := loops greatestLoop ⟨"k", .none⟩ _
    (.mk [.control .next .none] .none .none) .none freshCaller.2 rfl rfl (by rw [count]; decide)
    proceed nofun
  exact ⟨values, areNumbers, areRounds, rounds, ends⟩

end Evaluation

end Scripting
