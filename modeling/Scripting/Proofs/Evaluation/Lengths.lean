import Scripting.Proofs.Evaluation.Rounds

namespace Scripting

/-!
# Lengths

A value has a length exactly if a loop can visit its elements.  The length is their number as far
as it fits in a signed word of 64 bits; only the widest ranges have more elements than that.
-/

namespace Elements

theorem visits_values (remaining : List Value) :
    (Elements.values remaining).Visits remaining := by
  induction remaining with
  | nil =>
      exact .finished rfl
  | cons first rest inductionHypothesis =>
      exact .visit rfl inductionHypothesis

end Elements

/-- The bounds of a range give the number of its elements, up to the word. -/
theorem rangeLength_eq (low high : Int64) :
    (if high < low then 0 else high - low + 1) =
      Int64.ofNat (numbersBetween low.toInt high.toInt).length := by
  rw [length_numbersBetween]
  apply Int64.toInt_inj.mp
  split
  · next empty =>
      have none : (high.toInt - low.toInt + 1).toNat = 0 := by
        rw [Int64.lt_iff_toInt_lt] at empty
        omega
      rw [none]
      rfl
  · next notEmpty =>
      have counted : ((high.toInt - low.toInt + 1).toNat : Int) = high.toInt - low.toInt + 1 := by
        rw [Int64.lt_iff_toInt_lt] at notEmpty
        omega
      rw [Int64.toInt_add, Int64.toInt_sub, Int64.toInt_one, Int64.toInt_ofNat', counted,
        Int.bmod_add_bmod]

namespace Value

/-- What has elements visits some values, and their number up to the word is its length. -/
theorem exists_visits_length
    {value : Value}
    {elements : Elements}
    (visited : value.elements = .ok elements) :
    ∃ values, elements.Visits values ∧ value.length = .ok (Int64.ofNat values.length) := by
  cases value with
  | range low high wide =>
      cases visited
      refine ⟨_, Elements.visits_numbers low high wide, ?_⟩
      rw [List.length_map, ← rangeLength_eq]
      rfl
  | list members =>
      cases visited
      exact ⟨members, Elements.visits_values members, rfl⟩
  | string text =>
      cases visited
      refine ⟨_, Elements.visits_values _, ?_⟩
      rw [List.length_map, String.length_toList]
      rfl
  | _ =>
      cases visited

theorem length_eq_ok_iff (value : Value) :
    (∃ length, value.length = .ok length) ↔ ∃ elements, value.elements = .ok elements := by
  cases value <;> simp [length, elements]

/-- A whole number that becomes a value stays the number that it is. -/
theorem number?_ofInt64 (number : Int64) :
    (ofInt64 number).number? = some number.toInt := by
  unfold ofInt64
  split
  · next fits =>
      simp only [Bool.and_eq_true, decide_eq_true_eq] at fits
      have isKept : number.toInt32.toInt = number.toInt := by
        rw [Int64.toInt_toInt32]
        have lowest : Int32.minValue.toInt = -2 ^ 31 := rfl
        have greatest : Int32.maxValue.toInt = 2 ^ 31 - 1 := rfl
        exact Int.bmod_eq_of_le (by omega) (by omega)
      simp only [number?, integral?, Option.map_some, Int32.toInt_toInt64, isKept]
  · rfl

end Value

namespace Evaluation

/-- A script that asks for the length of a value gets it as a number. -/
theorem callFunction_length
    {value : Value}
    {length : Int64}
    (hasLength : value.length = .ok length)
    (fuel : Nat)
    (environment : Environment)
    (position : Position)
    (state : State) :
    ∃ result after,
      callFunction (fuel + 2) environment position (.builtin (.standard .length)) [value] state =
        .ok result after ∧
      result.number? = some length.toInt := by
  have noFault : (Builtin.standard .length).argumentFault? [value] = none := rfl
  refine ⟨.ofInt64 length,
    state.note (logged environment.logger .timing (.callTook Standard.length.name)), ?_,
    Value.number?_ofInt64 length⟩
  simp only [callFunction, noFault, callStandard, lengthCall, onlyArgument, List.headD_cons,
    hasLength]
  rfl

/-- A value has a length exactly if it can be visited.  Its length is the number of the elements
that are visited, reduced to the word, so that it is this number exactly if fewer than two to the
63rd are visited.  A script that calls the length function gets that number, and a loop over the
value that has fuel for its rounds, that is not interrupted, and that no round leaves, has one round
for each of the elements, in order. -/
theorem lengths_count_elements (value : Value) :
    ((∃ length, value.length = .ok length) ↔ ∃ elements, value.elements = .ok elements) ∧
    ∀ elements, value.elements = .ok elements →
      ∃ values length,
        elements.Visits values ∧
        value.length = .ok length ∧
        length.toInt = (values.length : Int).bmod (2 ^ 64) ∧
        (length.toInt = values.length ↔ values.length < 2 ^ 63) ∧
        (∀ fuel environment position state, ∃ result after,
          callFunction (fuel + 2) environment position (.builtin (.standard .length)) [value]
            state = .ok result after ∧
          result.number? = some length.toInt) ∧
        ∀ (loop : Step) (key : Identifier) (bound : Expr) (body : Block) (place : Position)
            (between : State),
          loop.task = .stmt (.forEach key bound body place) →
          evalExpr (loop.fuel - 1) loop.environment bound loop.state = .ok value between →
          values.length + 1 < loop.fuel →
          (∀ round ∈ loop.rounds, round.Proceeds) →
          (∀ final, loop.ending? ≠ some (.fail (interruption loop.environment place) final)) →
          List.Forall₂ (Step.IsRound body.statements key.text) loop.rounds values ∧
            loop.rounds.length = values.length := by
  refine ⟨value.length_eq_ok_iff, fun elements visited => ?_⟩
  obtain ⟨values, visits, hasLength⟩ := Value.exists_visits_length visited
  have reduced : (Int64.ofNat values.length).toInt = (values.length : Int).bmod (2 ^ 64) :=
    Int64.toInt_ofNat'
  refine ⟨values, _, visits, hasLength, reduced, ⟨fun isCount => ?_, Int64.toInt_ofNat_of_lt⟩,
    callFunction_length hasLength, ?_⟩
  · have := (Int64.ofNat values.length).toInt_lt
    omega
  · intro loop key bound body place between isLoop evaluated enough proceed notInterrupted
    obtain ⟨rounds, ending⟩ := rounds_forEach isLoop (by omega) evaluated visited
    rw [rounds] at proceed ⊢
    rw [ending] at notInterrupted
    have areRounds := (rounds_of_visits visits (by omega) proceed notInterrupted).1
    exact ⟨areRounds, areRounds.length_eq⟩

/-- The numbers from zero on that fit in the word are one more than it can count, and their count is
said to be negative. -/
theorem length_of_half_the_word_is_negative :
    (∃ values,
      (Elements.numbers 0 9223372036854775807 true).Visits values ∧ values.length = 2 ^ 63) ∧
    (Value.range 0 9223372036854775807 true).length = .ok (-9223372036854775808) := by
  refine ⟨⟨_, Elements.visits_numbers _ _ _, ?_⟩, rfl⟩
  rw [List.length_map, length_numbersBetween]
  rfl

end Evaluation

end Scripting
