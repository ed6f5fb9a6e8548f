import Scripting.Proofs.Value.Arithmetic
import Scripting.Value.Iteration
import Mathlib.Data.List.Forall2

namespace Scripting

/-!
# What a loop over a range visits

A range visits the whole numbers between its bounds, each once and in order.  The counter stops at
the upper bound, so it wraps at no bound, and a range of Integers has nothing that needs narrowing.
-/

/-- The whole numbers from one to another, in order. -/
def numbersBetween (low high : Int) : List Int :=
  (List.range (high - low + 1).toNat).map fun (index : Nat) => low + index

@[simp] theorem length_numbersBetween (low high : Int) :
    (numbersBetween low high).length = (high - low + 1).toNat := by
  simp [numbersBetween]

/-- The numbers between two others include both. -/
theorem mem_numbersBetween
    {low high number : Int} :
    number ∈ numbersBetween low high ↔ low ≤ number ∧ number ≤ high := by
  simp only [numbersBetween, List.mem_map, List.mem_range]
  constructor
  · rintro ⟨index, inRange, rfl⟩
    omega
  · rintro ⟨notBelow, notAbove⟩
    exact ⟨(number - low).toNat, by omega, by omega⟩

/-- No numbers lie between two in falling order. -/
theorem numbersBetween_of_lt
    {low high : Int}
    (empty : high < low) :
    numbersBetween low high = [] := by
  rw [← List.length_eq_zero_iff, length_numbersBetween]
  omega

/-- The smallest number comes first. -/
theorem numbersBetween_of_le
    {low high : Int}
    (ordered : low ≤ high) :
    numbersBetween low high = low :: numbersBetween (low + 1) high := by
  have count : (high - low + 1).toNat = (high - (low + 1) + 1).toNat + 1 := by
    omega
  rw [numbersBetween, count, List.range_succ_eq_map, List.map_cons, List.map_map]
  congr 1
  · simp
  · refine List.map_congr_left fun index _ => ?_
    simp only [Function.comp_apply, Nat.succ_eq_add_one]
    omega

namespace Elements

/-- The elements visit some values, in order, and then no more. -/
inductive Visits : Elements → List Value → Prop where
  | finished {elements : Elements} :
      elements.next? = none →
      Visits elements []
  | visit {elements rest : Elements} {value : Value} {values : List Value} :
      elements.next? = some (value, rest) →
      Visits rest values →
      Visits elements (value :: values)

/-- Who takes some elements gets the first values that are visited. -/
theorem Visits.take_eq
    {elements : Elements}
    {values : List Value}
    (visits : elements.Visits values)
    (count : Nat) :
    elements.take count = values.take count := by
  induction visits generalizing count with
  | finished next =>
      cases count with
      | zero =>
          rfl
      | succ count =>
          simp only [take, next, List.take_nil]
  | visit next _ inductionHypothesis =>
      cases count with
      | zero =>
          rfl
      | succ count =>
          simp only [take, next, inductionHypothesis, List.take_succ_cons]

/-- The last number of a range leaves nothing. -/
theorem next?_numbers_last (last : Int64) (wide : Bool) :
    (Elements.numbers last last wide).next? = some (Value.ofIntegral wide last, .values []) := by
  have notEmpty : ¬ last < last := Int64.lt_irrefl
  simp only [next?, notEmpty, if_true, if_false, Value.ofIntegral]

/-- Below the upper bound the counter does not wrap. -/
theorem next?_numbers_of_lt
    {low high : Int64}
    (wide : Bool)
    (below : low.toInt < high.toInt) :
    (Elements.numbers low high wide).next? =
        some (Value.ofIntegral wide low, .numbers (low + 1) high wide) ∧
      (low + 1).toInt = low.toInt + 1 := by
  have notEmpty : ¬ high < low := by
    rw [Int64.lt_iff_toInt_lt]
    omega
  have notLast : low ≠ high := by
    rintro rfl
    exact Int.lt_irrefl _ below
  refine ⟨by simp only [next?, notEmpty, notLast, if_false, Value.ofIntegral], ?_⟩
  have := low.le_toInt
  have := high.toInt_lt
  rw [Int64.toInt_add, Int64.toInt_one]
  exact Int.bmod_eq_of_le (by omega) (by omega)

/-- A range visits the numbers between its bounds, narrowed to its elements. -/
theorem visits_numbers (low high : Int64) (wide : Bool) :
    (Elements.numbers low high wide).Visits
      ((numbersBetween low.toInt high.toInt).map fun number =>
        Value.ofIntegral wide (.ofInt number)) := by
  generalize count : (high.toInt - low.toInt + 1).toNat = remaining
  induction remaining generalizing low with
  | zero =>
      have empty : high.toInt < low.toInt := by
        omega
      rw [numbersBetween_of_lt empty]
      exact .finished (if_pos (Int64.lt_iff_toInt_lt.mpr empty))
  | succ remaining inductionHypothesis =>
      have ordered : low.toInt ≤ high.toInt := by
        omega
      rw [numbersBetween_of_le ordered, List.map_cons, Int64.ofInt_toInt]
      rcases Int.lt_or_eq_of_le ordered with below | isLast
      · obtain ⟨next, counted⟩ := next?_numbers_of_lt wide below
        have visits := inductionHypothesis (low + 1) (by omega)
        rw [counted] at visits
        exact .visit next visits
      · obtain rfl := Int64.toInt_inj.mp isLast
        rw [numbersBetween_of_lt (Int.lt_succ _)]
        exact .visit (next?_numbers_last low wide) (.finished rfl)

/-- A range visits the numbers between its bounds, if these are elements as they are. -/
theorem exists_visits_numbers
    {low high : Int64}
    {wide : Bool}
    {kind : ValueKind}
    (areElements :
      ∀ word : Int64, low.toInt ≤ word.toInt → word.toInt ≤ high.toInt →
        (Value.ofIntegral wide word).IsNumber kind word.toInt) :
    ∃ values, (Elements.numbers low high wide).Visits values ∧
      List.Forall₂ (Value.IsNumber kind) values (numbersBetween low.toInt high.toInt) := by
  refine ⟨_, visits_numbers low high wide, ?_⟩
  rw [List.forall₂_map_left_iff, List.forall₂_same]
  intro number member
  obtain ⟨notBelow, notAbove⟩ := mem_numbersBetween.mp member
  have fits : (Int64.ofInt number).toInt = number := by
    have := low.le_toInt
    have := high.toInt_lt
    exact Int64.toInt_ofInt_of_le (by omega) (by omega)
  have isElement := areElements (.ofInt number)
  rw [fits] at isElement
  exact isElement notBelow notAbove

end Elements

namespace Value

/-- Numbers between two operands are in the word that the operands compute in. -/
theorem isNumber_ofIntegral_of_between
    {left right : Value}
    {low high word : Int64}
    (isLeft : left.integral? = some low)
    (isRight : right.integral? = some high)
    (notBelow : low.toInt ≤ word.toInt)
    (notAbove : word.toInt ≤ high.toInt) :
    IsNumber (left.kind.joined right.kind)
      (ofIntegral (left.kind = .long || right.kind = .long) word) word.toInt := by
  have isNumber := isNumber_ofIntegral isLeft isRight word
  have fits : word.toInt.bmod (left.kind.joined right.kind).modulus = word.toInt := by
    cases left with
    | integer narrowLow =>
        cases right with
        | integer narrowHigh =>
            cases isLeft
            cases isRight
            rw [Int32.toInt_toInt64] at notBelow notAbove
            have := narrowLow.le_toInt
            have := narrowHigh.toInt_lt
            show word.toInt.bmod (2 ^ 32) = word.toInt
            exact Int.bmod_eq_of_le (by omega) (by omega)
        | long wideHigh =>
            exact Int64.toInt_bmod word
        | _ =>
            cases isRight
    | long wideLow =>
        exact Int64.toInt_bmod word
    | _ =>
        cases isLeft
  rwa [fits] at isNumber

end Value

end Scripting
