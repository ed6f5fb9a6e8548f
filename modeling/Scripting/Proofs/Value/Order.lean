import Scripting.Proofs.Value.Arithmetic
import Mathlib.Order.Defs.LinearOrder

namespace Scripting

/-!
# Equality and order of values without floats

Among values without Floats and Doubles, equality says that two values are the same up to the width
of whole numbers, so that it is an equivalence.  Whole numbers of any width are ordered with one
another, and so are strings; no other values are ordered.
-/

namespace Value

mutual

/-- Whether there is no Float and no Double in a value, at any depth. -/
def isFloatFree : Value → Bool
  | .float _ => false
  | .double _ => false
  | .list elements => areFloatFree elements
  | _ => true

/-- Whether there is no Float and no Double in some values. -/
def areFloatFree : List Value → Bool
  | [] => true
  | first :: rest => first.isFloatFree && areFloatFree rest

end

mutual

/-- A value with all widths forgotten, those of whole numbers and those of the elements of
ranges. -/
def widened : Value → Value
  | .integer value => .long value.toInt64
  | .range low high _ => .range low high true
  | .list elements => .list (widenedAll elements)
  | value => value

/-- Values with all widths forgotten. -/
def widenedAll : List Value → List Value
  | [] => []
  | first :: rest => first.widened :: widenedAll rest

end

mutual

/-- Without floats, equality is sameness up to widths. -/
theorem equals_iff_widened :
    (left right : Value) → left.isFloatFree = true → right.isFloatFree = true →
      (left.equals right = true ↔ left.widened = right.widened)
  | left, right, leftFree, rightFree => by
      cases left with
      | list elements =>
          cases right with
          | list others =>
              have inside := equalsAll_iff_widenedAll elements others leftFree rightFree
              simpa only [equals, widened, list.injEq] using inside
          | _ =>
              simp [equals, widened, numberPair?, integral?, real?]
      | float value =>
          cases leftFree
      | double value =>
          cases leftFree
      | _ =>
          cases right with
          | float value =>
              cases rightFree
          | double value =>
              cases rightFree
          | _ =>
              simp [equals, widened, numberPair?, integral?, real?]

theorem equalsAll_iff_widenedAll :
    (left right : List Value) → areFloatFree left = true → areFloatFree right = true →
      (equalsAll left right = true ↔ widenedAll left = widenedAll right)
  | [], [], _, _ => by
      simp [equalsAll, widenedAll]
  | [], _ :: _, _, _ => by
      simp [equalsAll, widenedAll]
  | _ :: _, [], _, _ => by
      simp [equalsAll, widenedAll]
  | first :: rest, other :: others, leftFree, rightFree => by
      simp only [areFloatFree, Bool.and_eq_true] at leftFree rightFree
      have firstSame := equals_iff_widened first other leftFree.1 rightFree.1
      have restSame := equalsAll_iff_widenedAll rest others leftFree.2 rightFree.2
      simp only [equalsAll, widenedAll, Bool.and_eq_true, List.cons.injEq, firstSame, restSame]

end

/-- Two whole numbers of any width, or two strings. -/
def Comparable (left right : Value) : Prop :=
  (left.kind.isIntegral = true ∧ right.kind.isIntegral = true) ∨
    (left.kind = .string ∧ right.kind = .string)

theorem exists_number?
    {value : Value}
    (isIntegral : value.kind.isIntegral = true) :
    ∃ number, value.number? = some number := by
  cases value with
  | integer narrow =>
      exact ⟨_, rfl⟩
  | long wide =>
      exact ⟨_, rfl⟩
  | _ =>
      cases isIntegral

theorem exists_eq_string
    {value : Value}
    (isString : value.kind = .string) :
    ∃ text, value = .string text := by
  cases value with
  | string text =>
      exact ⟨text, rfl⟩
  | _ =>
      cases isString

/-- What is comparable are two numbers or two strings. -/
theorem Comparable.numbers_or_strings
    {left right : Value}
    (comparable : left.Comparable right) :
    (∃ a b, left.number? = some a ∧ right.number? = some b) ∨
      ∃ s t, left = .string s ∧ right = .string t := by
  rcases comparable with ⟨leftIntegral, rightIntegral⟩ | ⟨leftString, rightString⟩
  · obtain ⟨a, isLeft⟩ := exists_number? leftIntegral
    obtain ⟨b, isRight⟩ := exists_number? rightIntegral
    exact .inl ⟨a, b, isLeft, isRight⟩
  · obtain ⟨s, isLeft⟩ := exists_eq_string leftString
    obtain ⟨t, isRight⟩ := exists_eq_string rightString
    exact .inr ⟨s, t, isLeft, isRight⟩

theorem Comparable.symm
    {left right : Value}
    (comparable : left.Comparable right) :
    right.Comparable left :=
  comparable.imp And.symm And.symm

/-- Numbers of any width are ordered by what they are. -/
theorem compare?_of_number?
    {left right : Value}
    {a b : Int}
    (isLeft : left.number? = some a)
    (isRight : right.number? = some b) :
    left.compare? right = some (compare a b) := by
  obtain ⟨word, isWord, rfl⟩ := exists_integral? isLeft
  obtain ⟨other, isOther, rfl⟩ := exists_integral? isRight
  simp only [compare?, numberPair?_of_integral? isWord isOther]

/-- Numbers of any width are equal if they are the same number. -/
theorem equals_of_number?
    {left right : Value}
    {a b : Int}
    (isLeft : left.number? = some a)
    (isRight : right.number? = some b) :
    left.equals right = true ↔ a = b := by
  obtain ⟨word, isWord, rfl⟩ := exists_integral? isLeft
  obtain ⟨other, isOther, rfl⟩ := exists_integral? isRight
  have pair := numberPair?_of_integral? isWord isOther
  rw [Int64.toInt_inj]
  rcases kind_of_integral? isWord with leftKind | leftKind <;>
    rcases kind_of_integral? isOther with rightKind | rightKind <;>
    cases left <;> cases leftKind <;> cases right <;> cases rightKind <;>
    simp only [equals, pair, decide_eq_true_eq]

/-- Without floats, what is not a whole number is no number. -/
theorem real?_eq_none
    {value : Value}
    (free : value.isFloatFree = true)
    (notIntegral : ¬ value.kind.isIntegral = true) :
    value.integral? = none ∧ value.real? = none := by
  cases value with
  | integer narrow =>
      exact (notIntegral rfl).elim
  | long wide =>
      exact (notIntegral rfl).elim
  | float narrow =>
      cases free
  | double wide =>
      cases free
  | _ =>
      exact ⟨rfl, rfl⟩

/-- Without floats nothing else is ordered. -/
theorem compare?_eq_none
    {left right : Value}
    (leftFree : left.isFloatFree = true)
    (rightFree : right.isFloatFree = true)
    (notComparable : ¬ left.Comparable right) :
    left.compare? right = none := by
  have noNumbers : numberPair? left right = none := by
    by_cases leftIntegral : left.kind.isIntegral = true
    · have rightNumber := real?_eq_none rightFree fun rightIntegral =>
        notComparable (.inl ⟨leftIntegral, rightIntegral⟩)
      simp only [numberPair?, rightNumber]
      cases left.integral? <;> cases left.real? <;> rfl
    · simp only [numberPair?, real?_eq_none leftFree leftIntegral]
  unfold compare?
  rw [noNumbers]
  dsimp only
  split
  · exact (notComparable (.inr ⟨rfl, rfl⟩)).elim
  · rfl

theorem isSome_compare?_iff
    {left right : Value}
    (leftFree : left.isFloatFree = true)
    (rightFree : right.isFloatFree = true) :
    (∃ order, left.compare? right = some order) ↔ left.Comparable right := by
  constructor
  · rintro ⟨order, compared⟩
    by_contra notComparable
    rw [compare?_eq_none leftFree rightFree notComparable] at compared
    cases compared
  · intro comparable
    rcases comparable.numbers_or_strings with ⟨a, b, isLeft, isRight⟩ | ⟨s, t, rfl, rfl⟩
    · exact ⟨_, compare?_of_number? isLeft isRight⟩
    · exact ⟨_, rfl⟩

/-- The order the other way round is the reverse. -/
theorem compare?_swap
    {left right : Value}
    (leftFree : left.isFloatFree = true)
    (rightFree : right.isFloatFree = true) :
    left.compare? right = (right.compare? left).map Ordering.swap := by
  by_cases comparable : left.Comparable right
  · rcases comparable.numbers_or_strings with ⟨a, b, isLeft, isRight⟩ | ⟨s, t, rfl, rfl⟩
    · rw [compare?_of_number? isLeft isRight, compare?_of_number? isRight isLeft, Option.map_some,
        Std.OrientedOrd.eq_swap]
    · exact congrArg some Std.OrientedOrd.eq_swap
  · rw [compare?_eq_none leftFree rightFree comparable,
      compare?_eq_none rightFree leftFree fun other => comparable other.symm]
    rfl

/-- In a chain of two comparisons, the first that is strict decides. -/
theorem compare_of_chain
    {Key : Type}
    [Ord Key]
    [Std.TransOrd Key]
    {a b c : Key}
    (first : (compare a b).isLE = true)
    (second : (compare b c).isLE = true) :
    compare a c = (compare a b).then (compare b c) := by
  cases below : compare a b with
  | lt =>
      exact Std.TransCmp.lt_of_lt_of_isLE below second
  | eq =>
      exact Std.TransCmp.congr_left below
  | gt =>
      rw [below] at first
      cases first

theorem compare?_of_chain
    {x y z : Value}
    (xFree : x.isFloatFree = true)
    (yFree : y.isFloatFree = true)
    (zFree : z.isFloatFree = true)
    {first second : Ordering}
    (compared : x.compare? y = some first)
    (comparedNext : y.compare? z = some second)
    (notAbove : first.isLE = true)
    (notAboveNext : second.isLE = true) :
    x.compare? z = some (first.then second) := by
  have comparable := (isSome_compare?_iff xFree yFree).mp ⟨_, compared⟩
  have comparableNext := (isSome_compare?_iff yFree zFree).mp ⟨_, comparedNext⟩
  rcases comparable.numbers_or_strings with ⟨a, b, isX, isY⟩ | ⟨s, t, rfl, rfl⟩ <;>
    rcases comparableNext.numbers_or_strings with ⟨b', c, isY', isZ⟩ | ⟨t', u, isString, rfl⟩
  · obtain rfl : b = b' := Option.some.inj (isY.symm.trans isY')
    rw [compare?_of_number? isX isY, Option.some.injEq] at compared
    rw [compare?_of_number? isY isZ, Option.some.injEq] at comparedNext
    subst compared comparedNext
    rw [compare?_of_number? isX isZ, compare_of_chain notAbove notAboveNext]
  · subst isString
    cases isY
  · cases isY'
  · cases isString
    cases compared
    cases comparedNext
    exact congrArg some (compare_of_chain notAbove notAboveNext)

/-- What is comparable is equal exactly if neither is above the other. -/
theorem compare?_eq_eq_iff
    {left right : Value}
    (comparable : left.Comparable right) :
    left.compare? right = some .eq ↔ left.equals right = true := by
  rcases comparable.numbers_or_strings with ⟨a, b, isLeft, isRight⟩ | ⟨s, t, rfl, rfl⟩
  · rw [compare?_of_number? isLeft isRight, equals_of_number? isLeft isRight,
      Option.some.injEq, Std.compare_eq_iff_eq]
  · show some (compare s t) = some .eq ↔ _
    rw [Option.some.injEq, Std.compare_eq_iff_eq]
    simp only [equals, decide_eq_true_eq]

end Value

namespace Operator

/-- The signs for less and greater say which of two comparable values is above the other. -/
theorem apply_of_compare?
    {left right : Value}
    {order : Ordering}
    (compared : left.compare? right = some order) :
    less.apply left right = .ok (.boolean (order == .lt)) ∧
      greater.apply left right = .ok (.boolean (order == .gt)) := by
  simp only [apply, evaluate, compared, and_self]

theorem apply_of_compare?_eq_none
    {left right : Value}
    (incomparable : left.compare? right = none) :
    less.apply left right = .error ⟨.operator .less, left, right, .notComparable⟩ ∧
      greater.apply left right = .error ⟨.operator .greater, left, right, .notComparable⟩ := by
  simp only [apply, evaluate, incomparable, and_self]

/-- Without floats, the signs for less and greater fail for what is not comparable. -/
theorem fails_iff
    {operator : Operator}
    (isOrder : operator = less ∨ operator = greater)
    {left right : Value}
    (leftFree : left.isFloatFree = true)
    (rightFree : right.isFloatFree = true) :
    (∃ error, operator.apply left right = .error error) ↔ ¬ left.Comparable right := by
  constructor
  · rintro ⟨error, fails⟩ comparable
    obtain ⟨order, compared⟩ := (Value.isSome_compare?_iff leftFree rightFree).mpr comparable
    obtain ⟨isLess, isGreater⟩ := apply_of_compare? compared
    rcases isOrder with rfl | rfl
    · cases isLess.symm.trans fails
    · cases isGreater.symm.trans fails
  · intro incomparable
    obtain ⟨lessFails, greaterFails⟩ :=
      apply_of_compare?_eq_none (Value.compare?_eq_none leftFree rightFree incomparable)
    rcases isOrder with rfl | rfl
    · exact ⟨_, lessFails⟩
    · exact ⟨_, greaterFails⟩

end Operator

/-- Without floats, equality is an equivalence.  Exactly two whole numbers of any width, and two
strings, have an order; it is turned round with its operands, it is transitive, and it says that
neither is above the other exactly for equal values.  So of two values that can be compared exactly
one is less than, equal to or greater than the other, and the signs for less and greater fail for
all others.  Unequal is always the negation of equal. -/
theorem values_without_floats_are_ordered
    (x y z : Value)
    (xFree : x.isFloatFree = true)
    (yFree : y.isFloatFree = true)
    (zFree : z.isFloatFree = true) :
    x.equals x = true ∧
    (x.equals y = true → y.equals x = true) ∧
    (x.equals y = true → y.equals z = true → x.equals z = true) ∧
    ((∃ order, x.compare? y = some order) ↔ x.Comparable y) ∧
    x.compare? y = (y.compare? x).map Ordering.swap ∧
    (∀ first second,
      x.compare? y = some first → y.compare? z = some second →
      first.isLE = true → second.isLE = true →
      x.compare? z = some (first.then second)) ∧
    (x.Comparable y → (x.compare? y = some .eq ↔ x.equals y = true)) ∧
    (x.Comparable y → ∃ less equal greater,
      Operator.less.apply x y = .ok (.boolean less) ∧
      Operator.equal.apply x y = .ok (.boolean equal) ∧
      Operator.greater.apply x y = .ok (.boolean greater) ∧
      [less, equal, greater].count true = 1) ∧
    (∃ same,
      Operator.equal.apply x y = .ok (.boolean same) ∧
      Operator.notEqual.apply x y = .ok (.boolean !same)) ∧
    ((∃ error, Operator.less.apply x y = .error error) ↔ ¬ x.Comparable y) ∧
    ((∃ error, Operator.greater.apply x y = .error error) ↔ ¬ x.Comparable y) := by
  have sameXY := Value.equals_iff_widened x y xFree yFree
  have sameYZ := Value.equals_iff_widened y z yFree zFree
  have compares := Value.isSome_compare?_iff xFree yFree
  refine ⟨?_, fun same => ?_, fun same sameNext => ?_, compares, Value.compare?_swap xFree yFree,
    fun first second => Value.compare?_of_chain xFree yFree zFree, Value.compare?_eq_eq_iff,
    fun comparable => ?_, ⟨x.equals y, rfl, rfl⟩, Operator.fails_iff (.inl rfl) xFree yFree,
    Operator.fails_iff (.inr rfl) xFree yFree⟩
  · exact (Value.equals_iff_widened x x xFree xFree).mpr rfl
  · exact (Value.equals_iff_widened y x yFree xFree).mpr (sameXY.mp same).symm
  · have sameXZ := Value.equals_iff_widened x z xFree zFree
    exact sameXZ.mpr ((sameXY.mp same).trans (sameYZ.mp sameNext))
  · obtain ⟨order, compared⟩ := compares.mpr comparable
    obtain ⟨isLess, isGreater⟩ := Operator.apply_of_compare? compared
    have isEqual : x.equals y = (order == .eq) := by
      rw [Bool.eq_iff_iff, ← Value.compare?_eq_eq_iff comparable, compared, Option.some.injEq,
        beq_iff_eq]
    refine ⟨_, _, _, isLess, rfl, isGreater, ?_⟩
    rw [isEqual]
    cases order <;> rfl

/-- Two lists with numbers of different widths and a range, and the list that equals both; and three
numbers of different widths in order. -/
theorem mixed_widths_are_ordered :
    (Value.list [.integer 7, .range 1 2 false]).equals (.list [.long 7, .range 1 2 true]) = true ∧
    (Value.list [.long 7, .range 1 2 true]).equals
      (.list [.integer 7, .range 1 2 false]) = true ∧
    Value.compare? (.integer (-1)) (.integer 3) = some .lt ∧
    Value.compare? (.integer (-1)) (.long 3) = some .lt := by
  obtain ⟨-, symmetric, -⟩ :=
    values_without_floats_are_ordered (.list [.integer 7, .range 1 2 false])
      (.list [.long 7, .range 1 2 true]) .null rfl rfl rfl
  obtain ⟨-, -, -, -, -, transitive, -⟩ :=
    values_without_floats_are_ordered (.integer (-1)) (.integer 3) (.long 3) rfl rfl rfl
  have equal :
      (Value.list [.integer 7, .range 1 2 false]).equals (.list [.long 7, .range 1 2 true]) =
        true := by
    decide
  exact ⟨equal, symmetric equal, by decide, transitive .lt .eq (by decide) (by decide) rfl rfl⟩

end Scripting
