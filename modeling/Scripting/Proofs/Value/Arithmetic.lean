import Scripting.Value.Operation
import Mathlib.Data.Int.ModEq

namespace Scripting

/-!
# Whole numbers compute exactly modulo their word

An operation on two whole numbers gives the number that it should, reduced to the word of its
result: 32 bits if both operands are Integers, and 64 bits otherwise.  Only a division by zero gives
nothing.
-/

namespace ValueKind

/-- The kind of whole number that two kinds of whole numbers compute in. -/
def joined (left right : ValueKind) : ValueKind :=
  if left = .integer ∧ right = .integer then .integer else .long

/-- The number of whole numbers of a kind. -/
def modulus : ValueKind → Nat
  | .integer => 2 ^ 32
  | _ => 2 ^ 64

end ValueKind

namespace Value

/-- The number that an Integer or a Long is. -/
def number? (value : Value) : Option Int :=
  value.integral?.map Int64.toInt

/-- A value is a number of a kind. -/
structure IsNumber (kind : ValueKind) (value : Value) (number : Int) : Prop where
  kind : value.kind = kind
  number : value.number? = some number

theorem exists_integral?
    {value : Value}
    {number : Int}
    (isNumber : value.number? = some number) :
    ∃ word, value.integral? = some word ∧ word.toInt = number :=
  Option.map_eq_some_iff.mp isNumber

/-- Whole numbers are Integers and Longs. -/
theorem kind_of_integral?
    {value : Value}
    {word : Int64}
    (isWord : value.integral? = some word) :
    value.kind = .integer ∨ value.kind = .long := by
  cases value with
  | integer narrow =>
      exact .inl rfl
  | long wide =>
      exact .inr rfl
  | _ =>
      cases isWord

theorem numberPair?_of_integral?
    {left right : Value}
    {a b : Int64}
    (isLeft : left.integral? = some a)
    (isRight : right.integral? = some b) :
    numberPair? left right =
      some (.integral (left.kind = .long || right.kind = .long) a b) := by
  simp only [numberPair?, isLeft, isRight]

/-- A result is narrowed unless an operand is a Long. -/
theorem isNumber_ofIntegral
    {left right : Value}
    {a b : Int64}
    (isLeft : left.integral? = some a)
    (isRight : right.integral? = some b)
    (result : Int64) :
    IsNumber (left.kind.joined right.kind)
      (ofIntegral (left.kind = .long || right.kind = .long) result)
      (result.toInt.bmod (left.kind.joined right.kind).modulus) := by
  rcases kind_of_integral? isLeft with leftKind | leftKind <;>
    rcases kind_of_integral? isRight with rightKind | rightKind <;>
    rw [leftKind, rightKind]
  · refine ⟨rfl, ?_⟩
    simp [ofIntegral, number?, integral?, ValueKind.joined, ValueKind.modulus]
  all_goals
    refine ⟨rfl, ?_⟩
    simp [ofIntegral, number?, integral?, ValueKind.joined, ValueKind.modulus]

end Value

/-- Numbers that differ by a multiple of a modulus are reduced to the same number. -/
theorem bmod_eq_of_modEq
    {modulus : Nat}
    {first second : Int}
    (same : first ≡ second [ZMOD modulus]) :
    first.bmod modulus = second.bmod modulus := by
  rw [← Int.emod_bmod first, same, Int.emod_bmod]

/-- Reducing to a word and then to a shorter one is reducing to the shorter one. -/
theorem bmod_modulus (kind : ValueKind) (number : Int) :
    (number.bmod (2 ^ 64)).bmod kind.modulus = number.bmod kind.modulus := by
  refine Int.bmod_bmod_of_dvd ?_
  cases kind <;> decide

/-- What is a power of the square is an even power. -/
theorem toInt_modEq_of_square
    {base power : Int64}
    {exponent : Nat}
    (isPower : power.toInt = ((base * base).toInt ^ exponent).bmod (2 ^ 64)) :
    power.toInt ≡ base.toInt ^ (2 * exponent) [ZMOD (2 ^ 64 : Nat)] := by
  have reduced (number : Int) : number.bmod (2 ^ 64) ≡ number [ZMOD (2 ^ 64 : Nat)] :=
    Int.bmod_emod
  rw [isPower, Int64.toInt_mul, pow_mul, pow_two]
  exact (reduced _).trans ((reduced _).pow exponent)

/-- Repeated squaring computes a power, whatever is lost by wrapping on the way. -/
theorem toInt_wrappingPower (base : Int64) (exponent : Nat) :
    (wrappingPower base exponent).toInt = (base.toInt ^ exponent).bmod (2 ^ 64) := by
  fun_induction wrappingPower base exponent with
  | case1 base =>
      rw [pow_zero]
      decide
  | case2 base exponent notZero rest isOdd inductionHypothesis =>
      have squared := toInt_modEq_of_square inductionHypothesis
      have halves : exponent = 2 * (exponent / 2) + 1 := by omega
      rw [Int64.toInt_mul]
      refine bmod_eq_of_modEq ?_
      calc base.toInt * rest.toInt
          ≡ base.toInt * base.toInt ^ (2 * (exponent / 2)) [ZMOD (2 ^ 64 : Nat)] :=
            squared.mul_left _
        _ = base.toInt ^ exponent := by rw [← pow_succ', ← halves]
  | case3 base exponent notZero rest isEven inductionHypothesis =>
      have squared := toInt_modEq_of_square inductionHypothesis
      have halves : 2 * (exponent / 2) = exponent := by omega
      rw [halves] at squared
      rw [← Int64.toInt_bmod rest]
      exact bmod_eq_of_modEq squared

namespace Arithmetic

/-- The result of an operation on whole numbers, were they not bounded.  A quotient is cut off
toward zero, and a remainder has the sign of the first number. -/
def exactResult : Arithmetic → Int → Int → Int
  | .add, a, b => a + b
  | .subtract, a, b => a - b
  | .multiply, a, b => a * b
  | .divide, a, b => a.tdiv b
  | .remainder, a, b => a.tmod b
  | .power, a, b => a ^ b.toNat

/-- An operation divides by a number. -/
def Divides (operation : Arithmetic) : Prop :=
  operation = .divide ∨ operation = .remainder

/-- Whole numbers are brought to 64 bits, and the result to the word of its kind. -/
theorem apply_of_integral?
    (operation : Arithmetic)
    {left right : Value}
    {a b : Int64}
    (isLeft : left.integral? = some a)
    (isRight : right.integral? = some b) :
    operation.apply left right =
      (operation.onIntegers a b).map
        (Value.ofIntegral (left.kind = .long || right.kind = .long)) := by
  unfold apply
  split
  · cases isLeft
  · rw [Value.numberPair?_of_integral? isLeft isRight]

/-- In 64 bits, an operation gives the exact result up to the word, unless it divides by zero. -/
theorem onIntegers_eq_ok
    (operation : Arithmetic)
    (a b : Int64)
    (notNegative : operation = .power → 0 ≤ b.toInt)
    (defined : ¬ (operation.Divides ∧ b.toInt = 0)) :
    ∃ result, operation.onIntegers a b = .ok result ∧
      result.toInt = (operation.exactResult a.toInt b.toInt).bmod (2 ^ 64) := by
  have notZero (divides : operation.Divides) : b ≠ 0 := by
    rintro rfl
    exact defined ⟨divides, rfl⟩
  cases operation with
  | add =>
      exact ⟨_, rfl, Int64.toInt_add a b⟩
  | subtract =>
      exact ⟨_, rfl, Int64.toInt_sub a b⟩
  | multiply =>
      exact ⟨_, rfl, Int64.toInt_mul a b⟩
  | divide =>
      exact ⟨_, if_neg (notZero (.inl rfl)), Int64.toInt_div a b⟩
  | remainder =>
      refine ⟨_, if_neg (notZero (.inr rfl)), ?_⟩
      rw [exactResult, ← Int64.toInt_mod]
      exact (Int64.toInt_bmod _).symm
  | power =>
      have notBelow : ¬ b < 0 := by
        rw [Int64.lt_iff_toInt_lt, Int64.toInt_zero]
        exact Int.not_lt.mpr (notNegative rfl)
      exact ⟨_, if_neg notBelow, toInt_wrappingPower a b.toInt.toNat⟩

theorem onIntegers_of_zero
    {operation : Arithmetic}
    (divides : operation.Divides)
    (a : Int64) :
    operation.onIntegers a 0 = .error .divisionByZero := by
  rcases divides with rfl | rfl <;> rfl

end Arithmetic

/-- What comes of an operation in 64 bits is the result, or what the operation fails with. -/
theorem apply_of_onIntegers
    (operation : Arithmetic)
    {left right : Value}
    {a b : Int64}
    (isLeft : left.integral? = some a)
    (isRight : right.integral? = some b) :
    (Operator.arithmetic operation).apply left right =
      match operation.onIntegers a b with
      | .ok result =>
          .ok (Value.ofIntegral (left.kind = .long || right.kind = .long) result)
      | .error fault => .error ⟨.operator (.arithmetic operation), left, right, fault⟩ := by
  simp only [Operator.apply, Operator.evaluate, operation.apply_of_integral? isLeft isRight]
  cases operation.onIntegers a b <;> rfl

/-- Operations on whole numbers are exact modulo the word of the result.  Division and remainder
fail exactly if the divisor is zero; every other result, and every power with an exponent that is
not negative, is the exact one, reduced to a word of the kind that the operands compute in.  This
holds for powers although the squares on the way wrap, and the least number of a word divided by
minus one wraps to itself. -/
theorem whole_numbers_compute_modulo_their_word
    (operation : Arithmetic)
    (left right : Value)
    (a b : Int)
    (isLeft : left.number? = some a)
    (isRight : right.number? = some b)
    (notNegative : operation = .power → 0 ≤ b) :
    ((Operator.arithmetic operation).apply left right =
        .error ⟨.operator (.arithmetic operation), left, right, .divisionByZero⟩ ↔
      operation.Divides ∧ b = 0) ∧
    (¬ (operation.Divides ∧ b = 0) →
      ∃ result, (Operator.arithmetic operation).apply left right = .ok result ∧
        result.IsNumber (left.kind.joined right.kind)
          ((operation.exactResult a b).bmod (left.kind.joined right.kind).modulus)) ∧
    (∀ (base : Int64) (exponent : Nat),
      (wrappingPower base exponent).toInt = (base.toInt ^ exponent).bmod (2 ^ 64)) ∧
    (Operator.arithmetic .divide).apply (.integer Int32.minValue) (.integer (-1)) =
      .ok (.integer Int32.minValue) ∧
    (Operator.arithmetic .divide).apply (.long Int64.minValue) (.long (-1)) =
      .ok (.long Int64.minValue) := by
  obtain ⟨word, isWord, rfl⟩ := Value.exists_integral? isLeft
  obtain ⟨divisor, isDivisor, rfl⟩ := Value.exists_integral? isRight
  have applied := apply_of_onIntegers operation isWord isDivisor
  have succeeds (defined : ¬ (operation.Divides ∧ divisor.toInt = 0)) :
      ∃ result, (Operator.arithmetic operation).apply left right = .ok result ∧
        result.IsNumber (left.kind.joined right.kind)
          ((operation.exactResult word.toInt divisor.toInt).bmod
            (left.kind.joined right.kind).modulus) := by
    obtain ⟨result, computed, isExact⟩ :=
      operation.onIntegers_eq_ok word divisor notNegative defined
    rw [computed] at applied
    refine ⟨_, applied, ?_⟩
    rw [← bmod_modulus, ← isExact]
    exact Value.isNumber_ofIntegral isWord isDivisor result
  refine ⟨⟨fun fails => ?_, fun ⟨divides, isZero⟩ => ?_⟩, succeeds, toInt_wrappingPower, ?_, ?_⟩
  · by_contra defined
    obtain ⟨result, computed, -⟩ := succeeds defined
    cases computed.symm.trans fails
  · obtain rfl : divisor = 0 := Int64.toInt_inj.mp isZero
    rw [applied, Arithmetic.onIntegers_of_zero divides]
  · rfl
  · rfl

/-- Two Integers whose product does not fit, an Integer and a Long with a remainder, and a power
whose squares do not fit. -/
theorem wrapping_results :
    ∃ product remainder power,
      (Operator.arithmetic .multiply).apply (.integer 65536) (.integer (-65537)) = .ok product ∧
      product.IsNumber .integer (-65536) ∧
      (Operator.arithmetic .remainder).apply (.integer (-7)) (.long 4) = .ok remainder ∧
      remainder.IsNumber .long (-3) ∧
      (Operator.arithmetic .power).apply (.long 3) (.integer 100) = .ok power ∧
      power.IsNumber .long (((3 : Int) ^ 100).bmod (2 ^ 64)) := by
  obtain ⟨product, multiplied, isProduct⟩ :=
    (whole_numbers_compute_modulo_their_word .multiply (.integer 65536) (.integer (-65537)) 65536
      (-65537) rfl rfl nofun).2.1 (by simp [Arithmetic.Divides])
  obtain ⟨remainder, divided, isRemainder⟩ :=
    (whole_numbers_compute_modulo_their_word .remainder (.integer (-7)) (.long 4) (-7) 4 rfl rfl
      nofun).2.1 (by simp)
  obtain ⟨power, raised, isPower⟩ :=
    (whole_numbers_compute_modulo_their_word .power (.long 3) (.integer 100) 3 100 rfl rfl
      (fun _ => by decide)).2.1 (by simp [Arithmetic.Divides])
  exact ⟨product, remainder, power, multiplied, isProduct, divided, isRemainder, raised, isPower⟩

end Scripting
