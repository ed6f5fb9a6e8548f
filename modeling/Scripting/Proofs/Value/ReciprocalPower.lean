import Scripting.Proofs.Value.Arithmetic
import Scripting.Proofs.Value.Power

namespace Scripting

/-!
# Powers with negative exponents

A power of a whole number with a negative exponent is a fraction, and its value is that fraction cut
off toward zero.  Exponents are brought to the double format first.  That format has no odd whole
numbers from a limit on, so past the limit the powers of minus one are all taken to be one.
-/

open Decimal.BinaryFormat (RoundsTo exists_roundsTo decode_ofInt)

/-- A fraction cut off toward zero. -/
def truncated (fraction : ℚ) : Int :=
  fraction.num.tdiv fraction.den

theorem truncated_one : truncated 1 = 1 :=
  rfl

theorem truncated_neg_one : truncated (-1) = -1 :=
  rfl

/-- Nothing is left of a proper fraction. -/
theorem truncated_of_abs_lt_one
    {fraction : ℚ}
    (isProper : |fraction| < 1) :
    truncated fraction = 0 := by
  have den_pos : (0 : ℚ) < fraction.den := by
    exact_mod_cast fraction.den_pos
  rw [← Rat.num_div_den fraction, abs_div, abs_of_pos den_pos, div_lt_one den_pos] at isProper
  have smaller : fraction.num.natAbs < fraction.den := by
    rw [← Int.ofNat_lt, Int.natCast_natAbs]
    exact_mod_cast isProper
  refine Int.natAbs_eq_zero.mp ?_
  rw [truncated, Int.natAbs_tdiv]
  exact Nat.div_eq_of_lt smaller

/-- A power with a negative exponent is a proper fraction unless the base is one or minus one. -/
theorem truncated_zpow_of_two_le
    {base exponent : Int}
    (large : 2 ≤ |base|)
    (negative : exponent < 0) :
    truncated ((base : ℚ) ^ exponent) = 0 := by
  refine truncated_of_abs_lt_one ?_
  rw [abs_zpow]
  refine zpow_lt_one_of_neg₀ ?_ negative
  exact_mod_cast Int.lt_of_lt_of_le (by decide) large

/-- The powers of minus one go by the parity of the exponent. -/
theorem truncated_zpow_neg_one (exponent : Int) :
    truncated ((-1 : ℚ) ^ exponent) = if Odd exponent then -1 else 1 := by
  split_ifs with isOdd
  · rw [isOdd.neg_one_zpow, truncated_neg_one]
  · rw [(Int.not_odd_iff_even.mp isOdd).neg_one_zpow, truncated_one]

/-- Cut off toward zero, a power with a negative exponent is zero, one or minus one. -/
theorem truncated_zpow
    {base exponent : Int}
    (notZero : base ≠ 0)
    (negative : exponent < 0) :
    truncated ((base : ℚ) ^ exponent) =
      if base = 1 then 1
      else if base = -1 then if Odd exponent then -1 else 1
      else 0 := by
  split_ifs with isOne isNegOne isOdd
  · rw [isOne, Int.cast_one, one_zpow, truncated_one]
  · rw [isNegOne, Int.cast_neg, Int.cast_one, truncated_zpow_neg_one, if_pos isOdd]
  · rw [isNegOne, Int.cast_neg, Int.cast_one, truncated_zpow_neg_one, if_neg isOdd]
  · have large : 2 ≤ |base| := by
      rw [Int.abs_eq_natAbs]
      omega
    exact truncated_zpow_of_two_le large negative

/-- A power with a negative exponent fits in every word. -/
theorem bmod_truncated_zpow
    (kind : ValueKind)
    {base exponent : Int}
    (notZero : base ≠ 0)
    (negative : exponent < 0) :
    (truncated ((base : ℚ) ^ exponent)).bmod kind.modulus = truncated ((base : ℚ) ^ exponent) := by
  rw [truncated_zpow notZero negative]
  split_ifs <;> cases kind <;> decide

/-- The distance of a word from zero fits into 64 bits. -/
theorem natAbs_toInt_lt (number : Int64) : number.toInt.natAbs < 2 ^ 64 := by
  have := number.le_toInt
  have := number.toInt_lt
  omega

/-- A power with a negative exponent is zero unless the base is one or minus one, and then it goes by
the parity of the rounded exponent. -/
theorem reciprocalPower_eq
    {base exponent : Int64}
    (notZero : base.toInt ≠ 0)
    (negative : exponent.toInt < 0) :
    reciprocalPower base exponent = .ok (
      if base.toInt = 1 then 1
      else if base.toInt = -1 then
        if Odd exponent.toInt.natAbs ∧ exponent.toInt.natAbs < 2 ^ 53 then -1 else 1
      else 0) := by
  have base_pos : 0 < base.toInt.natAbs := Int.natAbs_pos.mpr notZero
  have exponent_pos : 0 < exponent.toInt.natAbs := Int.natAbs_pos.mpr (Int.ne_of_lt negative)
  obtain ⟨roundedBase, roundsBase, base_pos', baseNarrow, baseParity⟩ :=
    exists_roundsTo base_pos (natAbs_toInt_lt base)
  obtain ⟨rounded, rounds, rounded_pos, narrow, parity⟩ :=
    exists_roundsTo exponent_pos (natAbs_toInt_lt exponent)
  obtain ⟨x, decodedBase, isBase⟩ := decode_ofInt roundsBase
  obtain ⟨y, decodedExponent, isExponent⟩ := decode_ofInt rounds
  rw [decide_eq_true negative] at decodedExponent
  have even (large : 2 ^ 63 ≤ rounded) : rounded % 2 = 0 := by
    rw [← Nat.not_odd_iff, parity]
    rintro ⟨-, isNarrow⟩
    have := narrow isNarrow
    omega
  have isOne_iff : x.value = 1 ↔ base.toInt.natAbs = 1 := by
    rw [isBase, Nat.cast_eq_one]
    constructor
    · rintro rfl
      have isNarrow := (baseParity.mp odd_one).2
      exact (baseNarrow isNarrow).symm
    · intro isUnit
      rw [baseNarrow (by omega), isUnit]
  have oneOrMore : x.value = 1 ∨ 2 ≤ x.value := by
    rw [isBase]
    rcases Nat.eq_or_lt_of_le base_pos' with rfl | large
    · exact .inl Nat.cast_one
    · exact .inr (by exact_mod_cast large)
  have isZero : ¬ base = 0 := fun isZero => notZero (Int64.toInt_inj.mpr isZero)
  rw [reciprocalPower, if_neg isZero]
  dsimp only
  rw [Decimal.cutOff_doublePower decodedBase decodedExponent oneOrMore isExponent rounded_pos even]
  simp only [isOne_iff, ← Nat.odd_iff, parity, Int.natAbs_eq_iff]
  congr 1
  by_cases isOne : base.toInt = 1
  · simp [isOne]
  · by_cases isNegOne : base.toInt = -1
    · simp [isNegOne]
    · simp [isOne, isNegOne]

/-- A power with a negative exponent is the power with the exponent rounded, of which only the
parity counts. -/
theorem reciprocalPower_eq_ok
    {base exponent : Int64}
    {rounded : Nat}
    (notZero : base.toInt ≠ 0)
    (negative : exponent.toInt < 0)
    (rounded_pos : 0 < rounded)
    (parity : Odd rounded ↔ Odd exponent.toInt.natAbs ∧ exponent.toInt.natAbs < 2 ^ 53) :
    ∃ result, reciprocalPower base exponent = .ok result ∧
      result.toInt = truncated ((base.toInt : ℚ) ^ (-(rounded : Int))) := by
  have sameParity : Odd (-(rounded : Int)) ↔
      Odd exponent.toInt.natAbs ∧ exponent.toInt.natAbs < 2 ^ 53 := by
    rw [odd_neg, Int.odd_coe_nat, parity]
  refine ⟨_, reciprocalPower_eq notZero negative, ?_⟩
  rw [truncated_zpow notZero (by omega)]
  simp only [sameParity]
  split_ifs <;> rfl

theorem reciprocalPower_zero (exponent : Int64) :
    reciprocalPower 0 exponent = .error .divisionByZero :=
  rfl

/-- Powers of whole numbers with negative exponents are computed as reciprocal powers. -/
theorem onIntegers_power_of_neg
    {a b : Int64}
    (negative : b.toInt < 0) :
    Arithmetic.power.onIntegers a b = reciprocalPower a b :=
  if_pos (Int64.lt_iff_toInt_lt.mpr negative)

/-- An exponent is odd, and so far from zero that the double format has no odd numbers there, for a
base that it matters for. -/
def ParityLost (base exponent : Int) : Prop :=
  base = -1 ∧ Odd exponent ∧ 2 ^ 53 ≤ exponent.natAbs

/-- Unless the parity of the exponent is lost, rounding does not change a power. -/
theorem truncated_zpow_rounded
    {base exponent : Int}
    {rounded : Nat}
    (notZero : base ≠ 0)
    (negative : exponent < 0)
    (rounded_pos : 0 < rounded)
    (parity : Odd rounded ↔ Odd exponent.natAbs ∧ exponent.natAbs < 2 ^ 53)
    (isKept : ¬ ParityLost base exponent) :
    truncated ((base : ℚ) ^ (-(rounded : Int))) = truncated ((base : ℚ) ^ exponent) := by
  have sameParity (isNegOne : base = -1) : Odd (-(rounded : Int)) ↔ Odd exponent := by
    rw [odd_neg, Int.odd_coe_nat, parity, Int.natAbs_odd]
    refine and_iff_left_of_imp fun isOdd => ?_
    by_contra wide
    exact isKept ⟨isNegOne, isOdd, Nat.not_lt.mp wide⟩
  rw [truncated_zpow notZero (by omega), truncated_zpow notZero negative]
  by_cases isNegOne : base = -1
  · simp only [sameParity isNegOne]
  · simp only [isNegOne, if_false]

/-- If the parity of the exponent is lost, the power is one. -/
theorem truncated_zpow_rounded_of_lost
    {base exponent : Int}
    {rounded : Nat}
    (parity : Odd rounded ↔ Odd exponent.natAbs ∧ exponent.natAbs < 2 ^ 53)
    (isLost : ParityLost base exponent) :
    truncated ((base : ℚ) ^ (-(rounded : Int))) = 1 := by
  obtain ⟨rfl, -, wide⟩ := isLost
  have isEven : ¬ Odd (-(rounded : Int)) := by
    rw [odd_neg, Int.odd_coe_nat, parity]
    exact fun ⟨_, narrow⟩ => Nat.not_lt.mpr wide narrow
  rw [Int.cast_neg, Int.cast_one, truncated_zpow_neg_one, if_neg isEven]

/-- Powers of whole numbers with negative exponents are fractions cut off toward zero, except for
some powers of minus one.  A power fails exactly if the base is zero.  The exponent is rounded to
the double format first, and an odd exponent is made even if that format has no odd numbers so far
from zero: then the power of minus one is one. -/
theorem reciprocal_powers_are_cut_off
    (left right : Value)
    (a b : Int)
    (isLeft : left.number? = some a)
    (isRight : right.number? = some b)
    (negative : b < 0) :
    ((Operator.arithmetic .power).apply left right =
        .error ⟨.operator (.arithmetic .power), left, right, .divisionByZero⟩ ↔ a = 0) ∧
    (a ≠ 0 →
      ∃ result rounded,
        (Operator.arithmetic .power).apply left right = .ok result ∧
        RoundsTo b.natAbs rounded ∧
        result.IsNumber (left.kind.joined right.kind)
          (truncated ((a : ℚ) ^ (-(rounded : Int)))) ∧
        (ParityLost a b → result.IsNumber (left.kind.joined right.kind) 1) ∧
        (¬ ParityLost a b →
          result.IsNumber (left.kind.joined right.kind) (truncated ((a : ℚ) ^ b)))) ∧
    (a ≠ 0 →
      truncated ((a : ℚ) ^ b) =
        if a = 1 then 1 else if a = -1 then if Odd b then -1 else 1 else 0) := by
  obtain ⟨base, isBase, rfl⟩ := Value.exists_integral? isLeft
  obtain ⟨exponent, isExponent, rfl⟩ := Value.exists_integral? isRight
  have applied := apply_of_onIntegers .power isBase isExponent
  rw [onIntegers_power_of_neg negative] at applied
  obtain ⟨rounded, rounds, rounded_pos, -, parity⟩ :=
    exists_roundsTo (Int.natAbs_pos.mpr (Int.ne_of_lt negative)) (natAbs_toInt_lt exponent)
  have succeeds (notZero : base.toInt ≠ 0) :
      ∃ result, (Operator.arithmetic .power).apply left right = .ok result ∧
        result.IsNumber (left.kind.joined right.kind)
          (truncated ((base.toInt : ℚ) ^ (-(rounded : Int)))) := by
    obtain ⟨result, computed, isPower⟩ := reciprocalPower_eq_ok notZero negative rounded_pos parity
    rw [computed] at applied
    refine ⟨_, applied, ?_⟩
    rw [← bmod_truncated_zpow _ notZero (by omega), ← isPower]
    exact Value.isNumber_ofIntegral isBase isExponent result
  refine ⟨⟨fun fails => ?_, fun isZero => ?_⟩, fun notZero => ?_,
    fun notZero => truncated_zpow notZero negative⟩
  · by_contra notZero
    obtain ⟨result, computed, -⟩ := succeeds notZero
    cases computed.symm.trans fails
  · obtain rfl : base = 0 := Int64.toInt_inj.mp isZero
    rw [applied, reciprocalPower_zero]
  · obtain ⟨result, computed, isPower⟩ := succeeds notZero
    refine ⟨result, rounded, computed, rounds, isPower, fun isLost => ?_, fun isKept => ?_⟩
    · rwa [← truncated_zpow_rounded_of_lost parity isLost]
    · rwa [← truncated_zpow_rounded notZero negative rounded_pos parity isKept]

/-- The greatest odd exponent of minus one that is kept, and an exponent that loses its parity. -/
theorem powers_of_minus_one :
    ∃ kept lost,
      (Operator.arithmetic .power).apply (.integer (-1)) (.long (-9007199254740991)) = .ok kept ∧
      kept.IsNumber .long (truncated (((-1 : Int) : ℚ) ^ (-9007199254740991 : Int))) ∧
      ParityLost (-1) (-9007199254740993) ∧
      (Operator.arithmetic .power).apply (.integer (-1)) (.long (-9007199254740993)) = .ok lost ∧
      lost.IsNumber .long 1 := by
  have isLost : ParityLost (-1) (-9007199254740993) := by
    refine ⟨rfl, ?_, ?_⟩ <;> decide
  have isKept : ¬ ParityLost (-1) (-9007199254740991) := fun ⟨_, _, wide⟩ =>
    absurd wide (by decide)
  obtain ⟨kept, _, raised, -, -, -, isPower⟩ :=
    (reciprocal_powers_are_cut_off (.integer (-1)) (.long (-9007199254740991)) (-1)
      (-9007199254740991) rfl rfl (by decide)).2.1 (by decide)
  obtain ⟨lost, _, raised', -, -, isOne, -⟩ :=
    (reciprocal_powers_are_cut_off (.integer (-1)) (.long (-9007199254740993)) (-1)
      (-9007199254740993) rfl rfl (by decide)).2.1 (by decide)
  exact ⟨kept, lost, raised, isPower isKept, isLost, raised', isOne isLost⟩

/-- Minus one to the power of an odd exponent past the limit is computed to be one. -/
theorem power_of_minus_one_loses_its_sign :
    (Operator.arithmetic .power).apply (.integer (-1)) (.long (-9007199254740993)) =
      .ok (.long 1) ∧
    truncated ((-1 : ℚ) ^ (-9007199254740993 : Int)) = -1 := by
  constructor
  · have computed : reciprocalPower (-1) (-9007199254740993) = .ok 1 := by
      rw [reciprocalPower_eq (by decide) (by decide)]
      rfl
    have isMinusOne : (Value.integer (-1)).integral? = some (-1) := rfl
    rw [apply_of_onIntegers .power isMinusOne rfl, onIntegers_power_of_neg (by decide), computed]
    rfl
  · rw [truncated_zpow_neg_one, if_pos (by decide)]

end Scripting
