import Scripting.Decimal.Power
import Mathlib.Algebra.Order.Field.Basic
import Mathlib.Algebra.Order.Field.Power
import Mathlib.Algebra.Order.Ring.Rat
import Mathlib.Algebra.Ring.Parity
import Mathlib.Data.Rat.Lemmas
import Mathlib.Tactic.Ring
import Mathlib.Tactic.Linarith
import Mathlib.Tactic.NormNum
import Mathlib.Tactic.FieldSimp

namespace Scripting.Decimal

/-!
# Rounding to the double format

A fraction is rounded at its leading exponent, where it has 53 bits before the point.  Rounding
keeps it between the powers of two that it lies between, and keeps the whole numbers of at most 53
bits; the wider ones become even.
-/

/-- The number that a magnitude is. -/
def Magnitude.value (magnitude : Magnitude) : ℚ :=
  magnitude.mantissa * 2 ^ magnitude.exponent

/-- The number that is scaled. -/
def Scaled.value (number : Scaled) : ℚ :=
  number.mantissa * 2 ^ number.exponent

/-- No power of two separates a number from another, of which it may be a rounded form. -/
structure Scaled.Near (exact : ℚ) (number : Scaled) : Prop where
  notBelow : ∀ power : Int, 2 ^ power ≤ exact → 2 ^ power ≤ number.value
  notAbove : ∀ power : Int, exact ≤ 2 ^ power → number.value ≤ 2 ^ power

/-- A mantissa of 53 bits before which the point stands is less than one. -/
theorem Magnitude.value_lt_one
    {magnitude : Magnitude}
    (short : magnitude.mantissa < 2 ^ 53)
    (low : magnitude.exponent ≤ -53) :
    magnitude.value < 1 := by
  have lessPower : (2 : ℚ) ^ magnitude.exponent ≤ 2 ^ (-53 : Int) :=
    zpow_le_zpow_right₀ (by norm_num) low
  have power_pos : (0 : ℚ) < 2 ^ magnitude.exponent := by positivity
  have less : (magnitude.mantissa : ℚ) < 2 ^ 53 := by exact_mod_cast short
  have isOne : (2 : ℚ) ^ 53 * 2 ^ (-53 : Int) = 1 := by norm_num
  rw [value]
  nlinarith

namespace BinaryFormat

@[simp] theorem fractionBits_double : double.fractionBits = 52 := rfl

@[simp] theorem lowestExponent_double : double.lowestExponent = -1074 := by
  decide

@[simp] theorem infinityBits_double : double.infinityBits = 2047 * 2 ^ 52 := by
  decide

@[simp] theorem signBit_double : double.signBit = 2 ^ 63 := by
  decide

variable {numerator denominator : Nat}

/-- A scaled fraction is the fraction times a power of two. -/
theorem scaled_eq (numerator : Nat) (denominator_pos : 0 < denominator) (exponent : Int) :
    0 < (scaled numerator denominator exponent).2 ∧
      (numerator : ℚ) / denominator =
        (scaled numerator denominator exponent).1 / (scaled numerator denominator exponent).2 *
          2 ^ exponent := by
  have notZero : (denominator : ℚ) ≠ 0 := by exact_mod_cast Nat.pos_iff_ne_zero.mp denominator_pos
  unfold scaled
  split_ifs with sign
  · obtain ⟨places, rfl⟩ := Int.eq_ofNat_of_zero_le sign
    refine ⟨Nat.mul_pos denominator_pos (Nat.pow_pos (by decide)), ?_⟩
    simp only [Int.toNat_natCast, Nat.pow_eq, zpow_natCast]
    push_cast
    field_simp
  · obtain ⟨places, rfl⟩ : ∃ places : Nat, exponent = -places := ⟨(-exponent).toNat, by omega⟩
    refine ⟨denominator_pos, ?_⟩
    simp only [Int.neg_neg, Int.toNat_natCast, Nat.pow_eq, zpow_neg, zpow_natCast]
    push_cast
    field_simp

/-- A number lies between the powers of two that its length gives. -/
theorem log2_bounds {number : Nat} (positive : 0 < number) :
    (2 : ℚ) ^ (number.log2 : Int) ≤ number ∧ (number : ℚ) < 2 ^ ((number.log2 : Int) + 1) := by
  have least := Nat.log2_self_le (Nat.pos_iff_ne_zero.mp positive)
  have greatest := Nat.lt_log2_self (n := number)
  constructor
  · rw [zpow_natCast]
    exact_mod_cast least
  · rw [← Nat.cast_succ, zpow_natCast]
    exact_mod_cast greatest

/-- At its leading exponent, a fraction has 53 bits before the point. -/
theorem leadingExponent_bounds
    (numerator_pos : 0 < numerator)
    (denominator_pos : 0 < denominator) :
    (2 : ℚ) ^ (52 + double.leadingExponent numerator denominator) ≤ numerator / denominator ∧
      (numerator : ℚ) / denominator < 2 ^ (53 + double.leadingExponent numerator denominator) := by
  obtain ⟨notLess, less⟩ := log2_bounds numerator_pos
  obtain ⟨notLess', less'⟩ := log2_bounds denominator_pos
  have isPositive : (0 : ℚ) < denominator := by exact_mod_cast denominator_pos
  -- The lengths leave two exponents, and one comparison decides between them.
  obtain ⟨guess, guessEq⟩ : ∃ guess, (numerator.log2 : Int) - denominator.log2 - 52 = guess :=
    ⟨_, rfl⟩
  have above : (2 : ℚ) ^ (51 + guess) ≤ numerator / denominator := by
    rw [le_div_iff₀ isPositive]
    calc (2 : ℚ) ^ (51 + guess) * denominator
        ≤ 2 ^ (51 + guess) * 2 ^ ((denominator.log2 : Int) + 1) := by gcongr
      _ = 2 ^ (numerator.log2 : Int) := by
          rw [← zpow_add₀ (by norm_num)]
          congr 1
          omega
      _ ≤ numerator := notLess
  have below : (numerator : ℚ) / denominator < 2 ^ (53 + guess) := by
    rw [div_lt_iff₀ isPositive]
    calc (numerator : ℚ) < 2 ^ ((numerator.log2 : Int) + 1) := less
      _ = 2 ^ (53 + guess) * 2 ^ (denominator.log2 : Int) := by
          rw [← zpow_add₀ (by norm_num)]
          congr 1
          omega
      _ ≤ 2 ^ (53 + guess) * denominator := by gcongr
  obtain ⟨bottom_pos, isScaled⟩ := scaled_eq numerator denominator_pos guess
  have isShort : (scaled numerator denominator guess).1 <
      (scaled numerator denominator guess).2 * 2 ^ 52 ↔
        (numerator : ℚ) / denominator < 2 ^ (52 + guess) := by
    have isPositive' : (0 : ℚ) < (scaled numerator denominator guess).2 := by
      exact_mod_cast bottom_pos
    rw [isScaled, zpow_add₀ (by norm_num), mul_lt_mul_iff_left₀ (by positivity),
      div_lt_iff₀ isPositive', mul_comm]
    norm_cast
  have leading : double.leadingExponent numerator denominator =
      if (scaled numerator denominator guess).1 < (scaled numerator denominator guess).2 * 2 ^ 52
        then guess - 1 else guess := by
    rw [← guessEq]
    rfl
  rw [leading]
  split_ifs with short
  · rw [show 52 + (guess - 1) = 51 + guess by ring, show 53 + (guess - 1) = 52 + guess by ring]
    exact ⟨above, isShort.mp short⟩
  · exact ⟨not_lt.mp (mt isShort.mpr short), below⟩

/-- A quotient is rounded down or up. -/
theorem roundedQuotient_bounds (numerator denominator : Nat) :
    numerator / denominator ≤ roundedQuotient numerator denominator ∧
      roundedQuotient numerator denominator ≤ numerator / denominator + 1 := by
  simp only [roundedQuotient]
  split_ifs <;> omega

/-- A quotient without a remainder is not rounded. -/
theorem roundedQuotient_mul (number : Nat) (denominator_pos : 0 < denominator) :
    roundedQuotient (number * denominator) denominator = number := by
  simp [roundedQuotient, Nat.mul_div_cancel number denominator_pos, denominator_pos]

/-- Between whole numbers, a quotient is not rounded past them. -/
theorem roundedQuotient_bounds_of
    {top bottom least greatest : Nat}
    (bottom_pos : 0 < bottom)
    (notShort : bottom * least ≤ top)
    (notLong : top < bottom * greatest) :
    least ≤ roundedQuotient top bottom ∧ roundedQuotient top bottom ≤ greatest := by
  obtain ⟨notBelow, notAbove⟩ := roundedQuotient_bounds top bottom
  constructor
  · exact Nat.le_trans ((Nat.le_div_iff_mul_le bottom_pos).mpr (by rwa [mul_comm])) notBelow
  · exact Nat.le_trans notAbove ((Nat.div_lt_iff_lt_mul bottom_pos).mpr (by rwa [mul_comm]))

theorem nearest_of
    {format : BinaryFormat}
    {top bottom : Nat}
    {place : Int}
    (leading : format.leadingExponent numerator denominator = place)
    (scaledTo : scaled numerator denominator place = (top, bottom)) :
    format.nearest numerator denominator = ⟨roundedQuotient top bottom, place⟩ := by
  simp only [nearest, leading, scaledTo]

section Nearest

variable (numerator_pos : 0 < numerator) (denominator_pos : 0 < denominator)

include numerator_pos denominator_pos

/-- The number nearest to a fraction is a quotient between two powers of two, rounded to a whole
number, at the leading exponent of the fraction. -/
theorem exists_nearest_eq :
    ∃ top bottom place, 0 < bottom ∧ bottom * 2 ^ 52 ≤ top ∧ top < bottom * 2 ^ 53 ∧
      double.leadingExponent numerator denominator = place ∧
      scaled numerator denominator place = (top, bottom) ∧
      (numerator : ℚ) / denominator = top / bottom * 2 ^ place ∧
      double.nearest numerator denominator = ⟨roundedQuotient top bottom, place⟩ := by
  obtain ⟨notBelow, below⟩ := leadingExponent_bounds numerator_pos denominator_pos
  rcases leading : double.leadingExponent numerator denominator with place
  obtain ⟨bottom_pos, isScaled⟩ := scaled_eq numerator denominator_pos place
  rcases scaledTo : scaled numerator denominator place with ⟨top, bottom⟩
  rw [scaledTo] at bottom_pos isScaled
  rw [leading] at notBelow below
  dsimp only at bottom_pos isScaled
  have isPositive : (0 : ℚ) < bottom := by exact_mod_cast bottom_pos
  have two_pos : (0 : ℚ) < 2 ^ place := by positivity
  rw [isScaled, zpow_add₀ (by norm_num), mul_le_mul_iff_left₀ two_pos,
    le_div_iff₀ isPositive] at notBelow
  rw [isScaled, zpow_add₀ (by norm_num), mul_lt_mul_iff_left₀ two_pos,
    div_lt_iff₀ isPositive] at below
  refine ⟨top, bottom, place, bottom_pos, ?_, ?_, rfl, scaledTo, isScaled, ?_⟩
  · rw [mul_comm]
    exact_mod_cast notBelow
  · rw [mul_comm]
    exact_mod_cast below
  · exact nearest_of leading scaledTo

/-- The number nearest to a fraction lies between the same powers of two. -/
theorem value_nearest_bounds :
    (2 : ℚ) ^ (52 + double.leadingExponent numerator denominator) ≤
        (double.nearest numerator denominator).value ∧
      (double.nearest numerator denominator).value ≤
        2 ^ (53 + double.leadingExponent numerator denominator) := by
  obtain ⟨top, bottom, place, bottom_pos, notShort, notLong, leading, -, -, isNearest⟩ :=
    exists_nearest_eq numerator_pos denominator_pos
  obtain ⟨notBelow, notAbove⟩ := roundedQuotient_bounds_of bottom_pos notShort notLong
  rw [isNearest, leading]
  simp only [Scaled.value, zpow_add₀ (show (2 : ℚ) ≠ 0 by norm_num)]
  constructor
  · gcongr
    exact_mod_cast notBelow
  · gcongr
    exact_mod_cast notAbove

/-- Rounding a fraction does not pass a power of two. -/
theorem near_nearest :
    (double.nearest numerator denominator).Near (numerator / denominator) := by
  obtain ⟨notBelow, below⟩ := leadingExponent_bounds numerator_pos denominator_pos
  obtain ⟨valueNotBelow, valueNotAbove⟩ := value_nearest_bounds numerator_pos denominator_pos
  constructor
  · intro power notLess
    have less := notLess.trans_lt below
    rw [zpow_lt_zpow_iff_right₀ (by norm_num)] at less
    exact le_trans (zpow_le_zpow_right₀ (by norm_num) (by omega)) valueNotBelow
  · intro power notGreater
    have notLess := notBelow.trans notGreater
    rw [zpow_le_zpow_iff_right₀ (by norm_num)] at notLess
    rcases Int.lt_or_eq_of_le notLess with less | rfl
    · exact valueNotAbove.trans (zpow_le_zpow_right₀ (by norm_num) (by omega))
    · -- The fraction is the power of two itself, and is not rounded at all.
      have isPower := le_antisymm notGreater notBelow
      obtain ⟨top, bottom, place, bottom_pos, -, -, leading, -, isScaled, isNearest⟩ :=
        exists_nearest_eq numerator_pos denominator_pos
      have isPositive : (0 : ℚ) < bottom := by exact_mod_cast bottom_pos
      rw [leading, isScaled, zpow_add₀ (by norm_num), mul_left_inj' (by positivity),
        div_eq_iff isPositive.ne'] at isPower
      obtain rfl : top = 2 ^ 52 * bottom := by exact_mod_cast isPower
      rw [isNearest, leading, roundedQuotient_mul _ bottom_pos, Scaled.value,
        zpow_add₀ (by norm_num)]
      norm_num

end Nearest

/-- The bits of a rounded fraction, once the place is known that it is rounded to. -/
theorem round_eq
    {format : BinaryFormat}
    {top bottom : Nat}
    {place : Int}
    (notZero : numerator ≠ 0)
    (leading : max (format.leadingExponent numerator denominator) format.lowestExponent = place)
    (scaledTo : scaled numerator denominator place = (top, bottom)) :
    format.round numerator denominator =
      min ((place - format.lowestExponent).toNat * 2 ^ format.fractionBits
        + roundedQuotient top bottom) format.infinityBits := by
  simp only [round, if_neg notZero, leading, scaledTo, Nat.pow_eq]

theorem round_le_infinityBits (format : BinaryFormat) (numerator denominator : Nat) :
    format.round numerator denominator ≤ format.infinityBits := by
  unfold round
  split_ifs
  · exact Nat.zero_le _
  · exact Nat.min_le_right _ _

/-- A mantissa and the number of its last place are put together in the bits of a number, also if the
mantissa is one too long. -/
theorem decode_double
    {place mantissa : Nat}
    (notShort : 2 ^ 52 ≤ mantissa)
    (notLong : mantissa ≤ 2 ^ 53)
    (isFinite : place < 2000) :
    ∃ magnitude, double.decode (place * 2 ^ 52 + mantissa) = .finite false magnitude ∧
      magnitude.value = mantissa * 2 ^ ((place : Int) - 1074) := by
  have positive : ¬ 2 ^ 63 ≤ place * 2 ^ 52 + mantissa := by omega
  have notInfinite : ¬ place * 2 ^ 52 + mantissa = 2047 * 2 ^ 52 := by omega
  have notNan : ¬ 2047 * 2 ^ 52 < place * 2 ^ 52 + mantissa := by omega
  have field_pos : ¬ (place * 2 ^ 52 + mantissa) / 2 ^ 52 = 0 := by omega
  simp only [decode, signBit_double, infinityBits_double, fractionBits_double,
    lowestExponent_double, Nat.pow_eq, positive, notInfinite, notNan, field_pos, decide_false,
    if_false]
  refine ⟨_, rfl, ?_⟩
  rcases Nat.lt_or_eq_of_le notLong with fits | rfl
  · have field : (place * 2 ^ 52 + mantissa) / 2 ^ 52 = place + 1 := by omega
    have fraction : 2 ^ 52 + (place * 2 ^ 52 + mantissa) % 2 ^ 52 = mantissa := by omega
    simp only [Magnitude.value, field, fraction]
    congr 2
    push_cast
    ring
  · -- A mantissa that is one too long is carried over into the field of the exponent.
    have field : (place * 2 ^ 52 + 2 ^ 53) / 2 ^ 52 = place + 2 := by omega
    have fraction : (place * 2 ^ 52 + 2 ^ 53) % 2 ^ 52 = 0 := by omega
    have next : (-1074 : Int) + (((place + 2 : Nat) : Int) - 1) = (place : Int) - 1074 + 1 := by
      push_cast
      ring
    simp only [Magnitude.value, field, fraction]
    rw [next, zpow_add_one₀ (by norm_num)]
    push_cast
    ring

/-- A fraction that is neither too small nor too great for the format is rounded to the nearest
number. -/
theorem decode_round_double
    (numerator_pos : 0 < numerator)
    (denominator_pos : 0 < denominator)
    (notLow : -1074 ≤ double.leadingExponent numerator denominator)
    (isFinite : double.leadingExponent numerator denominator < 900) :
    ∃ magnitude, double.decode (double.round numerator denominator) = .finite false magnitude ∧
      magnitude.value = (double.nearest numerator denominator).value := by
  obtain ⟨top, bottom, place, bottom_pos, notShort, notLong, leading, scaledTo, -, isNearest⟩ :=
    exists_nearest_eq numerator_pos denominator_pos
  obtain ⟨notBelow, notAbove⟩ := roundedQuotient_bounds_of bottom_pos notShort notLong
  have isLeading : max (double.leadingExponent numerator denominator) double.lowestExponent =
      place := by
    rw [lowestExponent_double, Int.max_eq_left notLow, leading]
  rw [leading] at notLow isFinite
  obtain ⟨shifted, rfl⟩ : ∃ shifted : Nat, place = (shifted : Int) - 1074 :=
    ⟨(place + 1074).toNat, by omega⟩
  have bits : double.round numerator denominator =
      shifted * 2 ^ 52 + roundedQuotient top bottom := by
    rw [round_eq numerator_pos.ne' isLeading scaledTo]
    simp only [fractionBits_double, infinityBits_double, lowestExponent_double]
    omega
  rw [bits, isNearest]
  exact decode_double notBelow notAbove (by omega)

/-- One has the bits of one. -/
theorem round_of_eq_one
    (numerator_pos : 0 < numerator)
    (denominator_pos : 0 < denominator)
    (isOne : (numerator : ℚ) / denominator = 1) :
    double.round numerator denominator = 1023 * 2 ^ 52 := by
  obtain ⟨notBelow, below⟩ := leadingExponent_bounds numerator_pos denominator_pos
  obtain ⟨top, bottom, place, bottom_pos, -, -, leading, scaledTo, isScaled, -⟩ :=
    exists_nearest_eq numerator_pos denominator_pos
  rw [isOne, leading, ← zpow_zero 2] at notBelow below
  rw [zpow_le_zpow_iff_right₀ (by norm_num)] at notBelow
  rw [zpow_lt_zpow_iff_right₀ (by norm_num)] at below
  obtain rfl : place = -52 := by omega
  have isPositive : (0 : ℚ) < bottom := by exact_mod_cast bottom_pos
  have quotient : (top : ℚ) = 2 ^ 52 * bottom := by
    rw [isOne, eq_comm, zpow_neg, ← div_eq_mul_inv, div_eq_one_iff_eq (by positivity),
      div_eq_iff isPositive.ne'] at isScaled
    exact_mod_cast isScaled
  obtain rfl : top = 2 ^ 52 * bottom := by exact_mod_cast quotient
  have notLow : max (double.leadingExponent numerator denominator) double.lowestExponent = -52 := by
    rw [leading, lowestExponent_double]
    rfl
  rw [round_eq numerator_pos.ne' notLow scaledTo, roundedQuotient_mul _ bottom_pos,
    fractionBits_double, infinityBits_double, lowestExponent_double]
  decide

/-- What is at most one half has fewer bits than one. -/
theorem round_lt_of_le_half
    (numerator_pos : 0 < numerator)
    (denominator_pos : 0 < denominator)
    (small : (numerator : ℚ) / denominator ≤ 2 ^ (-1 : Int)) :
    double.round numerator denominator < 1023 * 2 ^ 52 := by
  obtain ⟨notBelow, below⟩ := leadingExponent_bounds numerator_pos denominator_pos
  obtain ⟨top, bottom, place, bottom_pos, notShort, notLong, leading, scaledTo, -, isNearest⟩ :=
    exists_nearest_eq numerator_pos denominator_pos
  have notLess := notBelow.trans small
  rw [zpow_le_zpow_iff_right₀ (by norm_num), leading] at notLess
  rcases Int.le_total place double.lowestExponent with low | notLow
  · -- The number is rounded to the last place of the smallest numbers.
    obtain ⟨bottom_pos, isScaled⟩ :=
      scaled_eq numerator denominator_pos double.lowestExponent
    rcases scaledLow : scaled numerator denominator double.lowestExponent with ⟨top, bottom⟩
    rw [scaledLow] at bottom_pos isScaled
    dsimp only at bottom_pos isScaled
    have isPositive : (0 : ℚ) < bottom := by exact_mod_cast bottom_pos
    rw [isScaled, leading] at below
    have less := below.trans_le (zpow_le_zpow_right₀ (show (1 : ℚ) ≤ 2 by norm_num)
      (Int.add_le_add_left low 53))
    rw [zpow_add₀ (by norm_num), mul_lt_mul_iff_left₀ (by positivity),
      div_lt_iff₀ isPositive] at less
    have short : top < 2 ^ 53 * bottom := by exact_mod_cast less
    have notAbove := (roundedQuotient_bounds_of bottom_pos (show bottom * 0 ≤ top from Nat.zero_le top)
      (Nat.mul_comm bottom _ ▸ short)).2
    have isLowest : max (double.leadingExponent numerator denominator) double.lowestExponent =
        double.lowestExponent := by
      rw [leading]
      exact Int.max_eq_right low
    rw [round_eq numerator_pos.ne' isLowest scaledLow]
    simp only [fractionBits_double, infinityBits_double]
    omega
  · -- One half is a power of two, so what is at most one half is not rounded past it.
    have notAbove := (roundedQuotient_bounds_of bottom_pos notShort notLong).2
    have notHalf : place = -53 → roundedQuotient top bottom ≤ 2 ^ 52 := by
      rintro rfl
      have valueNotAbove := (near_nearest numerator_pos denominator_pos).notAbove _ small
      simp only [isNearest, Scaled.value] at valueNotAbove
      rw [← le_div_iff₀ (by positivity), ← zpow_sub₀ (by norm_num),
        show (-1 : Int) - -53 = (52 : Nat) from rfl, zpow_natCast] at valueNotAbove
      exact_mod_cast valueNotAbove
    have isLeading : max (double.leadingExponent numerator denominator) double.lowestExponent =
        place := by
      rw [leading]
      exact Int.max_eq_left notLow
    rw [round_eq numerator_pos.ne' isLeading scaledTo]
    simp only [fractionBits_double, infinityBits_double, lowestExponent_double] at notLow ⊢
    omega

/-- An unbounded number is rounded as the fraction that it is. -/
theorem exists_ofScaled_eq
    {number : Scaled}
    (positive : 0 < number.value) :
    ∃ top bottom : Nat, 0 < top ∧ 0 < bottom ∧ (top : ℚ) / bottom = number.value ∧
      double.ofScaled number.mantissa number.exponent = double.round top bottom := by
  obtain ⟨bottom_pos, isScaled⟩ := scaled_eq number.mantissa Nat.one_pos (-number.exponent)
  rcases scaledTo : scaled number.mantissa 1 (-number.exponent) with ⟨top, bottom⟩
  rw [scaledTo] at bottom_pos isScaled
  dsimp only at bottom_pos isScaled
  rw [Nat.cast_one, div_one, zpow_neg, ← div_eq_mul_inv, eq_div_iff (by positivity)] at isScaled
  have isFraction : (top : ℚ) / bottom = number.value := isScaled.symm
  rw [← isFraction] at positive
  have bottom_pos' : (0 : ℚ) < bottom := by exact_mod_cast bottom_pos
  have top_pos : (0 : ℚ) < top := (div_pos_iff_of_pos_right bottom_pos').mp positive
  refine ⟨top, bottom, by exact_mod_cast top_pos, bottom_pos, isFraction, ?_⟩
  simp only [ofScaled, scaledTo]

/-- The sign of a number stands before its magnitude. -/
theorem decode_withSign
    {bits : Nat}
    {magnitude : Magnitude}
    (small : bits < 2 ^ 63)
    (decoded : double.decode bits = .finite false magnitude)
    (negative : Bool) :
    double.decode (double.withSign negative bits) = .finite negative magnitude := by
  cases negative with
  | false =>
      exact decoded
  | true =>
      have isNegative : double.signBit ≤ double.signBit + bits := Nat.le_add_right _ _
      have notNegative : ¬ double.signBit ≤ bits := by
        rw [signBit_double]
        exact Nat.not_le.mpr small
      simp only [withSign, if_true, decode, isNegative, decide_true, Nat.add_sub_cancel_left]
      simp only [decode, notNegative, decide_false, if_false] at decoded
      split_ifs at decoded ⊢
      all_goals cases decoded; rfl

/-- Fewer bits than those of one are those of a fraction. -/
theorem decode_of_lt_one
    {bits : Nat}
    (small : bits < 1023 * 2 ^ 52) :
    ∃ magnitude, double.decode bits = .finite false magnitude ∧ magnitude.value < 1 := by
  have positive : ¬ 2 ^ 63 ≤ bits := by omega
  have notInfinite : ¬ bits = 2047 * 2 ^ 52 := by omega
  have notNan : ¬ 2047 * 2 ^ 52 < bits := by omega
  simp only [decode, signBit_double, infinityBits_double, fractionBits_double,
    lowestExponent_double, Nat.pow_eq, positive, notInfinite, notNan, decide_false,
    if_false]
  split_ifs
  · exact ⟨_, rfl, Magnitude.value_lt_one (by dsimp only; omega) (by dsimp only; omega)⟩
  · exact ⟨_, rfl, Magnitude.value_lt_one (by dsimp only; omega) (by dsimp only; omega)⟩

/-- The double format rounds a whole number to another. -/
def RoundsTo (number rounded : Nat) : Prop :=
  ∃ magnitude, double.decode (double.round number 1) = .finite false magnitude ∧
    magnitude.value = rounded

/-- A whole number becomes the one that it is rounded to, with its sign. -/
theorem decode_ofInt
    {number : Int}
    {rounded : Nat}
    (rounds : RoundsTo number.natAbs rounded) :
    ∃ magnitude, double.decode (double.ofInt number) = .finite (number < 0) magnitude ∧
      magnitude.value = rounded := by
  obtain ⟨magnitude, decoded, isRounded⟩ := rounds
  have notAbove := round_le_infinityBits double number.natAbs 1
  rw [infinityBits_double] at notAbove
  exact ⟨magnitude, decode_withSign (by omega) decoded _, isRounded⟩

section Whole

variable {number : Nat} (number_pos : 0 < number)

include number_pos

/-- A whole number of at most 64 bits is rounded to the nearest one. -/
theorem roundsTo_of_value_nearest
    {rounded : Nat}
    (bounded : number < 2 ^ 64)
    (isNearest : (double.nearest number 1).value = rounded) :
    RoundsTo number rounded := by
  obtain ⟨notBelow, below⟩ := leadingExponent_bounds number_pos Nat.one_pos
  have less : (number : ℚ) / (1 : Nat) < 2 ^ (64 : Int) := by
    rw [Nat.cast_one, div_one]
    exact_mod_cast bounded
  have notLess : (2 : ℚ) ^ (0 : Int) ≤ number / (1 : Nat) := by
    rw [Nat.cast_one, div_one]
    exact_mod_cast number_pos
  have high := notBelow.trans_lt less
  have low := notLess.trans_lt below
  rw [zpow_lt_zpow_iff_right₀ (by norm_num)] at high low
  obtain ⟨magnitude, decoded, isValue⟩ :=
    decode_round_double number_pos Nat.one_pos (by omega) (by omega)
  exact ⟨magnitude, decoded, isValue.trans isNearest⟩

/-- Whole numbers of at most 53 bits are kept. -/
theorem roundsTo_self (narrow : number < 2 ^ 53) : RoundsTo number number := by
  refine roundsTo_of_value_nearest number_pos (by omega) ?_
  obtain ⟨top, bottom, place, bottom_pos, -, -, leading, scaledTo, isScaled, isNearest⟩ :=
    exists_nearest_eq number_pos Nat.one_pos
  have less : (number : ℚ) / (1 : Nat) < 2 ^ (53 : Int) := by
    rw [Nat.cast_one, div_one]
    exact_mod_cast narrow
  have low := (leadingExponent_bounds number_pos Nat.one_pos).1.trans_lt less
  rw [zpow_lt_zpow_iff_right₀ (by norm_num), leading] at low
  obtain rfl : bottom = 1 := by
    rcases Int.lt_or_eq_of_le (show place ≤ 0 by omega) with negative | rfl
    · rw [scaled, if_neg (Int.not_le.mpr negative)] at scaledTo
      exact (Prod.mk.inj scaledTo).2.symm
    · exact (Prod.mk.inj scaledTo).2.symm
  have exact : roundedQuotient top 1 = top := by
    simpa using roundedQuotient_mul top Nat.one_pos
  rw [isNearest, Scaled.value, exact]
  simpa using isScaled.symm

/-- Whole numbers of more than 53 bits become even. -/
theorem exists_roundsTo_even
    (wide : 2 ^ 53 ≤ number)
    (bounded : number < 2 ^ 64) :
    ∃ half, 0 < half ∧ RoundsTo number (2 * half) := by
  obtain ⟨top, bottom, place, bottom_pos, notShort, notLong, leading, -, -, isNearest⟩ :=
    exists_nearest_eq number_pos Nat.one_pos
  have notLess : (2 : ℚ) ^ (53 : Int) ≤ number / (1 : Nat) := by
    rw [Nat.cast_one, div_one]
    exact_mod_cast wide
  have high := notLess.trans_lt (leadingExponent_bounds number_pos Nat.one_pos).2
  rw [zpow_lt_zpow_iff_right₀ (by norm_num), leading] at high
  -- The last place of so wide a number stands for at least two.
  obtain ⟨extra, rfl⟩ : ∃ extra : Nat, place = (extra : Int) + 1 :=
    ⟨(place - 1).toNat, by omega⟩
  have notBelow := (roundedQuotient_bounds_of bottom_pos notShort notLong).1
  refine ⟨roundedQuotient top bottom * 2 ^ extra,
    Nat.mul_pos (by omega) (Nat.two_pow_pos extra), ?_⟩
  refine roundsTo_of_value_nearest number_pos bounded ?_
  rw [isNearest, Scaled.value, zpow_add_one₀ (by norm_num), zpow_natCast]
  push_cast
  ring

/-- Rounding keeps the parity of a number below the limit, and makes every other number even. -/
theorem exists_roundsTo (bounded : number < 2 ^ 64) :
    ∃ rounded, RoundsTo number rounded ∧ 0 < rounded ∧ (number < 2 ^ 53 → rounded = number) ∧
      (Odd rounded ↔ Odd number ∧ number < 2 ^ 53) := by
  by_cases narrow : number < 2 ^ 53
  · exact ⟨number, roundsTo_self number_pos narrow, number_pos, fun _ => rfl,
      (and_iff_left narrow).symm⟩
  · obtain ⟨half, half_pos, rounds⟩ :=
      exists_roundsTo_even number_pos (Nat.not_lt.mp narrow) bounded
    refine ⟨2 * half, rounds, by omega, fun isNarrow => absurd isNarrow narrow, ?_⟩
    refine iff_of_false (Nat.not_odd_iff_even.mpr (even_two_mul half)) ?_
    exact fun ⟨_, isNarrow⟩ => narrow isNarrow

end Whole

end BinaryFormat

end Scripting.Decimal
