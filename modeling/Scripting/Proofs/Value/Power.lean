import Scripting.Proofs.Value.Rounding
import Mathlib.Algebra.Order.Archimedean.Basic

namespace Scripting.Decimal

/-!
# Powers by repeated squaring

Products and reciprocals are rounded, and rounding does not pass a power of two.  So the powers of
one are one, and the powers of a base that is at least two are at least two: of their reciprocals
nothing is left when they are cut off.
-/

namespace Scaled

open BinaryFormat

variable {number left right product base : Scaled} {power : Int}

theorem value_pos_iff : 0 < number.value ↔ 0 < number.mantissa := by
  rw [value, mul_pos_iff_of_pos_right (by positivity), Nat.cast_pos]

theorem value_one : one.value = 1 := by
  simp [value, one]

/-- A shift multiplies by a power of two. -/
theorem value_shift (number : Scaled) (places : Int) :
    (number.shift places).value = number.value * 2 ^ places := by
  simp only [value, shift]
  rw [zpow_add₀ (by norm_num), mul_assoc]

/-- A number lies below the power of two that its order gives, and not below the one before. -/
theorem order_bounds (positive : 0 < number.value) :
    (2 : ℚ) ^ (number.order - 1) ≤ number.value ∧ number.value < 2 ^ number.order := by
  obtain ⟨notLess, less⟩ := log2_bounds (value_pos_iff.mp positive)
  constructor
  · rw [show number.order - 1 = (number.mantissa.log2 : Int) + number.exponent by
      rw [order]; ring, zpow_add₀ (by norm_num), value]
    gcongr
  · rw [show number.order = ((number.mantissa.log2 : Int) + 1) + number.exponent by
      rw [order]; ring, zpow_add₀ (by norm_num), value]
    gcongr

/-- A shift keeps what a number is near to, shifted. -/
theorem Near.shift
    {exact : ℚ}
    (near : number.Near exact)
    (places : Int) :
    (number.shift places).Near (exact * 2 ^ places) := by
  have places_pos : (0 : ℚ) < 2 ^ places := by positivity
  constructor
  · intro power notLess
    rw [← div_le_iff₀ places_pos, ← zpow_sub₀ (by norm_num)] at notLess
    rw [value_shift, ← div_le_iff₀ places_pos, ← zpow_sub₀ (by norm_num)]
    exact near.notBelow _ notLess
  · intro power notGreater
    rw [← le_div_iff₀ places_pos, ← zpow_sub₀ (by norm_num)] at notGreater
    rw [value_shift, ← le_div_iff₀ places_pos, ← zpow_sub₀ (by norm_num)]
    exact near.notAbove _ notGreater

/-- A number near to a positive one is positive. -/
theorem Near.value_pos
    {exact : ℚ}
    (near : number.Near exact)
    (exact_pos : 0 < exact) :
    0 < number.value := by
  obtain ⟨power, notLess, -⟩ := exists_mem_Ico_zpow exact_pos (show (1 : ℚ) < 2 by norm_num)
  exact lt_of_lt_of_le (by positivity) (near.notBelow power notLess)

/-- A product is near to the exact one. -/
theorem near_mul (left_pos : 0 < left.value) (right_pos : 0 < right.value) :
    (left.mul right).Near (left.value * right.value) := by
  have mantissas_pos : 0 < left.mantissa * right.mantissa :=
    Nat.mul_pos (value_pos_iff.mp left_pos) (value_pos_iff.mp right_pos)
  have product : left.value * right.value =
      ((left.mantissa * right.mantissa : Nat) : ℚ) / (1 : Nat) *
        2 ^ (left.exponent + right.exponent) := by
    rw [value, value, zpow_add₀ (by norm_num)]
    push_cast
    ring
  rw [product]
  exact (near_nearest mantissas_pos Nat.one_pos).shift _

/-- A reciprocal is near to the exact one. -/
theorem near_reciprocal (positive : 0 < number.value) :
    number.reciprocal.Near number.value⁻¹ := by
  have inverse : number.value⁻¹ = ((1 : Nat) : ℚ) / number.mantissa * 2 ^ (-number.exponent) := by
    rw [value, mul_inv, zpow_neg, Nat.cast_one, one_div]
  rw [inverse]
  exact (near_nearest Nat.one_pos (value_pos_iff.mp positive)).shift _

/-- The powers of one are one. -/
theorem value_timesPower_of_one
    (count : Nat)
    (isOne : product.value = 1)
    (base_one : base.value = 1) :
    (product.timesPower base count).value = 1 := by
  have mul_one {left right : Scaled} (left_one : left.value = 1) (right_one : right.value = 1) :
      (left.mul right).value = 1 := by
    have near : (left.mul right).Near (left.value * right.value) :=
      near_mul (by rw [left_one]; norm_num) (by rw [right_one]; norm_num)
    rw [left_one, right_one] at near
    exact le_antisymm (near.notAbove 0 (by norm_num)) (near.notBelow 0 (by norm_num))
  have order_one {number : Scaled} (number_one : number.value = 1) : number.order = 1 := by
    have positive : 0 < number.value := by
      rw [number_one]
      norm_num
    obtain ⟨notLess, less⟩ := order_bounds positive
    rw [number_one, ← zpow_zero 2] at notLess less
    rw [zpow_le_zpow_iff_right₀ (by norm_num)] at notLess
    rw [zpow_lt_zpow_iff_right₀ (by norm_num)] at less
    omega
  fun_induction timesPower product base count with
  | case1 product base =>
      exact isOne
  | case2 product base count _ outOfBounds =>
      -- The exponent of one is never out of bounds.
      rw [order_one base_one] at outOfBounds
      exact absurd outOfBounds (by decide)
  | case3 product base count _ _ inductionHypothesis =>
      refine inductionHypothesis ?_ (mul_one base_one base_one)
      split_ifs
      · exact mul_one isOne base_one
      · exact isOne

/-- A power of a base of at least two is at least two. -/
theorem two_le_value_timesPower
    {count : Nat}
    (notLess : 1 ≤ product.value)
    (base_large : 2 ≤ base.value)
    (large : 2 ≤ product.value ∨ 0 < count) :
    2 ≤ (product.timesPower base count).value := by
  have mul_large {left right : Scaled} (left_large : 1 ≤ left.value)
      (right_large : 2 ≤ right.value) : 2 ≤ (left.mul right).value := by
    have near : (left.mul right).Near (left.value * right.value) :=
      near_mul (by linarith) (by linarith)
    have notLess := near.notBelow 1 (by rw [zpow_one]; nlinarith)
    rwa [zpow_one] at notLess
  fun_induction timesPower product base count with
  | case1 product base =>
      exact large.resolve_right (Nat.lt_irrefl 0)
  | case2 product base count _ _ =>
      -- The product is shifted by the order of the base, which is at least two.
      have base_pos : 0 < base.value := by
        linarith
      have less := (order_bounds base_pos).2
      have many : (2 : ℚ) ^ (1 : Int) < 2 ^ base.order := by
        rw [zpow_one]
        linarith
      rw [zpow_one] at many
      rw [value_shift]
      nlinarith
  | case3 product base count notZero _ inductionHypothesis =>
      have squared : 2 ≤ (base.mul base).value := mul_large (by linarith) base_large
      split_ifs at inductionHypothesis ⊢ with isOdd
      · have multiplied : 2 ≤ (product.mul base).value := mul_large notLess base_large
        exact inductionHypothesis (by linarith) squared (.inl multiplied)
      · exact inductionHypothesis notLess squared (.inr (by omega))

end Scaled

namespace Magnitude

open BinaryFormat

variable {magnitude : Magnitude}

/-- A magnitude is the fraction that it is written as. -/
theorem fraction_eq (magnitude : Magnitude) :
    0 < magnitude.fraction.2 ∧
      magnitude.value = magnitude.fraction.1 / magnitude.fraction.2 := by
  obtain ⟨bottom_pos, isScaled⟩ :=
    scaled_eq magnitude.mantissa Nat.one_pos (-magnitude.exponent)
  refine ⟨bottom_pos, ?_⟩
  rw [Nat.cast_one, div_one, zpow_neg, ← div_eq_mul_inv, eq_div_iff (by positivity)] at isScaled
  exact isScaled

/-- The fraction of a whole number. -/
theorem exists_fraction_eq
    {whole : Nat}
    (isWhole : magnitude.value = whole) :
    ∃ bottom, 0 < bottom ∧ magnitude.fraction = (whole * bottom, bottom) := by
  obtain ⟨bottom_pos, isFraction⟩ := magnitude.fraction_eq
  rcases fraction : magnitude.fraction with ⟨top, bottom⟩
  rw [fraction] at bottom_pos isFraction
  dsimp only at bottom_pos isFraction
  have isPositive : (bottom : ℚ) ≠ 0 := by exact_mod_cast bottom_pos.ne'
  rw [isWhole, eq_div_iff isPositive] at isFraction
  obtain rfl : whole * bottom = top := by exact_mod_cast isFraction
  exact ⟨bottom, bottom_pos, rfl⟩

/-- A magnitude compares as equal with the fraction that it is. -/
theorem compareTo_eq_iff
    (numerator : Nat)
    {denominator : Nat}
    (denominator_pos : 0 < denominator) :
    magnitude.compareTo numerator denominator = .eq ↔
      magnitude.value = numerator / denominator := by
  obtain ⟨bottom_pos, isFraction⟩ := magnitude.fraction_eq
  have bottom_ne : (magnitude.fraction.2 : ℚ) ≠ 0 := by exact_mod_cast bottom_pos.ne'
  have denominator_ne : (denominator : ℚ) ≠ 0 := by exact_mod_cast denominator_pos.ne'
  rw [isFraction, div_eq_div_iff bottom_ne denominator_ne, compareTo, Nat.compare_eq_eq]
  norm_cast

/-- A magnitude compares as greater with the fractions below it. -/
theorem compareTo_eq_gt_iff
    (numerator : Nat)
    {denominator : Nat}
    (denominator_pos : 0 < denominator) :
    magnitude.compareTo numerator denominator = .gt ↔
      (numerator : ℚ) / denominator < magnitude.value := by
  obtain ⟨bottom_pos, isFraction⟩ := magnitude.fraction_eq
  have bottom_pos' : (0 : ℚ) < magnitude.fraction.2 := by exact_mod_cast bottom_pos
  have denominator_pos' : (0 : ℚ) < denominator := by exact_mod_cast denominator_pos
  rw [isFraction, div_lt_div_iff₀ denominator_pos' bottom_pos', compareTo, Nat.compare_eq_gt]
  norm_cast

end Magnitude

/-- Of a number below one nothing is left but its sign. -/
theorem Decoded.cutOff_of_lt_one
    {magnitude : Magnitude}
    (small : magnitude.value < 1)
    (negative : Bool) :
    (Decoded.finite negative magnitude).cutOff = 0 := by
  obtain ⟨bottom_pos, isFraction⟩ := magnitude.fraction_eq
  rcases fraction : magnitude.fraction with ⟨top, bottom⟩
  rw [fraction] at bottom_pos isFraction
  dsimp only at bottom_pos isFraction
  have bottom_pos' : (0 : ℚ) < bottom := by exact_mod_cast bottom_pos
  rw [isFraction, div_lt_one bottom_pos'] at small
  have nothing : top / bottom = 0 := Nat.div_eq_of_lt (by exact_mod_cast small)
  simp only [cutOff, fraction, nothing]
  cases negative <;> decide

namespace Magnitude

open BinaryFormat

variable {base exponent : Magnitude} {whole : Nat}

/-- A reciprocal power whose exponent is whole, if that is not out of all bounds. -/
theorem powerBits_of_whole
    (isWhole : exponent.value = whole)
    (bounded : whole < 2 ^ 63)
    (negative : Bool) :
    base.powerBits negative true exponent =
      double.withSign (negative && whole % 2 = 1)
        (double.ofScaled (Scaled.one.timesPower base.unbounded whole).reciprocal.mantissa
          (Scaled.one.timesPower base.unbounded whole).reciprocal.exponent) := by
  obtain ⟨bottom, bottom_pos, fraction⟩ := exists_fraction_eq isWhole
  simp only [powerBits, fraction, Nat.mul_div_cancel whole bottom_pos, Nat.mul_mod_left,
    Nat.pow_eq, ne_eq, not_true_eq_false, decide_false, Bool.and_false, Bool.false_eq_true,
    if_false, Nat.not_le.mpr bounded, if_true]

/-- A reciprocal power whose exponent is out of all bounds. -/
theorem powerBits_of_large
    (isWhole : exponent.value = whole)
    (large : 2 ^ 63 ≤ whole)
    (negative : Bool) :
    base.powerBits negative true exponent =
      match base.compareTo 1 1 with
      | .eq => double.ofInt 1
      | .lt => double.infinityBits
      | .gt => 0 := by
  obtain ⟨bottom, bottom_pos, fraction⟩ := exists_fraction_eq isWhole
  simp only [powerBits, fraction, Nat.mul_div_cancel whole bottom_pos, Nat.mul_mod_left,
    Nat.pow_eq, ne_eq, not_true_eq_false, decide_false, Bool.and_false, Bool.false_eq_true,
    if_false]
  exact if_pos large

/-- Nothing is left of a reciprocal power of a base of at least two. -/
theorem cutOff_powerBits_of_two_le
    (base_large : 2 ≤ base.value)
    (isWhole : exponent.value = whole)
    (whole_pos : 0 < whole)
    (negative : Bool) :
    (double.decode (base.powerBits negative true exponent)).cutOff = 0 := by
  by_cases bounded : whole < 2 ^ 63
  · rw [powerBits_of_whole isWhole bounded]
    have product_large : 2 ≤ (Scaled.one.timesPower base.unbounded whole).value :=
      Scaled.two_le_value_timesPower Scaled.value_one.ge base_large (.inr whole_pos)
    generalize Scaled.one.timesPower base.unbounded whole = product at product_large
    -- The reciprocal is at most one half, and no rounding brings it to one.
    have inverse_pos : 0 < product.value⁻¹ := inv_pos.mpr (by linarith)
    have near : product.reciprocal.Near product.value⁻¹ := Scaled.near_reciprocal (by linarith)
    have small : product.reciprocal.value ≤ 2 ^ (-1 : Int) := by
      refine near.notAbove _ ?_
      rw [zpow_neg_one]
      exact inv_anti₀ (by norm_num) product_large
    obtain ⟨top, bottom, top_pos, bottom_pos, isFraction, isRounded⟩ :=
      exists_ofScaled_eq (near.value_pos inverse_pos)
    rw [← isFraction] at small
    have few := round_lt_of_le_half top_pos bottom_pos small
    obtain ⟨magnitude, decoded, below⟩ := decode_of_lt_one few
    rw [isRounded, decode_withSign (by omega) decoded]
    exact Decoded.cutOff_of_lt_one below _
  · have greater : base.compareTo 1 1 = .gt := by
      rw [compareTo_eq_gt_iff 1 Nat.one_pos]
      norm_num
      linarith
    obtain ⟨magnitude, decoded, below⟩ := decode_of_lt_one (show 0 < 1023 * 2 ^ 52 by decide)
    rw [powerBits_of_large isWhole (Nat.not_lt.mp bounded), greater]
    dsimp only
    rw [decoded]
    exact Decoded.cutOff_of_lt_one below _

/-- The bits of one are cut off to one. -/
theorem cutOff_withSign_one (negative : Bool) :
    (double.decode (double.withSign negative (1023 * 2 ^ 52))).cutOff =
      if negative then -1 else 1 := by
  have decoded : double.decode (1023 * 2 ^ 52) = .finite false ⟨2 ^ 52, -52, true⟩ := by
    decide
  rw [decode_withSign (by decide) decoded]
  cases negative <;> decide

/-- A reciprocal power of one is one, and of minus one too if its exponent is not odd. -/
theorem cutOff_powerBits_of_eq_one
    (base_one : base.value = 1)
    (isWhole : exponent.value = whole)
    (even : 2 ^ 63 ≤ whole → whole % 2 = 0)
    (negative : Bool) :
    (double.decode (base.powerBits negative true exponent)).cutOff =
      if negative && whole % 2 = 1 then -1 else 1 := by
  by_cases bounded : whole < 2 ^ 63
  · rw [powerBits_of_whole isWhole bounded]
    have product_one : (Scaled.one.timesPower base.unbounded whole).value = 1 :=
      Scaled.value_timesPower_of_one whole Scaled.value_one base_one
    generalize Scaled.one.timesPower base.unbounded whole = product at product_one
    have near : product.reciprocal.Near product.value⁻¹ :=
      Scaled.near_reciprocal (by rw [product_one]; norm_num)
    rw [product_one, inv_one] at near
    have isOne : product.reciprocal.value = 1 :=
      le_antisymm (near.notAbove 0 (by norm_num)) (near.notBelow 0 (by norm_num))
    obtain ⟨top, bottom, top_pos, bottom_pos, isFraction, isRounded⟩ :=
      exists_ofScaled_eq (near.value_pos one_pos)
    rw [isRounded, round_of_eq_one top_pos bottom_pos (isFraction.trans isOne)]
    exact cutOff_withSign_one _
  · have same : base.compareTo 1 1 = .eq := by
      rw [compareTo_eq_iff 1 Nat.one_pos, base_one]
      norm_num
    have notOdd : whole % 2 = 0 := even (Nat.not_lt.mp bounded)
    rw [powerBits_of_large isWhole (Nat.not_lt.mp bounded), same, notOdd]
    simp only [zero_ne_one, decide_false, Bool.and_false, Bool.false_eq_true, if_false]
    exact cutOff_withSign_one false

end Magnitude

open BinaryFormat

section DoublePower

variable
  {base exponent whole : Nat}
  {negative : Bool}
  {x y : Magnitude}

/-- The code of one. -/
theorem ofInt_one : double.ofInt 1 = 1023 * 2 ^ 52 := by
  decide

/-- A reciprocal power of a whole number is one or minus one if the base is, and otherwise nothing is
left of it. -/
theorem cutOff_doublePower
    (decodedBase : double.decode base = .finite negative x)
    (decodedExponent : double.decode exponent = .finite true y)
    (oneOrMore : x.value = 1 ∨ 2 ≤ x.value)
    (isWhole : y.value = whole)
    (whole_pos : 0 < whole)
    (even : 2 ^ 63 ≤ whole → whole % 2 = 0) :
    (double.decode (doublePower base exponent)).cutOff =
      if x.value = 1 then if negative && whole % 2 = 1 then -1 else 1 else 0 := by
  have whole_pos' : (0 : ℚ) < whole := by exact_mod_cast whole_pos
  have y_pos : y.mantissa ≠ 0 := by
    intro isZero
    rw [Magnitude.value, isZero, Nat.cast_zero, zero_mul] at isWhole
    linarith
  have x_pos : x.mantissa ≠ 0 := by
    intro isZero
    rw [Magnitude.value, isZero, Nat.cast_zero, zero_mul] at oneOrMore
    rcases oneOrMore with isOne | large <;> linarith
  have isOne_iff : x.compareTo 1 1 = .eq ↔ x.value = 1 := by
    rw [Magnitude.compareTo_eq_iff 1 Nat.one_pos, Nat.cast_one, div_one]
  have notHalf : y.compareTo 1 2 ≠ .eq := by
    rw [ne_eq, Magnitude.compareTo_eq_iff 1 Nat.two_pos, isWhole]
    intro isHalf
    have twice : whole * 2 = 1 := by
      field_simp at isHalf
      exact_mod_cast isHalf
    omega
  -- None of the special cases is met but that of the base one.
  have power : doublePower base exponent =
      if !negative && decide (x.value = 1) then double.ofInt 1 else x.powerBits negative true y := by
    simp only [doublePower, decodedBase, decodedExponent, y_pos, x_pos, beq_eq_decide, notHalf,
      isOne_iff, decide_false, Bool.false_or, Bool.not_true, Bool.false_and, Bool.false_eq_true,
      if_false]
  rcases oneOrMore with isOne | large
  · rw [power, if_pos isOne, decide_eq_true isOne, Bool.and_true]
    cases negative with
    | false =>
        rw [Bool.not_false, if_pos rfl, ofInt_one, Bool.false_and, if_neg Bool.false_ne_true]
        exact Magnitude.cutOff_withSign_one false
    | true =>
        rw [Bool.not_true, if_neg Bool.false_ne_true]
        exact Magnitude.cutOff_powerBits_of_eq_one isOne isWhole even true
  · have notOne : x.value ≠ 1 := by
      linarith
    rw [power, if_neg notOne]
    simp only [notOne, decide_false, Bool.and_false, Bool.false_eq_true, if_false]
    exact Magnitude.cutOff_powerBits_of_two_le large isWhole whole_pos negative

end DoublePower

end Scripting.Decimal
