import Scripting.Decimal.Binary

namespace Scripting.Decimal

/-!
# Powers

A power of double numbers is found by repeated squaring, with each product rounded to the mantissa
of a double number.  On the way exponents have no bounds, so that nothing overflows before the
power itself does.  A fraction in the exponent is left to the exponential function and the
logarithm.
-/

/-- A positive number `mantissa * 2 ^ exponent`, whose exponent has no bounds. -/
structure Scaled where
  mantissa : Nat
  exponent : Int
  deriving Repr, DecidableEq

namespace BinaryFormat

/-- The number nearest to a fraction that has as many bits as the mantissas of the format, a tie to
the even one. -/
def nearest (format : BinaryFormat) (numerator denominator : Nat) : Scaled :=
  let exponent := format.leadingExponent numerator denominator
  let (top, bottom) := scaled numerator denominator exponent
  ⟨roundedQuotient top bottom, exponent⟩

/-- The bits of the number nearest to a whole number. -/
def ofInt (format : BinaryFormat) (number : Int) : Nat :=
  format.withSign (number < 0) (format.round number.natAbs 1)

/-- The bits of a number that is none. -/
def nanBits (format : BinaryFormat) : Nat :=
  format.infinityBits + Nat.pow 2 (format.fractionBits - 1)

end BinaryFormat

namespace Scaled

open BinaryFormat (double)

/-- The number one. -/
def one : Scaled :=
  ⟨1, 0⟩

/-- The exponent of the least power of two above a number. -/
def order (number : Scaled) : Int :=
  number.exponent + number.mantissa.log2 + 1

/-- A number times a power of two. -/
def shift (number : Scaled) (places : Int) : Scaled :=
  { number with exponent := number.exponent + places }

/-- The rounded product of two numbers. -/
def mul (left right : Scaled) : Scaled :=
  (double.nearest (left.mantissa * right.mantissa) 1).shift (left.exponent + right.exponent)

/-- The rounded reciprocal of a number. -/
def reciprocal (number : Scaled) : Scaled :=
  (double.nearest 1 number.mantissa).shift (-number.exponent)

/-- A product times a power of a base.  Once the base is out of all bounds the power is too, and it
no longer matters how far. -/
def timesPower (product base : Scaled) (count : Nat) : Scaled :=
  if count = 0 then
    product
  else if 4096 < base.order.natAbs then
    product.shift base.order
  else
    timesPower (if count % 2 = 1 then product.mul base else product) (base.mul base) (count / 2)
termination_by count
decreasing_by omega

end Scaled

namespace Magnitude

open BinaryFormat (double scaled)

/-- A magnitude as a fraction. -/
def fraction (magnitude : Magnitude) : Nat × Nat :=
  scaled magnitude.mantissa 1 (-magnitude.exponent)

/-- Compare a magnitude with a fraction. -/
def compareTo (magnitude : Magnitude) (numerator denominator : Nat) : Ordering :=
  let (top, bottom) := magnitude.fraction
  compare (top * denominator) (numerator * bottom)

/-- Whether a magnitude is an odd whole number. -/
def isOdd (magnitude : Magnitude) : Bool :=
  let (top, bottom) := magnitude.fraction
  top % bottom = 0 && top / bottom % 2 = 1

/-- A magnitude without bounds for its exponent. -/
def unbounded (magnitude : Magnitude) : Scaled :=
  ⟨magnitude.mantissa, magnitude.exponent⟩

/-- The 64-bit number that a magnitude of the double format is. -/
def toFloat (magnitude : Magnitude) : Float :=
  Float.ofBits (double.ofScaled magnitude.mantissa magnitude.exponent).toUInt64

/-- A power with a fraction as the exponent, from the exponential function and the logarithm. -/
def fractionalPower (base : Magnitude) (negative : Bool) (numerator denominator : Nat) : Scaled :=
  let exponent := Float.ofBits
    (double.withSign negative (double.round numerator denominator)).toUInt64
  match double.decode (Float.exp (exponent * base.toFloat.log)).toBits.toNat with
  | .finite _ magnitude => magnitude.unbounded
  | _ => .one

/-- The bits of a power of a finite base that is not zero, for a finite exponent that is not zero
and not one half. -/
def powerBits (negative : Bool) (base : Magnitude) (reciprocal : Bool) (exponent : Magnitude) :
    Nat :=
  let (top, bottom) := exponent.fraction
  let whole := top / bottom
  let rest := top % bottom
  if negative && rest ≠ 0 then
    double.nanBits
  else if Nat.pow 2 63 ≤ whole then
    -- So large an exponent is even.
    match base.compareTo 1 1 with
    | .eq => double.ofInt 1
    | .lt => if reciprocal then double.infinityBits else 0
    | .gt => if reciprocal then 0 else double.infinityBits
  else
    let product :=
      if rest = 0 then
        Scaled.one.timesPower base.unbounded whole
      else if bottom < 2 * rest then
        (base.fractionalPower true (bottom - rest) bottom).timesPower base.unbounded (whole + 1)
      else
        (base.fractionalPower false rest bottom).timesPower base.unbounded whole
    let power := if reciprocal then product.reciprocal else product
    double.withSign (negative && whole % 2 = 1) (double.ofScaled power.mantissa power.exponent)

end Magnitude

open BinaryFormat (double)

/-- The bits of a power of two double numbers, from their bits. -/
def doublePower (base exponent : Nat) : Nat :=
  match double.decode base, double.decode exponent with
  | .finite negative x, .finite reciprocal y =>
      if y.mantissa = 0 || (!negative && x.compareTo 1 1 == .eq) then
        double.ofInt 1
      else if !reciprocal && y.compareTo 1 1 == .eq then
        base
      else if x.mantissa = 0 then
        double.withSign (negative && y.isOdd) (if reciprocal then double.infinityBits else 0)
      else if y.compareTo 1 2 == .eq then
        let root := (Float.ofBits base.toUInt64).sqrt
        (if reciprocal then 1 / root else root).toBits.toNat
      else
        x.powerBits negative reciprocal y
  | .finite _ x, .infinite reciprocal =>
      match x.compareTo 1 1 with
      | .eq => double.ofInt 1
      | .lt => if reciprocal then double.infinityBits else 0
      | .gt => if reciprocal then 0 else double.infinityBits
  | .infinite negative, .finite reciprocal y =>
      if y.mantissa = 0 then
        double.ofInt 1
      else
        double.withSign (negative && y.isOdd) (if reciprocal then 0 else double.infinityBits)
  | .infinite _, .infinite reciprocal =>
      if reciprocal then 0 else double.infinityBits
  | .nan, .finite _ y =>
      if y.mantissa = 0 then double.ofInt 1 else double.nanBits
  | .finite false x, .nan =>
      if x.compareTo 1 1 == .eq then double.ofInt 1 else double.nanBits
  | _, _ =>
      double.nanBits

/-- A number cut off toward zero.  What does not fit into a word becomes the least word. -/
def Decoded.cutOff : Decoded → Int64
  | .finite negative magnitude =>
      let (top, bottom) := magnitude.fraction
      let whole : Int := (top / bottom : Nat)
      let number := if negative then -whole else whole
      if Int64.minValue.toInt ≤ number && number ≤ Int64.maxValue.toInt then
        .ofInt number
      else
        .minValue
  | _ => .minValue

end Scripting.Decimal
