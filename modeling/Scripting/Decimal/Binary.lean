namespace Scripting.Decimal

/-!
# Binary floating point formats

A finite number of a binary format is a mantissa times a power of two.  `BinaryFormat.decode`
takes the bits of a number apart, and `BinaryFormat.round` finds the bits of the number nearest to
a fraction.  All arithmetic is exact.
-/

/-- An interchange format: the bits of a full mantissa and of the exponent field. -/
structure BinaryFormat where
  precision : Nat
  exponentBits : Nat
  deriving Repr, DecidableEq

namespace BinaryFormat

/-- The 32-bit format. -/
def single : BinaryFormat := ⟨24, 8⟩

/-- The 64-bit format. -/
def double : BinaryFormat := ⟨53, 11⟩

/-- The number of fraction bits that are stored. -/
def fractionBits (format : BinaryFormat) : Nat :=
  format.precision - 1

/-- The exponent of the last place of the smallest numbers. -/
def lowestExponent (format : BinaryFormat) : Int :=
  3 - Nat.pow 2 (format.exponentBits - 1) - format.precision

/-- The magnitude bits of infinity. -/
def infinityBits (format : BinaryFormat) : Nat :=
  (Nat.pow 2 format.exponentBits - 1) * Nat.pow 2 format.fractionBits

/-- The position of the sign bit, as a number. -/
def signBit (format : BinaryFormat) : Nat :=
  Nat.pow 2 (format.exponentBits + format.fractionBits)

end BinaryFormat

/-- A finite magnitude `mantissa * 2 ^ exponent`; the gap to the next smaller number is half of
the gap to the next greater one exactly when `narrowBelow` holds. -/
structure Magnitude where
  mantissa : Nat
  exponent : Int
  narrowBelow : Bool
  deriving Repr, DecidableEq

/-- What the bits of a floating point number mean. -/
inductive Decoded where
  | nan
  | infinite (negative : Bool)
  | finite (negative : Bool) (magnitude : Magnitude)
  deriving Repr, DecidableEq

namespace BinaryFormat

/-- The meaning of the bits of a number. -/
def decode (format : BinaryFormat) (bits : Nat) : Decoded :=
  let negative := format.signBit ≤ bits
  let magnitudeBits := if negative then bits - format.signBit else bits
  let field := magnitudeBits / Nat.pow 2 format.fractionBits
  let fraction := magnitudeBits % Nat.pow 2 format.fractionBits
  if magnitudeBits = format.infinityBits then
    .infinite negative
  else if format.infinityBits < magnitudeBits then
    .nan
  else if field = 0 then
    .finite negative ⟨fraction, format.lowestExponent, false⟩
  else
    .finite negative
      ⟨Nat.pow 2 format.fractionBits + fraction, format.lowestExponent + (field - 1),
        fraction = 0 && 1 < field⟩

/-- A quotient rounded to the nearest whole number, a tie to the even one. -/
def roundedQuotient (numerator denominator : Nat) : Nat :=
  let quotient := numerator / denominator
  let twice := 2 * (numerator % denominator)
  if twice < denominator then quotient
  else if denominator < twice then quotient + 1
  else if quotient % 2 = 0 then quotient
  else quotient + 1

/-- `numerator / denominator / 2 ^ exponent` as a fraction. -/
def scaled (numerator denominator : Nat) (exponent : Int) : Nat × Nat :=
  if 0 ≤ exponent then
    (numerator, denominator * Nat.pow 2 exponent.toNat)
  else
    (numerator * Nat.pow 2 (-exponent).toNat, denominator)

/-- The exponent at which a fraction has exactly `precision` bits before the point. -/
def leadingExponent (format : BinaryFormat) (numerator denominator : Nat) : Int :=
  let guess : Int := (numerator.log2 : Int) - denominator.log2 - format.fractionBits
  let (top, bottom) := scaled numerator denominator guess
  if top < bottom * Nat.pow 2 format.fractionBits then guess - 1 else guess

/-- The magnitude bits of the number nearest to a fraction, a tie to the even mantissa; past the
greatest number that is infinity. -/
def round (format : BinaryFormat) (numerator denominator : Nat) : Nat :=
  if numerator = 0 then
    0
  else
    let exponent := max (format.leadingExponent numerator denominator) format.lowestExponent
    let (top, bottom) := scaled numerator denominator exponent
    let bits :=
      (exponent - format.lowestExponent).toNat * Nat.pow 2 format.fractionBits
        + roundedQuotient top bottom
    min bits format.infinityBits

/-- The magnitude bits of `mantissa * 2 ^ exponent`. -/
def ofScaled (format : BinaryFormat) (mantissa : Nat) (exponent : Int) : Nat :=
  let (top, bottom) := scaled mantissa 1 (-exponent)
  format.round top bottom

/-- The bits of a magnitude with its sign. -/
def withSign (format : BinaryFormat) (negative : Bool) (magnitudeBits : Nat) : Nat :=
  if negative then format.signBit + magnitudeBits else magnitudeBits

end BinaryFormat

end Scripting.Decimal
