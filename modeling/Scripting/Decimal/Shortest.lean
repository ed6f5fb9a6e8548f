import Scripting.Decimal.Binary

namespace Scripting.Decimal

/-!
# Shortest decimal digits

The fewest digits that read back as a given binary number, and among those the ones nearest to
it.  The number of digits is tried from one upwards; on each grid of decimals only the two
neighbours of the number have to be looked at.
-/

/-- The decimal `digits * 10 ^ exponent`. -/
structure Digits where
  digits : Nat
  exponent : Int
  deriving Repr, DecidableEq

/-- The numbers that read back as a magnitude: `(low, high) / denominator` around
`value / denominator`, with the ends included or not. -/
structure ReadingInterval where
  value : Nat
  low : Nat
  high : Nat
  denominator : Nat
  closed : Bool
  deriving Repr, DecidableEq

namespace ReadingInterval

/-- The interval of a magnitude.  Its ends lie half way to the neighbours, and belong to it when
the mantissa is even. -/
def ofMagnitude (magnitude : Magnitude) : ReadingInterval :=
  let quarter := 4 * magnitude.mantissa
  let below := if magnitude.narrowBelow then quarter - 1 else quarter - 2
  let exponent := magnitude.exponent - 2
  let factor := Nat.pow 2 exponent.toNat
  { value := quarter * factor
    low := below * factor
    high := (quarter + 2) * factor
    denominator := Nat.pow 2 (-exponent).toNat
    closed := magnitude.mantissa % 2 = 0 }

/-- Compare `digits * 10 ^ exponent` with `numerator / denominator`. -/
def compareDecimal (digits : Nat) (exponent : Int) (numerator denominator : Nat) : Ordering :=
  compare (digits * Nat.pow 10 exponent.toNat * denominator)
    (numerator * Nat.pow 10 (-exponent).toNat)

/-- Whether a decimal lies in the interval. -/
def contains (interval : ReadingInterval) (decimal : Digits) : Bool :=
  let againstLow :=
    compareDecimal decimal.digits decimal.exponent interval.low interval.denominator
  let againstHigh :=
    compareDecimal decimal.digits decimal.exponent interval.high interval.denominator
  if interval.closed then
    againstLow != .lt && againstHigh != .gt
  else
    againstLow == .gt && againstHigh == .lt

/-- The exponent of the leading decimal digit of the value. -/
def leadingExponent (interval : ReadingInterval) : Int :=
  let guess : Int :=
    (Nat.toDigits 10 interval.value).length - (Nat.toDigits 10 interval.denominator).length
  if compareDecimal 1 guess interval.value interval.denominator == .gt then guess - 1 else guess

/-- The greatest multiple of `10 ^ exponent` that is at most the value. -/
def gridFloor (interval : ReadingInterval) (exponent : Int) : Nat :=
  interval.value * Nat.pow 10 (-exponent).toNat
    / (interval.denominator * Nat.pow 10 exponent.toNat)

/-- Of the two grid neighbours of the value, the lower is at least as near; a tie goes to the even
one. -/
def prefersLower (interval : ReadingInterval) (lower : Nat) (exponent : Int) : Bool :=
  match compareDecimal (2 * lower + 1) exponent (2 * interval.value) interval.denominator with
  | .gt => true
  | .lt => false
  | .eq => lower % 2 = 0

/-- The decimal of `count` digits nearest to the value, if one of `count` digits reads back. -/
def ofCount? (interval : ReadingInterval) (count : Nat) : Option Digits :=
  let exponent := interval.leadingExponent - (count - 1 : Nat)
  let lower := interval.gridFloor exponent
  let below : Digits := ⟨lower, exponent⟩
  let above : Digits := ⟨lower + 1, exponent⟩
  match interval.contains below, interval.contains above with
  | true, true => some (if interval.prefersLower lower exponent then below else above)
  | true, false => some below
  | false, true => some above
  | false, false => none

end ReadingInterval

/-- Without the zeros at the end. -/
def Digits.trimmed (decimal : Digits) : Digits :=
  let digits := (Nat.toDigits 10 decimal.digits).reverse
  let zeros := (digits.takeWhile (· = '0')).length
  ⟨decimal.digits / Nat.pow 10 zeros, decimal.exponent + zeros⟩

/-- The fewest digits that read back as a positive magnitude; 17 are enough for every format up to
64 bits. -/
def shortest (magnitude : Magnitude) : Digits :=
  let interval := ReadingInterval.ofMagnitude magnitude
  match (List.range 17).findSome? fun fewer => interval.ofCount? (fewer + 1) with
  | some decimal => decimal.trimmed
  | none => ⟨magnitude.mantissa, magnitude.exponent⟩

end Scripting.Decimal
