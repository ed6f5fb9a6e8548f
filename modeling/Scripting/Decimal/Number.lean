import Scripting.Decimal.Binary

namespace Scripting.Decimal

/-!
# Decimal numbers

A decimal number is a sign, a whole number of digits and a power of ten.  It is read from text
and rounded to the nearest number of a binary format.
-/

/-- The number `digits * 10 ^ exponent` with a sign, which zero has too. -/
structure Number where
  negative : Bool
  digits : Nat
  exponent : Int
  deriving Repr, DecidableEq

/-- The value of a sequence of decimal digits. -/
def digitsValue (digits : List Char) : Nat :=
  digits.foldl (fun value digit => 10 * value + (digit.toNat - '0'.toNat)) 0

/-- A sign and what follows it. -/
def splitSign : List Char → Bool × List Char
  | '-' :: rest => (true, rest)
  | '+' :: rest => (false, rest)
  | rest => (false, rest)

/-- A whole number: an optional sign and at least one digit. -/
def whole? (text : List Char) : Option Int :=
  let (negative, digits) := splitSign text
  if digits.isEmpty || !digits.all Char.isDigit then
    none
  else if negative then
    some (-(digitsValue digits : Int))
  else
    some (digitsValue digits)

namespace Number

/-- The exponent part of a number: nothing, or a mark and a whole number. -/
def exponentPart? : List Char → Option Int
  | [] => some 0
  | mark :: rest => if mark = 'e' || mark = 'E' then whole? rest else none

/-- Read digits with at most one point and an optional exponent. -/
def read? (text : List Char) : Option Number :=
  let (negative, body) := splitSign text
  let before := body.takeWhile Char.isDigit
  let afterDigits := body.dropWhile Char.isDigit
  let (fraction, rest) :=
    match afterDigits with
    | '.' :: tail => (tail.takeWhile Char.isDigit, tail.dropWhile Char.isDigit)
    | _ => ([], afterDigits)
  if before.isEmpty && fraction.isEmpty then
    none
  else
    (exponentPart? rest).map fun exponent =>
      { negative
        digits := digitsValue (before ++ fraction)
        exponent := exponent - fraction.length }

/-- The magnitude bits of the nearest number of a binary format.  Numbers far outside the range
of every format are cut off before the power of ten is formed. -/
def magnitudeBits (number : Number) (format : BinaryFormat) : Nat :=
  let length : Int := (Nat.toDigits 10 number.digits).length
  if number.digits = 0 || number.exponent + length < -400 then
    0
  else if 400 < number.exponent + length then
    format.infinityBits
  else if 0 ≤ number.exponent then
    format.round (number.digits * Nat.pow 10 number.exponent.toNat) 1
  else
    format.round number.digits (Nat.pow 10 (-number.exponent).toNat)

/-- The nearest 64-bit number, unless that is infinite. -/
def toFloat? (number : Number) : Option Float :=
  let bits := number.magnitudeBits .double
  if bits = BinaryFormat.double.infinityBits then
    none
  else
    some (Float.ofBits (BinaryFormat.double.withSign number.negative bits).toUInt64)

/-- The nearest 32-bit number, unless that is infinite. -/
def toFloat32? (number : Number) : Option Float32 :=
  let bits := number.magnitudeBits .single
  if bits = BinaryFormat.single.infinityBits then
    none
  else
    some (Float32.ofBits (BinaryFormat.single.withSign number.negative bits).toUInt32)

end Number

end Scripting.Decimal
