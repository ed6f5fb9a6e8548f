import Scripting.Decimal.Shortest

namespace Scripting.Decimal

/-!
# Layout of floating point text

The digits of a number are written positionally or with an exponent.  A `FloatLayout` says where
positional writing ends and how the other parts look.
-/

/-- How a floating point number is laid out. -/
structure FloatLayout where
  /-- The least exponent of the leading digit that is written positionally. -/
  positionalFrom : Int
  /-- The least exponent above it that is not. -/
  positionalBelow : Int
  /-- What follows a whole number or a one-digit mantissa. -/
  wholeSuffix : String
  /-- The mark before an exponent. -/
  exponentMark : String
  /-- The sign of an exponent that is not negative. -/
  exponentPlus : String
  /-- The least number of exponent digits. -/
  exponentWidth : Nat
  nan : String
  infinity : String
  negativeInfinity : String
  deriving Repr, DecidableEq

namespace FloatLayout

/-- The decimal digits of a number. -/
def digitChars (digits : Nat) : List Char :=
  Nat.toDigits 10 digits

/-- Digits with a point after the first `pointAfter` of them. -/
def positional (layout : FloatLayout) (digits : List Char) (pointAfter : Int) : String :=
  if pointAfter ≤ 0 then
    "0." ++ String.ofList (List.replicate (-pointAfter).toNat '0' ++ digits)
  else if digits.length ≤ pointAfter.toNat then
    String.ofList (digits ++ List.replicate (pointAfter.toNat - digits.length) '0')
      ++ layout.wholeSuffix
  else
    String.ofList (digits.take pointAfter.toNat) ++ "."
      ++ String.ofList (digits.drop pointAfter.toNat)

/-- The digits of an exponent, filled up with zeros. -/
def exponentDigits (layout : FloatLayout) (exponent : Nat) : String :=
  let digits := digitChars exponent
  String.ofList (List.replicate (layout.exponentWidth - digits.length) '0' ++ digits)

/-- Digits as a mantissa with one digit before the point, and an exponent. -/
def exponential (layout : FloatLayout) (digits : List Char) (exponent : Int) : String :=
  let sign := if exponent < 0 then "-" else layout.exponentPlus
  layout.positional digits 1 ++ layout.exponentMark ++ sign
    ++ layout.exponentDigits exponent.natAbs

/-- The text of a positive decimal. -/
def writeDigits (layout : FloatLayout) (decimal : Digits) : String :=
  let digits := digitChars decimal.digits
  let leading := decimal.exponent + digits.length - 1
  if layout.positionalFrom ≤ leading && leading < layout.positionalBelow then
    layout.positional digits (leading + 1)
  else
    layout.exponential digits leading

/-- The text of a number. -/
def write (layout : FloatLayout) : Decoded → String
  | .nan => layout.nan
  | .infinite negative => if negative then layout.negativeInfinity else layout.infinity
  | .finite negative magnitude =>
      let sign := if negative then "-" else ""
      if magnitude.mantissa = 0 then
        sign ++ "0" ++ layout.wholeSuffix
      else
        sign ++ layout.writeDigits (shortest magnitude)

/-- The text of a 64-bit number. -/
def writeFloat (layout : FloatLayout) (number : Float) : String :=
  layout.write (BinaryFormat.double.decode number.toBits.toNat)

/-- The text of a 32-bit number. -/
def writeFloat32 (layout : FloatLayout) (number : Float32) : String :=
  layout.write (BinaryFormat.single.decode number.toBits.toNat)

end FloatLayout

end Scripting.Decimal
