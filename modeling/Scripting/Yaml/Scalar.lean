import Scripting.Decimal.Number

namespace Scripting.Yaml

/-!
# Scalars

A scalar is a text with or without quotes.  Without quotes its spelling decides what it stands
for: nothing, a truth value, a number or the text itself.
-/

/-- A scalar as it is written on a line. -/
structure Scalar where
  line : Nat
  quoted : Bool
  text : String
  deriving Repr, DecidableEq

/-- What a scalar stands for. -/
inductive Meaning where
  | nothing
  | boolean (value : Bool)
  | integer (value : Int)
  | float (value : Float)
  | text (value : String)

namespace Meaning

/-- The tag of what a scalar stands for. -/
def tag : Meaning → String
  | .nothing => "!!null"
  | .boolean _ => "!!bool"
  | .integer _ => "!!int"
  | .float _ => "!!float"
  | .text _ => "!!str"

end Meaning

/-- The value of a digit of a base. -/
def digitValue? (base : Nat) (digit : Char) : Option Nat :=
  let value :=
    if digit.isDigit then digit.toNat - '0'.toNat
    else if 'a' ≤ digit.toLower && digit.toLower ≤ 'f' then digit.toLower.toNat - 'a'.toNat + 10
    else base
  if value < base then some value else none

/-- The number with digits of a base, of which there is at least one. -/
def natural? (base : Nat) (digits : List Char) : Option Nat :=
  if digits.isEmpty then
    none
  else
    digits.foldlM (fun value digit => (digitValue? base digit).map (base * value + ·)) 0

/-- A number without a sign: hexadecimal, octal, binary or decimal by how it starts. -/
def magnitude? : List Char → Option Nat
  | ['0'] => some 0
  | '0' :: mark :: digits =>
      match mark.toLower with
      | 'x' => natural? 16 digits
      | 'o' => natural? 8 digits
      | 'b' => natural? 2 digits
      | _ => natural? 8 (mark :: digits)
  | digits => natural? 10 digits

/-- A whole number of 64 bits; only without a sign may it reach into the upper half of the
numbers that have none. -/
def integer? : List Char → Option Int
  | '-' :: digits =>
      (magnitude? digits).bind fun value =>
        if Int64.minValue.toInt ≤ -(value : Int) then some (-(value : Int)) else none
  | '+' :: digits =>
      (magnitude? digits).bind fun value =>
        if (value : Int) ≤ Int64.maxValue.toInt then some (value : Int) else none
  | digits =>
      (magnitude? digits).bind fun value =>
        if value < UInt64.size then some (value : Int) else none

/-- A decimal number that is not too large. -/
def float? (text : List Char) : Option Float :=
  (Decimal.Number.read? text).bind Decimal.Number.toFloat?

/-- The words that do not stand for themselves. -/
def word? : String → Option Meaning
  | "" | "~" | "null" | "Null" | "NULL" => some .nothing
  | "true" | "True" | "TRUE" => some (.boolean true)
  | "false" | "False" | "FALSE" => some (.boolean false)
  | ".nan" | ".NaN" | ".NAN" => some (.float (0 / 0))
  | ".inf" | ".Inf" | ".INF" | "+.inf" | "+.Inf" | "+.INF" => some (.float (1 / 0))
  | "-.inf" | "-.Inf" | "-.INF" => some (.float (-1 / 0))
  | _ => none

/-- The number that a text stands for, if it starts like one.  Underscores between digits do not
count. -/
def number? (text : List Char) : Option Meaning :=
  match text with
  | [] => none
  | first :: _ =>
      if first = '.' then
        (float? text).map .float
      else if first.isDigit || first = '+' || first = '-' then
        let plain := text.filter (· ≠ '_')
        ((integer? plain).map .integer).or ((float? plain).map .float)
      else
        none

namespace Scalar

/-- What a scalar stands for. -/
def meaning (scalar : Scalar) : Meaning :=
  if scalar.quoted then
    .text scalar.text
  else
    ((word? scalar.text).or (number? scalar.text.toList)).getD (.text scalar.text)

/-- Whether a scalar stands for nothing. -/
def isNothing (scalar : Scalar) : Bool :=
  match scalar.meaning with
  | .nothing => true
  | _ => false

/-- Whether a scalar stands for a text. -/
def isText (scalar : Scalar) : Bool :=
  match scalar.meaning with
  | .text _ => true
  | _ => false

end Scalar

end Scripting.Yaml
