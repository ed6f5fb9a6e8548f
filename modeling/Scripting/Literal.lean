import Scripting.Decimal.Number

namespace Scripting

/-!
# Constants

A constant has one of six kinds.  Numbers are read from their digits: an optional sign, digits,
and at most one point.
-/

/-- The kinds of constants. -/
inductive LiteralKind where
  | integer
  | long
  | float
  | double
  | boolean
  | string
  deriving Repr, DecidableEq

namespace LiteralKind

/-- The name of a kind. -/
def text : LiteralKind → String
  | .integer => "Integer"
  | .long => "Long"
  | .float => "Float"
  | .double => "Double"
  | .boolean => "Boolean"
  | .string => "String"

/-- Every kind, in the order in which kinds are numbered. -/
def all : List LiteralKind :=
  [.integer, .long, .float, .double, .boolean, .string]

/-- The name of the kind with a number, also where there is none. -/
def numberText (number : Nat) : String :=
  match all[number]? with
  | some kind => kind.text
  | none => "LitKind(" ++ toString number ++ ")"

end LiteralKind

/-- A constant with its value. -/
inductive Literal where
  | integer (value : Int32)
  | long (value : Int64)
  | float (value : Float32)
  | double (value : Float)
  | boolean (value : Bool)
  | string (value : String)
  deriving DecidableEq

namespace Literal

/-- The kind of a constant. -/
def kind : Literal → LiteralKind
  | .integer _ => .integer
  | .long _ => .long
  | .float _ => .float
  | .double _ => .double
  | .boolean _ => .boolean
  | .string _ => .string

end Literal

/-- Why digits are not a number of the wanted kind. -/
inductive NumberFault where
  | outOfRange
  | malformed
  deriving Repr, DecidableEq

/-- The kinds of numbers. -/
inductive NumberKind where
  | integer
  | long
  | float
  | double
  deriving Repr, DecidableEq

namespace NumberKind

/-- The kind of the constants that a number kind reads. -/
def literalKind : NumberKind → LiteralKind
  | .integer => .integer
  | .long => .long
  | .float => .float
  | .double => .double

/-- The kind that a letter after the digits asks for. -/
def ofSuffix? : Char → Option NumberKind
  | 'L' => some .long
  | 'f' => some .float
  | 'd' => some .double
  | _ => none

/-- Why a text that is no whole number is not one: its digits are read up to the first other
character, unless they leave the range of numbers without a sign before that. -/
def brokenWhole (high : Int) (text : List Char) : NumberFault :=
  let digits := (Decimal.splitSign text).2.takeWhile Char.isDigit
  if 2 * high + 1 < Decimal.digitsValue digits then .outOfRange else .malformed

/-- A whole number in a closed interval. -/
def readWhole (low high : Int) (digits : List Char) : Except NumberFault Int :=
  match Decimal.whole? digits with
  | none => .error (brokenWhole high digits)
  | some number =>
      if low ≤ number && number ≤ high then .ok number else .error .outOfRange

/-- The constant that digits denote. -/
def read (kind : NumberKind) (digits : List Char) : Except NumberFault Literal :=
  match kind with
  | .integer =>
      (readWhole Int32.minValue.toInt Int32.maxValue.toInt digits).map fun number =>
        .integer (Int32.ofInt number)
  | .long =>
      (readWhole Int64.minValue.toInt Int64.maxValue.toInt digits).map fun number =>
        .long (Int64.ofInt number)
  | .float =>
      match Decimal.Number.read? digits with
      | none => .error .malformed
      | some number =>
          match number.toFloat32? with
          | some value => .ok (.float value)
          | none => .error .outOfRange
  | .double =>
      match Decimal.Number.read? digits with
      | none => .error .malformed
      | some number =>
          match number.toFloat? with
          | some value => .ok (.double value)
          | none => .error .outOfRange

end NumberKind

end Scripting
