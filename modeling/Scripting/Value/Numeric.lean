import Scripting.Value.Basic

namespace Scripting

/-!
# Numbers

Whole numbers compute in 64 bits and reals in double precision.  Two numbers of one narrow kind
give a result that is narrowed once at the end; a mix of kinds gives the wide kind.
-/

/-- Two numbers brought to a common form. -/
inductive NumberPair where
  | integral (wide : Bool) (left right : Int64)
  | floating (wide : Bool) (left right : Float)

namespace Value

/-- The whole number that a value is. -/
def integral? : Value → Option Int64
  | .integer value => some value.toInt64
  | .long value => some value
  | _ => none

/-- The real number that a number is; large whole numbers round to the nearest even. -/
def real? : Value → Option Float
  | .integer value => some value.toInt64.toFloat
  | .long value => some value.toFloat
  | .float value => some value.toFloat
  | .double value => some value
  | _ => none

/-- The common form of two numbers. -/
def numberPair? (left right : Value) : Option NumberPair :=
  match left.integral?, right.integral? with
  | some a, some b =>
      some (.integral (left.kind = .long || right.kind = .long) a b)
  | _, _ =>
      match left.real?, right.real? with
      | some a, some b =>
          some (.floating (!(left.kind = .float && right.kind = .float)) a b)
      | _, _ => none

/-- A whole result, narrowed to an Integer or kept as a Long. -/
def ofIntegral (wide : Bool) (number : Int64) : Value :=
  if wide then .long number else .integer number.toInt32

/-- A real result, narrowed to a Float or kept as a Double. -/
def ofFloating (wide : Bool) (number : Float) : Value :=
  if wide then .double number else .float number.toFloat32

/-- Whether a value holds as a condition.  Numbers do, if allowed, when they are not zero. -/
def truth (numeric : Bool) (value : Value) : Except ValueFault Bool :=
  match value with
  | .boolean condition => .ok condition
  | _ =>
      match numeric, value.real? with
      | true, some number => .ok (number != 0)
      | _, _ => .error (.notCondition value)

end Value

end Scripting
