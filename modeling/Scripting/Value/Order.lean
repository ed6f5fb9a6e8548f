import Scripting.Value.Numeric

namespace Scripting.Value

/-!
# Equality and order

Numbers of different kinds are compared by value.  Other values of different kinds are never
equal, and only two numbers or two strings have an order.
-/

/-- The order of two double numbers; a number that is not a number is beside every other. -/
def compareFloats (left right : Float) : Ordering :=
  if left < right then .lt else if right < left then .gt else .eq

mutual

/-- Whether two values are equal.  Ranges are equal when their ends are. -/
def equals (left right : Value) : Bool :=
  match left, right with
  | .null, .null => true
  | .boolean a, .boolean b => a = b
  | .string a, .string b => a = b
  | .type a, .type b => a = b
  | .range lowLeft highLeft _, .range lowRight highRight _ =>
      lowLeft = lowRight && highLeft = highRight
  | .list elementsLeft, .list elementsRight => equalsAll elementsLeft elementsRight
  | _, _ =>
      match numberPair? left right with
      | some (.integral _ a b) => a = b
      | some (.floating _ a b) => a == b
      | none => false

/-- Whether two lists have the same length and equal elements. -/
def equalsAll (left right : List Value) : Bool :=
  match left, right with
  | [], [] => true
  | first :: rest, other :: others => equals first other && equalsAll rest others
  | _, _ => false

end

/-- The order of two numbers or two strings. -/
def compare? (left right : Value) : Option Ordering :=
  match numberPair? left right with
  | some (.integral _ a b) => some (compare a.toInt b.toInt)
  | some (.floating _ a b) => some (compareFloats a b)
  | none =>
      match left, right with
      | .string a, .string b => some (compare a b)
      | _, _ => none

end Scripting.Value
