import Scripting.Value.Basic

namespace Scripting

/-!
# Iteration

A loop visits the numbers of a range, the elements of a list or the characters of a string.
-/

/-- The elements that a loop has still to visit. -/
inductive Elements where
  | numbers (low high : Int64) (long : Bool)
  | values (remaining : List Value)

namespace Elements

/-- The next element and the ones after it. -/
def next? : Elements → Option (Value × Elements)
  | .numbers low high long =>
      if high < low then
        none
      else
        let element := if long then .long low else .integer low.toInt32
        some (element, if low = high then .values [] else .numbers (low + 1) high long)
  | .values [] => none
  | .values (first :: rest) => some (first, .values rest)

/-- The first elements, at most a given number of them. -/
def take : Nat → Elements → List Value
  | 0, _ => []
  | count + 1, elements =>
      match elements.next? with
      | none => []
      | some (first, rest) => first :: take count rest

end Elements

namespace Value

/-- What a loop over a value visits. -/
def elements : Value → Except ValueFault Elements
  | .range low high wide => .ok (.numbers low high wide)
  | .list members => .ok (.values members)
  | .string text => .ok (.values (text.toList.map fun character => .string character.toString))
  | value => .error (.notIterable value)

/-- The number of elements of a value, in 64 bits. -/
def length : Value → Except ValueFault Int64
  | .range low high _ => .ok (if high < low then 0 else high - low + 1)
  | .list members => .ok (Int64.ofNat members.length)
  | .string text => .ok (Int64.ofNat text.length)
  | value => .error (.noLength value)

end Value

end Scripting
