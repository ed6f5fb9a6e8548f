import Scripting.Decimal.Layout
import Scripting.Literal

namespace Scripting

/-!
# Values

The values that scripts compute with, and the text that printing and templates give them.
-/

/-- The kinds of values. -/
inductive ValueKind where
  | null
  | integer
  | long
  | float
  | double
  | boolean
  | string
  | list
  | range
  | type
  deriving Repr, DecidableEq

namespace ValueKind

/-- The name of a kind. -/
def text : ValueKind → String
  | .null => "Null"
  | .integer => "Integer"
  | .long => "Long"
  | .float => "Float"
  | .double => "Double"
  | .boolean => "Boolean"
  | .string => "String"
  | .list => "List"
  | .range => "Range"
  | .type => "Type"

/-- Every kind, in the order in which kinds are numbered. -/
def all : List ValueKind :=
  [.null, .integer, .long, .float, .double, .boolean, .string, .list, .range, .type]

/-- The kind with a name. -/
def ofText? (name : String) : Option ValueKind :=
  all.find? fun kind => kind.text = name

/-- Whether the values of a kind are numbers. -/
def isNumeric : ValueKind → Bool
  | .integer | .long | .float | .double => true
  | _ => false

/-- Whether the values of a kind are whole numbers. -/
def isIntegral : ValueKind → Bool
  | .integer | .long => true
  | _ => false

/-- The name of the kind with a number, also where there is none. -/
def numberText (number : Nat) : String :=
  match all[number]? with
  | some kind => kind.text
  | none => "Kind(" ++ toString number ++ ")"

end ValueKind

/-- A value.  A range holds both of its ends, and its elements are Longs or Integers. -/
inductive Value where
  | null
  | integer (value : Int32)
  | long (value : Int64)
  | float (value : Float32)
  | double (value : Float)
  | boolean (value : Bool)
  | string (value : String)
  | list (elements : List Value)
  | range (low high : Int64) (long : Bool)
  | type (name : String)
  deriving Inhabited

namespace Value

/-- The kind of a value. -/
def kind : Value → ValueKind
  | .null => .null
  | .integer _ => .integer
  | .long _ => .long
  | .float _ => .float
  | .double _ => .double
  | .boolean _ => .boolean
  | .string _ => .string
  | .list _ => .list
  | .range .. => .range
  | .type _ => .type

/-- Whether a value is null. -/
def isNull : Value → Bool
  | .null => true
  | _ => false

/-- The value of a constant. -/
def ofLiteral : Literal → Value
  | .integer value => .integer value
  | .long value => .long value
  | .float value => .float value
  | .double value => .double value
  | .boolean value => .boolean value
  | .string value => .string value

/-- The value of a whole number: an Integer if it fits, a Long otherwise. -/
def ofInt64 (number : Int64) : Value :=
  if Int32.minValue.toInt ≤ number.toInt && number.toInt ≤ Int32.maxValue.toInt then
    .integer number.toInt32
  else
    .long number

/-- Numbers are positional from a thousandth up to ten million, and always have a point. -/
def floatLayout : Decimal.FloatLayout where
  positionalFrom := -3
  positionalBelow := 7
  wholeSuffix := ".0"
  exponentMark := "E"
  exponentPlus := ""
  exponentWidth := 1
  nan := "NaN"
  infinity := "Infinity"
  negativeInfinity := "-Infinity"

mutual

/-- The text of a value. -/
def text : Value → String
  | .null => "null"
  | .integer value => toString value.toInt
  | .long value => toString value.toInt
  | .float value => floatLayout.writeFloat32 value
  | .double value => floatLayout.writeFloat value
  | .boolean value => if value then "true" else "false"
  | .string value => value
  | .list elements => "[" ++ ", ".intercalate (textAll elements) ++ "]"
  | .range low high _ => toString low.toInt ++ "..." ++ toString high.toInt
  | .type name => name

/-- The texts of values. -/
def textAll : List Value → List String
  | [] => []
  | value :: rest => value.text :: textAll rest

end

/-- A value and its kind, as messages name them. -/
def described (value : Value) : String :=
  value.text ++ " (" ++ value.kind.text ++ ")"

end Value

/-- What a value cannot be used for. -/
inductive ValueFault where
  | notCondition (value : Value)
  | notIterable (value : Value)
  | noLength (value : Value)

namespace ValueFault

/-- The wording of a fault. -/
def message : ValueFault → String
  | .notCondition value => "condition " ++ value.described ++ " is not a Boolean"
  | .notIterable value => value.described ++ " is not iterable"
  | .noLength value => value.described ++ " has no length"

end ValueFault

end Scripting
