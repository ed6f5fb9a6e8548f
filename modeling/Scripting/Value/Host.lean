import Scripting.Value.Basic

namespace Scripting

/-!
# Values of a host

What an embedding program hands to a script: numbers of several widths, text, lists and records.
-/

/-- The integer types of a host. -/
inductive HostInteger where
  | word
  | signed8
  | signed32
  | signed64
  | unsigned32
  | unsigned64
  deriving Repr, DecidableEq

/-- How the fields of a record are named: by texts only, or by values of any type. -/
inductive RecordKeys where
  | text
  | mixed
  deriving Repr, DecidableEq

mutual

/-- A value of a host. -/
inductive HostValue where
  | nothing
  | integer (width : HostInteger) (value : Int)
  | float32 (value : Float32)
  | float64 (value : Float)
  | boolean (value : Bool)
  | text (value : String)
  | list (elements : List HostValue)
  | record (keys : RecordKeys) (fields : List HostField)
  | value (inner : Value)

/-- A named field of a record. -/
inductive HostField where
  | mk (name : String) (value : HostValue)

end

namespace HostField

/-- The name of a field. -/
def name : HostField → String
  | .mk name _ => name

end HostField

namespace HostInteger

/-- The name of an integer type. -/
def typeName : HostInteger → String
  | .word => "int"
  | .signed8 => "int8"
  | .signed32 => "int32"
  | .signed64 => "int64"
  | .unsigned32 => "uint32"
  | .unsigned64 => "uint64"

end HostInteger

namespace HostValue

/-- The name of the type of a value. -/
def typeName : HostValue → String
  | .nothing => "<nil>"
  | .integer width _ => width.typeName
  | .float32 _ => "float32"
  | .float64 _ => "float64"
  | .boolean _ => "bool"
  | .text _ => "string"
  | .list _ => "[]interface \x7b\x7d"
  | .record .text _ => "map[string]interface \x7b\x7d"
  | .record .mixed _ => "map[interface \x7b\x7d]interface \x7b\x7d"
  | .value inner => inner.kind.text

/-- Numbers are positional from a ten-thousandth up to a million. -/
def floatLayout : Decimal.FloatLayout where
  positionalFrom := -4
  positionalBelow := 6
  wholeSuffix := ""
  exponentMark := "e"
  exponentPlus := "+"
  exponentWidth := 2
  nan := "NaN"
  infinity := "+Inf"
  negativeInfinity := "-Inf"

end HostValue

mutual

/-- How a value of a host is shown.  Fields named by texts are in the order of their names, all
others stay as they are. -/
def HostValue.shown : HostValue → String
  | .nothing => "<nil>"
  | .integer _ value => toString value
  | .float32 value => HostValue.floatLayout.writeFloat32 value
  | .float64 value => HostValue.floatLayout.writeFloat value
  | .boolean value => if value then "true" else "false"
  | .text value => value
  | .list elements => "[" ++ " ".intercalate (HostValue.shownAll elements) ++ "]"
  | .record keys fields =>
      let shown :=
        match keys with
        | .text => (HostField.shownAll fields).mergeSort fun first second => first.1 ≤ second.1
        | .mixed => HostField.shownAll fields
      "map[" ++ " ".intercalate (shown.map fun field => field.1 ++ ":" ++ field.2) ++ "]"
  | .value inner => inner.text

/-- How values of a host are shown. -/
def HostValue.shownAll : List HostValue → List String
  | [] => []
  | value :: rest => value.shown :: HostValue.shownAll rest

/-- The names of fields and how their values are shown. -/
def HostField.shownAll : List HostField → List (String × String)
  | [] => []
  | .mk name value :: rest => (name, value.shown) :: HostField.shownAll rest

end

/-- Why a value of a host is no value of a script. -/
inductive HostFault where
  | overflow (value : Int)
  | unsupported (value : HostValue)
  | element (index : Nat) (cause : HostFault)

namespace HostFault

/-- The wording of a fault. -/
def message : HostFault → String
  | .overflow value => "integer " ++ toString value ++ " overflows Long"
  | .unsupported value => "unsupported host value " ++ value.shown ++ " (" ++ value.typeName ++ ")"
  | .element index cause => "element " ++ toString index ++ ": " ++ cause.message

end HostFault

mutual

/-- The value of a script that a value of a host becomes. -/
def Value.ofHost : HostValue → Except HostFault Value
  | .nothing => .ok .null
  | .integer width number =>
      match width with
      | .word | .signed64 => .ok (.ofInt64 (Int64.ofInt number))
      | .signed32 => .ok (.integer (Int32.ofInt number))
      | .unsigned64 =>
          if number ≤ Int64.maxValue.toInt then .ok (.ofInt64 (Int64.ofInt number))
          else .error (.overflow number)
      | .signed8 | .unsigned32 => .error (.unsupported (.integer width number))
  | .float32 number => .ok (.float number)
  | .float64 number => .ok (.double number)
  | .boolean condition => .ok (.boolean condition)
  | .text content => .ok (.string content)
  | .list elements => (Value.ofHostList 0 elements).map .list
  | .record keys fields => .error (.unsupported (.record keys fields))
  | .value inner => .ok inner

/-- The values of the elements of a list, counted from an index. -/
def Value.ofHostList (index : Nat) : List HostValue → Except HostFault (List Value)
  | [] => .ok []
  | element :: rest =>
      match Value.ofHost element with
      | .error cause => .error (.element index cause)
      | .ok first => (Value.ofHostList (index + 1) rest).map (first :: ·)

end

end Scripting
