import Scripting.Scope
import Scripting.Text.Quoted
import Scripting.Text.Utf8
import Scripting.Value.Host
import Scripting.Yaml.Node

namespace Scripting.Yaml

/-!
# Typed values of nodes

What a node is as a truth value, a number, a text, a list or a table.  Every fault of a node is
reported, and a node that stands for nothing has no value.
-/

/-- What a node is wanted as. -/
inductive Target where
  | boolean
  | integer
  | text
  | texts
  | table
  | settings
  deriving Repr, DecidableEq

namespace Target

/-- The name of what a node is wanted as. -/
def name : Target → String
  | .boolean => "bool"
  | .integer => "int"
  | .text => "string"
  | .texts => "[]string"
  | .table => "map[string]interface \x7b\x7d"
  | .settings => "config.Config"

end Target

/-- Why a node is not what it is wanted as. -/
inductive DecodeFault where
  | mismatch (node : Node) (target : Target)
  | repeatedKey (key : String) (line firstLine : Nat)
  | unknownField (name : String) (line : Nat) (target : Target)

namespace DecodeFault

/-- A text of more than ten bytes is cut after seven of them. -/
def excerpt (text : String) : String :=
  let bytes := text.toUTF8.toList
  if 10 < bytes.length then String.ofList (Text.decode (bytes.take 7)) ++ "..." else text

/-- The text of a scalar in back quotes, and nothing for all other nodes. -/
def nodeText : Node → String
  | .scalar content => " \x60" ++ excerpt content.text ++ "\x60"
  | _ => ""

/-- The wording of a fault. -/
def message : DecodeFault → String
  | .mismatch node target =>
      "line " ++ toString node.line ++ ": cannot unmarshal " ++ node.tag ++ nodeText node
        ++ " into " ++ target.name
  | .repeatedKey key line firstLine =>
      "line " ++ toString line ++ ": mapping key " ++ Text.quoted key
        ++ " already defined at line " ++ toString firstLine
  | .unknownField name line target =>
      "line " ++ toString line ++ ": field " ++ name ++ " not found in type " ++ target.name

end DecodeFault

/-- The value of a node, if it has one, and all its faults. -/
structure Decoded (Result : Type) where
  faults : List DecodeFault
  value : Option Result

namespace Decoded

/-- A value without faults. -/
def found (result : Result) : Decoded Result := ⟨[], some result⟩

/-- Nothing, without faults. -/
def nothing : Decoded Result := ⟨[], none⟩

/-- Faults instead of a value. -/
def failed (faults : List DecodeFault) : Decoded Result := ⟨faults, none⟩

end Decoded

/-- Every later use of a key, for each of its uses. -/
def repeatedKeys : List Scalar → List DecodeFault
  | [] => []
  | key :: rest =>
      (rest.filter fun later => later.text = key.text).map
          (fun later => .repeatedKey later.text later.line key.line)
        ++ repeatedKeys rest

/-- What is wrong with the keys of a mapping. -/
def keyFaults (entries : List Entry) : List DecodeFault :=
  repeatedKeys (entries.map Entry.key)

namespace Node

/-- The faults of a node that is not what it is wanted as; a mapping with repeated keys is not
looked at further. -/
def clash (node : Node) (target : Target) : List DecodeFault :=
  match node with
  | .mapping _ entries =>
      if (keyFaults entries).isEmpty then [.mismatch node target] else keyFaults entries
  | _ => [.mismatch node target]

end Node

/-- The truth value that a word stands for where one is wanted. -/
def truthWord? : String → Option Bool
  | "y" | "Y" | "yes" | "on" => some true
  | "n" | "N" | "no" | "off" => some false
  | _ => none

/-- The whole number of 64 bits that a floating-point number is cut to: the least one stands for
all that are out of range. -/
def cutFloat (number : Float) : Int64 :=
  if -9223372036854775808.0 ≤ number && number < 9223372036854775808.0 then number.toInt64
  else Int64.minValue

namespace Node

/-- A node as a truth value. -/
def toBoolean (node : Node) : Decoded Bool :=
  match node with
  | .scalar content =>
      match content.meaning with
      | .nothing => .nothing
      | .boolean value => .found value
      | .text word =>
          match truthWord? word with
          | some value => .found value
          | none => .failed (node.clash .boolean)
      | _ => .failed (node.clash .boolean)
  | _ => .failed (node.clash .boolean)

/-- A node as a whole number of 64 bits. -/
def toInteger (node : Node) : Decoded Int :=
  match node with
  | .scalar content =>
      match content.meaning with
      | .nothing => .nothing
      | .integer value =>
          if value ≤ Int64.maxValue.toInt then .found value else .failed (node.clash .integer)
      | .float value =>
          if value ≤ 9223372036854775808.0 then .found (cutFloat value).toInt
          else .failed (node.clash .integer)
      | _ => .failed (node.clash .integer)
  | _ => .failed (node.clash .integer)

/-- A node as a text: a scalar as it is written. -/
def toText (node : Node) : Decoded String :=
  match node with
  | .scalar content => if content.isNothing then .nothing else .found content.text
  | _ => .failed (node.clash .text)

/-- A node as a list of texts, without the items that stand for nothing. -/
def toTexts (node : Node) : Decoded (List String) :=
  match node with
  | .sequence _ items =>
      let decoded := items.map toText
      ⟨decoded.flatMap Decoded.faults, some (decoded.filterMap Decoded.value)⟩
  | .scalar content => if content.isNothing then .nothing else .failed (node.clash .texts)
  | .mapping .. => .failed (node.clash .texts)

end Node

namespace Meaning

/-- What a scalar stands for, as a value of a host: a whole number that is too large for a signed
word is an unsigned one. -/
def toHost : Meaning → HostValue
  | .nothing => .nothing
  | .boolean value => .boolean value
  | .integer value =>
      if value ≤ Int64.maxValue.toInt then .integer .word value else .integer .unsigned64 value
  | .float value => .float64 value
  | .text value => .text value

/-- The place of the type of a key among the types. -/
def rank : Meaning → Nat
  | .nothing => 0
  | .boolean _ => 1
  | .integer _ => 2
  | .float _ => 3
  | .text _ => 4

/-- Whether a key comes before another one or is the same. -/
def precedes : Meaning → Meaning → Bool
  | .boolean first, .boolean second => !first || second
  | .integer first, .integer second => first ≤ second
  | .float first, .float second => first ≤ second
  | .text first, .text second => first ≤ second
  | first, second => first.rank ≤ second.rank

end Meaning

/-- The record with keys and values; keys that are no texts are put in order. -/
def recordOf (fields : List (Scalar × HostValue)) : HostValue :=
  if fields.all fun field => field.1.isText then
    .record .text (fields.map fun field => .mk field.1.text field.2)
  else
    let ordered := fields.mergeSort fun first second =>
      first.1.meaning.precedes second.1.meaning
    .record .mixed (ordered.map fun field => .mk field.1.meaning.toHost.shown field.2)

mutual

/-- A node as a value of a host. -/
def Node.toHost : Node → Decoded HostValue
  | .scalar content => .found content.meaning.toHost
  | .sequence _ items =>
      let decoded := Node.toHosts items
      ⟨decoded.1, some (.list decoded.2)⟩
  | .mapping _ entries =>
      if (keyFaults entries).isEmpty then
        let decoded := Entry.toFields entries
        ⟨decoded.1, some (recordOf decoded.2)⟩
      else
        .failed (keyFaults entries)

/-- The faults of nodes, and their values. -/
def Node.toHosts : List Node → List DecodeFault × List HostValue
  | [] => ([], [])
  | node :: rest =>
      let first := Node.toHost node
      let others := Node.toHosts rest
      (first.faults ++ others.1, first.value.toList ++ others.2)

/-- The faults of the entries of a mapping, and the values of their keys. -/
def Entry.toFields : List Entry → List DecodeFault × List (Scalar × HostValue)
  | [] => ([], [])
  | .mk key node :: rest =>
      let first := Node.toHost node
      let others := Entry.toFields rest
      (first.faults ++ others.1, (first.value.map fun value => (key, value)).toList ++ others.2)

end

namespace Node

/-- A node as a table of values of a host, without the keys that stand for nothing. -/
def toTable (node : Node) : Decoded (Table HostValue) :=
  match node with
  | .mapping _ entries =>
      if (keyFaults entries).isEmpty then
        let decoded := Entry.toFields (entries.filter fun entry => !entry.key.isNothing)
        ⟨decoded.1,
          some (decoded.2.foldl (fun table field => table.insert field.1.text field.2) ∅)⟩
      else
        .failed (keyFaults entries)
  | .scalar content => if content.isNothing then .nothing else .failed (node.clash .table)
  | .sequence .. => .failed (node.clash .table)

end Node

end Scripting.Yaml
