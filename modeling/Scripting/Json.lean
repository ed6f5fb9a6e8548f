namespace Scripting

/-!
# JSON text

JSON values and their indented text.  Members are written in the order of their names.  Characters
with a meaning in markup and the two line separators of Unicode are escaped.
-/

mutual

/-- A JSON value; a number is given by its text. -/
inductive Json where
  | boolean (value : Bool)
  | number (text : String)
  | string (value : String)
  | array (elements : List Json)
  | object (members : List JsonMember)

/-- A named member of an object. -/
inductive JsonMember where
  | mk (name : String) (value : Json)

end

namespace Json

/-- A hexadecimal escape of a character. -/
def numericEscape (character : Char) : List Char :=
  let digits := Nat.toDigits 16 character.toNat
  ['\\', 'u'] ++ List.replicate (4 - digits.length) '0' ++ digits

/-- How a character is written in a string. -/
def escape (character : Char) : List Char :=
  match character with
  | '"' => ['\\', '"']
  | '\\' => ['\\', '\\']
  | '\n' => ['\\', 'n']
  | '\r' => ['\\', 'r']
  | '\t' => ['\\', 't']
  | '\x08' => ['\\', 'b']
  | '\x0c' => ['\\', 'f']
  | '<' | '>' | '&' | '\u2028' | '\u2029' => numericEscape character
  | _ => if character.toNat < 32 then numericEscape character else [character]

/-- A string in quotes. -/
def quoted (text : String) : String :=
  String.ofList ('"' :: text.toList.flatMap escape ++ ['"'])

/-- A new line at a depth. -/
def lineBreak (depth : Nat) : String :=
  String.ofList ('\n' :: List.replicate (2 * depth) ' ')

/-- Elements between brackets, one on a line. -/
def bracketed (opening closing : String) (depth : Nat) (elements : List String) : String :=
  if elements.isEmpty then
    opening ++ closing
  else
    opening ++ ",".intercalate (elements.map (lineBreak (depth + 1) ++ ·)) ++ lineBreak depth
      ++ closing

mutual

/-- The text of a value whose first line stands at a depth. -/
def write (depth : Nat) : Json → String
  | .boolean value => if value then "true" else "false"
  | .number text => text
  | .string value => quoted value
  | .array elements => bracketed "[" "]" depth (writeAll (depth + 1) elements)
  | .object members =>
      let sorted :=
        (writeMembers (depth + 1) members).mergeSort fun first second => first.1 ≤ second.1
      bracketed "\x7b" "\x7d" depth
        (sorted.map fun entry => quoted entry.1 ++ ": " ++ entry.2)

/-- The texts of values. -/
def writeAll (depth : Nat) : List Json → List String
  | [] => []
  | first :: rest => write depth first :: writeAll depth rest

/-- The names of members and the texts of their values. -/
def writeMembers (depth : Nat) : List JsonMember → List (String × String)
  | [] => []
  | .mk name value :: rest => (name, write depth value) :: writeMembers depth rest

end

/-- A document: the text of a value and a final line break. -/
def document (value : Json) : String :=
  value.write 0 ++ "\n"

end Json

end Scripting
