namespace Scripting

/-!
# String constants as they are written

The content of a string constant between double quotes, with the escapes that a script would use.
-/

/-- How a character of a string constant is written in a script. -/
def writtenChar (character : Char) : List Char :=
  match character with
  | '\n' => ['\\', 'n']
  | '\t' => ['\\', 't']
  | '\r' => ['\\', 'r']
  | '\x00' => ['\\', '0']
  | '\\' => ['\\', '\\']
  | '"' => ['\\', '"']
  | '{' => ['\\', '{']
  | '}' => ['\\', '}']
  | _ => [character]

/-- A string constant as it is written in a script. -/
def writtenString (content : String) : String :=
  String.ofList ('"' :: content.toList.flatMap writtenChar ++ ['"'])

end Scripting
