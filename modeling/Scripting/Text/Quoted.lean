import Scripting.Text.Printable

namespace Scripting.Text

/-!
# Quoted text

Text in quotes for messages and trees: the quote and the backslash are escaped, a printable
character stands for itself, and every other character has a short or a numeric escape.
-/

/-- The least number of lowercase hexadecimal digits, filled up with zeros to a width. -/
def hexDigits (width code : Nat) : List Char :=
  let digits := Nat.toDigits 16 code
  List.replicate (width - digits.length) '0' ++ digits

/-- How a character is written between two `quote`s. -/
def escape (quote character : Char) : List Char :=
  if character = quote || character = '\\' then
    ['\\', character]
  else if isPrintable character then
    [character]
  else
    match character.toNat with
    | 7 => ['\\', 'a']
    | 8 => ['\\', 'b']
    | 9 => ['\\', 't']
    | 10 => ['\\', 'n']
    | 11 => ['\\', 'v']
    | 12 => ['\\', 'f']
    | 13 => ['\\', 'r']
    | code =>
        if code < 0x80 then
          ['\\', 'x'] ++ hexDigits 2 code
        else if code < 0x10000 then
          ['\\', 'u'] ++ hexDigits 4 code
        else
          ['\\', 'U'] ++ hexDigits 8 code

/-- The characters of a text, each written as it stands between two `quote`s. -/
def escapeAll (quote : Char) (text : String) : List Char :=
  text.toList.flatMap (escape quote)

/-- A text between double quotes. -/
def quoted (text : String) : String :=
  String.ofList ('"' :: escapeAll '"' text ++ ['"'])

/-- A character between single quotes. -/
def quotedChar (character : Char) : String :=
  String.ofList ('\'' :: escape '\'' character ++ ['\''])

end Scripting.Text
