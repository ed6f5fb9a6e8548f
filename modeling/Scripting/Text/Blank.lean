import Scripting.Text.CodeRange

namespace Scripting.Text

/-!
# White space

The characters with the Unicode property `White_Space`, and trimming by it.
-/

/-- The white space outside ASCII. -/
def blankRanges : Array CodeRange :=
  #[
    ⟨0x85, 0x85⟩, ⟨0xA0, 0xA0⟩, ⟨0x1680, 0x1680⟩, ⟨0x2000, 0x200A⟩,
    ⟨0x2028, 0x2029⟩, ⟨0x202F, 0x202F⟩, ⟨0x205F, 0x205F⟩, ⟨0x3000, 0x3000⟩]

/-- Whether a character is white space. -/
def isBlank (character : Char) : Bool :=
  if character.toNat < 128 then
    character = ' ' || (9 ≤ character.toNat && character.toNat ≤ 13)
  else
    inRanges blankRanges character

/-- The text without the white space at its two ends. -/
def trim (text : String) : String :=
  let rest := text.toList.dropWhile isBlank
  String.ofList (rest.reverse.dropWhile isBlank).reverse

end Scripting.Text
