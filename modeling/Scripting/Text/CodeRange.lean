namespace Scripting.Text

/-!
# Sets of code points

A character class is given by the closed ranges of code points that it holds.
-/

/-- A closed range of code points. -/
structure CodeRange where
  low : Nat
  high : Nat
  deriving Repr, DecidableEq

namespace CodeRange

/-- Whether a code point lies in the range. -/
def contains (range : CodeRange) (code : Nat) : Bool :=
  range.low ≤ code && code ≤ range.high

end CodeRange

/-- Whether a character lies in one of the ranges. -/
def inRanges (ranges : Array CodeRange) (character : Char) : Bool :=
  ranges.any fun range => range.contains character.toNat

end Scripting.Text
