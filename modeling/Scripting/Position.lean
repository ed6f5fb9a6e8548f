namespace Scripting

/-!
# Positions in a script

A position names a script and a character in it by line and column.  Lines and columns count from
one, modulo the 32-bit word.
-/

/-- A place in the text of a script; the zero line marks the absence of a place. -/
structure Position where
  file : String
  line : UInt32
  column : UInt32
  deriving Repr, DecidableEq

namespace Position

/-- The position of nothing. -/
def none : Position := ⟨"", 0, 0⟩

/-- Whether the position names a place at all. -/
def isValid (position : Position) : Bool :=
  0 < position.line

/-- Line and column, after the script's name if it has one. -/
def text (position : Position) : String :=
  let place := toString position.line.toNat ++ ":" ++ toString position.column.toNat
  if position.file = "" then place else position.file ++ ":" ++ place

end Position

end Scripting
