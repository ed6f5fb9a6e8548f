import Scripting.Position

namespace Scripting

/-!
# Reading characters

A `Source` stands between two characters of a text.  It can look at characters on both sides, step
over the next one and step back.  Its line and column follow from the characters behind it.
-/

/-- A place between the characters of a text; the nearest character comes first on both sides. -/
structure Source where
  file : String
  behind : List Char
  ahead : List Char
  line : UInt32
  column : UInt32
  deriving Repr, DecidableEq

namespace Source

/-- The start of a text. -/
def ofText (file : String) (text : List Char) : Source :=
  ⟨file, [], text, 1, 1⟩

/-- The position of the next character. -/
def position (source : Source) : Position :=
  ⟨source.file, source.line, source.column⟩

/-- Whether no character is left. -/
def atEnd (source : Source) : Bool :=
  source.ahead.isEmpty

/-- Step over a given next character. -/
def past (source : Source) (character : Char) (rest : List Char) : Source :=
  { source with
    behind := character :: source.behind
    ahead := rest
    line := if character = '\n' then source.line + 1 else source.line
    column := if character = '\n' then 1 else source.column + 1 }

/-- Take the next character, if there is one. -/
def consume? (source : Source) : Option (Char × Source) :=
  match source.ahead with
  | [] => none
  | character :: rest => some (character, source.past character rest)

/-- Step over the next character, if there is one. -/
def skip (source : Source) : Source :=
  match source.ahead with
  | [] => source
  | character :: rest => source.past character rest

/-- Step over a number of characters. -/
def advance : Nat → Source → Source
  | 0, source => source
  | count + 1, source => advance count source.skip

/-- The character at a distance from the next one; negative distances look behind. -/
def peek (source : Source) (distance : Int) : Option Char :=
  match distance with
  | .ofNat ahead => source.ahead[ahead]?
  | .negSucc behind => source.behind[behind]?

/-- The next character. -/
def next? (source : Source) : Option Char :=
  source.ahead.head?

/-- Step back over one character, if there is one.  The column of a line end is one more than the
number of characters since the line end before it. -/
def stepBack (source : Source) : Source :=
  match source.behind with
  | [] => source
  | character :: rest =>
      { source with
        behind := rest
        ahead := character :: source.ahead
        line := if character = '\n' then source.line - 1 else source.line
        column :=
          if character = '\n' then
            ((rest.takeWhile (· ≠ '\n')).length + 1).toUInt32
          else
            source.column - 1 }

/-- Step back over a number of characters. -/
def retreat : Nat → Source → Source
  | 0, source => source
  | count + 1, source => retreat count source.stepBack

/-- Step back over a number of characters, unless there are fewer. -/
def pushBack? (source : Source) (count : Int) : Option Source :=
  if source.behind.length < count then none else some (retreat count.toNat source)

/-- What is said when a step leaves the text. -/
def outOfBoundsMessage : String :=
  "character cursor out of bounds"

end Source

end Scripting
