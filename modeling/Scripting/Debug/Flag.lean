import Scripting.Text.Blank
import Scripting.Text.Quoted

namespace Scripting

/-!
# Debug flags

Each flag turns one category of diagnostics on.  Flags are named in lists with commas; case and
the separator between words do not matter.
-/

/-- A category of diagnostics. -/
inductive DebugFlag where
  | timing
  | stateChange
  | errors
  | tokens
  deriving Repr, DecidableEq

/-- A name that is no flag. -/
structure UnknownFlag where
  name : String
  deriving Repr, DecidableEq

namespace UnknownFlag

/-- The wording of the error. -/
def message (error : UnknownFlag) : String :=
  "unknown debug flag " ++ Text.quoted error.name

end UnknownFlag

namespace DebugFlag

/-- Every flag, in the order in which flags are numbered. -/
def all : List DebugFlag :=
  [.timing, .stateChange, .errors, .tokens]

/-- The name of a flag. -/
def text : DebugFlag → String
  | .timing => "timing"
  | .stateChange => "state_change"
  | .errors => "errors"
  | .tokens => "tokens"

/-- The name of the flag with a number, also where there is none. -/
def numberText (number : Nat) : String :=
  match all[number]? with
  | some flag => flag.text
  | none => "flag(" ++ toString number ++ ")"

/-- Lower case as far as ASCII letters come out of it: besides the ASCII capitals, the capital I
with a dot and the sign for degrees Kelvin. -/
def lower (character : Char) : Char :=
  match character with
  | '\u0130' => 'i'
  | '\u212A' => 'k'
  | _ => character.toLower

/-- A name without case, separators and the white space around it. -/
def normalized (name : String) : List Char :=
  ((Text.trim name).toList.map lower).filter fun character => character ≠ '_' && character ≠ '-'

/-- The flag with a name. -/
def ofText (name : String) : Except UnknownFlag DebugFlag :=
  match all.find? fun flag => normalized flag.text = normalized name with
  | some flag => .ok flag
  | none => .error ⟨name⟩

end DebugFlag

/-- A set of flags. -/
structure FlagSet where
  timing : Bool
  stateChange : Bool
  errors : Bool
  tokens : Bool
  deriving Repr, DecidableEq

namespace FlagSet

/-- No flag. -/
def empty : FlagSet := ⟨false, false, false, false⟩

/-- Every flag. -/
def full : FlagSet := ⟨true, true, true, true⟩

/-- Whether a flag is in the set. -/
def has (set : FlagSet) : DebugFlag → Bool
  | .timing => set.timing
  | .stateChange => set.stateChange
  | .errors => set.errors
  | .tokens => set.tokens

/-- The set with a flag added. -/
def insert (set : FlagSet) : DebugFlag → FlagSet
  | .timing => { set with timing := true }
  | .stateChange => { set with stateChange := true }
  | .errors => { set with errors := true }
  | .tokens => { set with tokens := true }

/-- The set of the flags of a list. -/
def ofList (flags : List DebugFlag) : FlagSet :=
  flags.foldl insert empty

/-- The flags of a set, in order. -/
def toList (set : FlagSet) : List DebugFlag :=
  DebugFlag.all.filter set.has

/-- The flags in either set. -/
def union (first second : FlagSet) : FlagSet :=
  ⟨first.timing || second.timing, first.stateChange || second.stateChange,
    first.errors || second.errors, first.tokens || second.tokens⟩

/-- Whether every flag of the second set is in the first. -/
def contains (first second : FlagSet) : Bool :=
  second.toList.all first.has

/-- Whether no flag is in the set. -/
def isEmpty (set : FlagSet) : Bool :=
  set.toList.isEmpty

/-- The set as a number: the flag with number `n` counts `2 ^ n`. -/
def bits (set : FlagSet) : Nat :=
  (if set.timing then 1 else 0) + (if set.stateChange then 2 else 0)
    + (if set.errors then 4 else 0) + (if set.tokens then 8 else 0)

/-- The names of the flags with commas between them. -/
def text (set : FlagSet) : String :=
  ",".intercalate (set.toList.map DebugFlag.text)

/-- Add the flag with a trimmed name: nothing for an empty one, every flag for `all`. -/
def insertNamed (set : FlagSet) (name : String) : Except UnknownFlag FlagSet :=
  if name = "" then .ok set
  else if name = "all" then .ok full
  else (DebugFlag.ofText name).map set.insert

/-- Add flags by their trimmed names, in order. -/
def insertAll (set : FlagSet) : List String → Except UnknownFlag FlagSet
  | [] => .ok set
  | name :: rest => do
      let set ← set.insertNamed name
      insertAll set rest

/-- The set of the flags named in a list with commas. -/
def parse (list : String) : Except UnknownFlag FlagSet :=
  insertAll empty ((list.splitOn ",").map Text.trim)

/-- Add the flags named in a list with commas. -/
def insertList (set : FlagSet) (list : String) : Except UnknownFlag FlagSet :=
  (parse list).map set.union

end FlagSet

end Scripting
