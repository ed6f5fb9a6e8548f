import Scripting.Session.Basic
import Scripting.Value.Host

namespace Scripting

/-!
# Settings

What a settings file says, before it is known to make sense, and the options that it leads to.
-/

/-- The settings of a file. -/
structure Settings where
  /-- Lists of debug flags. -/
  debug : List String
  numericTruth : Bool
  strictAssign : Bool
  /-- The name of the grammar for operators. -/
  precedence : String
  maxDepth : Int
  globals : Table HostValue

/-- Why settings make no sense. -/
inductive SettingsFault where
  | precedence (name : String)
  | negativeDepth (depth : Int)
  | flag (error : UnknownFlag)
  | global (name : String) (fault : HostFault)

namespace SettingsFault

/-- The wording of a fault. -/
def message : SettingsFault → String
  | .precedence name =>
      "precedence must be \"flat\" or \"tiered\", got " ++ Text.quoted name
  | .negativeDepth depth => "max_depth must not be negative, got " ++ toString depth
  | .flag error => error.message
  | .global name fault => "global " ++ name ++ ": " ++ fault.message

end SettingsFault

namespace Settings

/-- The name of the grammar in which operators are applied in the order in which they stand. -/
def flat : String := "flat"

/-- The name of the grammar in which some operators bind more tightly than others. -/
def tiered : String := "tiered"

/-- The settings that are used without a file. -/
def usual : Settings where
  debug := []
  numericTruth := false
  strictAssign := false
  precedence := flat
  maxDepth := Options.usualDepth
  globals := ∅

/-- Add the debug flags of several lists. -/
def addFlags (flags : FlagSet) : List String → Except SettingsFault FlagSet
  | [] => .ok flags
  | list :: rest =>
      match flags.insertList list with
      | .ok flags => addFlags flags rest
      | .error error => .error (.flag error)

/-- The debug flags. -/
def flags (settings : Settings) : Except SettingsFault FlagSet :=
  addFlags .empty settings.debug

/-- Add global variables with the values that those of a host become. -/
def addGlobals (table : Table Value) :
    List (String × HostValue) → Except SettingsFault (Table Value)
  | [] => .ok table
  | (name, value) :: rest =>
      match Value.ofHost value with
      | .ok value => addGlobals (table.insert name value) rest
      | .error fault => .error (.global name fault)

/-- The values of the global variables; the first fault in the order of their names counts. -/
def globalValues (settings : Settings) : Except SettingsFault (Table Value) :=
  addGlobals ∅ settings.globals.toList

/-- Check the name of the grammar, which may be missing. -/
def checkPrecedence (settings : Settings) : Except SettingsFault Unit :=
  if settings.precedence = "" || settings.precedence = flat || settings.precedence = tiered then
    .ok ()
  else
    .error (.precedence settings.precedence)

/-- Check the limit on nested calls. -/
def checkDepth (settings : Settings) : Except SettingsFault Unit :=
  if settings.maxDepth < 0 then .error (.negativeDepth settings.maxDepth) else .ok ()

/-- Check that settings make sense. -/
def validate (settings : Settings) : Except SettingsFault Unit := do
  settings.checkPrecedence
  settings.checkDepth
  let _ ← settings.flags
  let _ ← settings.globalValues
  .ok ()

/-- The debug flags and the options that settings lead to. -/
def options (settings : Settings) : Except SettingsFault (FlagSet × Options) := do
  let flags ← settings.flags
  let globals ← settings.globalValues
  .ok
    (flags,
      { tiered := settings.precedence = tiered
        strict := settings.strictAssign
        numericTruth := settings.numericTruth
        maxDepth := settings.maxDepth
        globals
        hostFunctions := [] })

end Settings

end Scripting
