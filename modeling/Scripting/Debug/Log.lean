import Scripting.Debug.Flag
import Scripting.Text.Utf8

namespace Scripting

/-!
# Diagnostics

A logger lets messages through whose flags it has.  A record is written on one line of keys and
values; values with characters that would blur the line are quoted.
-/

/-- What a record says.  How long something took is measured by whoever writes the record. -/
inductive LogMessage where
  | text (content : String)
  | callTook (name : String)
  | runTook
  deriving Repr, DecidableEq

namespace LogMessage

/-- The wording of a message, with what stands for a duration. -/
def wording (duration : String) : LogMessage → String
  | .text content => content
  | .callTook name => name ++ " took " ++ duration
  | .runTook => "run took " ++ duration ++ " (total " ++ duration ++ ")"

end LogMessage

/-- A message with the names of the runs it comes from, outermost first, and its flags. -/
structure LogRecord where
  message : LogMessage
  runs : List String
  flags : FlagSet
  deriving Repr, DecidableEq

namespace LogRecord

/-- Whether a character makes a value need quotes. -/
def blurs (character : Char) : Bool :=
  if character.toNat < 128 then
    character.toNat < 32 || character = ' ' || character = '=' || character = '"'
  else
    character = Text.replacement || Text.isBlank character || !Text.isPrintable character

/-- A value, in quotes if it needs them. -/
def valueText (value : String) : String :=
  if value = "" || value.toList.any blurs then Text.quoted value else value

/-- The line of a record, with what stands for a duration. -/
def line (duration : String) (record : LogRecord) : String :=
  "level=DEBUG msg=" ++ valueText (record.message.wording duration)
    ++ String.join (record.runs.map fun run => " run=" ++ valueText run)
    ++ " flag=" ++ valueText record.flags.text

end LogRecord

/-- A source of records: the flags that are on and the names of its runs. -/
structure Logger where
  flags : FlagSet
  runs : List String
  deriving Repr, DecidableEq

namespace Logger

/-- A logger with flags. -/
def ofFlags (flags : FlagSet) : Logger :=
  ⟨flags, []⟩

/-- Whether messages with some flags pass: all of them have to be on, and some flag at all. -/
def enabled (logger : Logger) (flags : FlagSet) : Bool :=
  !logger.flags.isEmpty && logger.flags.contains flags

/-- The logger for a run inside its own. -/
def within (logger : Logger) (run : String) : Logger :=
  { logger with runs := logger.runs ++ [run] }

/-- The record of a message, if it passes. -/
def record? (logger : Logger) (flags : FlagSet) (message : LogMessage) : Option LogRecord :=
  if logger.enabled flags then some ⟨message, logger.runs, flags⟩ else none

end Logger

/-- The record of a message with one flag, if there is a logger and it passes. -/
def logged (logger : Option Logger) (flag : DebugFlag) (message : LogMessage) :
    List LogRecord :=
  (logger.bind fun logger => logger.record? (FlagSet.ofList [flag]) message).toList

end Scripting
