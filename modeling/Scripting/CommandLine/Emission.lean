import Scripting.Session.Run

namespace Scripting

/-!
# What a command writes

A command writes to its output, complains, and leaves log records, in an order.
-/

/-- One piece of what a command writes. -/
inductive Emission where
  | output (text : String)
  | complaint (text : String)
  | record (entry : LogRecord)
  deriving Repr, DecidableEq

namespace Emission

/-- A line of output. -/
def outputLine (line : String) : Emission :=
  .output (line ++ "\n")

/-- The complaint about an error. -/
def ofError (message : String) : Emission :=
  .complaint ("error: " ++ message ++ "\n")

/-- The text that an emission adds to the output. -/
def outputText : Emission → String
  | .output text => text
  | _ => ""

/-- The text that an emission adds to the complaints and records, with what stands for a
duration. -/
def errorText (duration : String) : Emission → String
  | .output _ => ""
  | .complaint text => text
  | .record entry => entry.line duration ++ "\n"

end Emission

namespace Ending

/-- The wording of an ending that is a failure. -/
def message? : Ending → Option String
  | .finished => none
  | .failed error => some error.message
  | .outOfFuel => some "the run takes too long"

/-- Whether the script ended too early to be run. -/
def endsEarly : Ending → Bool
  | .failed error => error.endsEarly
  | _ => false

end Ending

namespace Execution

/-- What an execution writes, without how it ends. -/
def emissions (done : Execution) : List Emission :=
  done.output.map Emission.outputLine ++ done.log.map Emission.record

end Execution

/-- What a command leads to. -/
structure Transcript where
  code : Nat
  emissions : List Emission
  /-- What has been entered, if the command is interactive. -/
  history : Option (List String)
  /-- How often a script has looked whether it is cancelled. -/
  looks : Nat
  deriving Repr, DecidableEq

namespace Transcript

/-- The end of a command that is not interactive. -/
def finished (code : Nat) (emissions : List Emission) : Transcript :=
  ⟨code, emissions, none, 0⟩

/-- The end of a command that has run a script. -/
def ofExecution (done : Execution) : Transcript :=
  match done.ending.message? with
  | none => ⟨0, done.emissions, none, done.looks⟩
  | some message => ⟨1, done.emissions ++ [.ofError message], none, done.looks⟩

/-- Everything that a command writes to its output. -/
def output (transcript : Transcript) : String :=
  String.join (transcript.emissions.map Emission.outputText)

/-- All complaints and records, with what stands for a duration. -/
def errors (duration : String) (transcript : Transcript) : String :=
  String.join (transcript.emissions.map (Emission.errorText duration))

end Transcript

end Scripting
