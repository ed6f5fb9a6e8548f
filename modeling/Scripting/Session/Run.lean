import Scripting.Evaluation.Eval

namespace Scripting

/-!
# Running scripts in a session

A run starts from the variables and functions of the session and leaves its own behind, also when
it fails.
-/

/-- Why a script does not run to its end. -/
inductive ScriptError where
  | reading (error : SyntaxError)
  | running (error : EvalError)

namespace ScriptError

/-- The wording of an error. -/
def message : ScriptError → String
  | .reading error => error.message
  | .running error => error.message

/-- Whether the script ended too early. -/
def endsEarly : ScriptError → Bool
  | .reading error => error.endsEarly
  | .running _ => false

end ScriptError

/-- How an execution ends. -/
inductive Ending where
  | finished
  | failed (error : ScriptError)
  | outOfFuel

/-- What an execution leads to. -/
structure Execution where
  session : Session
  output : List String
  log : List LogRecord
  /-- How often the run has looked whether it is cancelled. -/
  looks : Nat
  ending : Ending

/-- What bounds an execution from outside. -/
structure Limits where
  fuel : Nat
  cancellation : Cancellation
  clock : Clock

namespace Session

/-- What stays the same while the session runs a script. -/
def environment (session : Session) (limits : Limits) : Environment :=
  ⟨session.options, session.logger, limits.clock, limits.cancellation⟩

/-- The session after a run. -/
def after (session : Session) (state : State) : Session :=
  { session with
    global := state.scopes.outer
    functions := state.functions
    hostCalls := state.hostCalls }

/-- The end of an execution in a state. -/
def execution (session : Session) (state : State) (ending : Ending) : Execution :=
  ⟨session.after state, state.output.toList, state.log.toList, state.contextLooks, ending⟩

/-- Run a script, after what has been logged about it. -/
def runAfter (session : Session) (limits : Limits) (records : List LogRecord)
    (script : Script) : Execution :=
  match Evaluation.runFile limits.fuel (session.environment limits) script
      (.ofSession session records) with
  | .ok () state => session.execution state .finished
  | .fail (.error error) state => session.execution state (.failed (.running error))
  | .fail _ state => session.execution state .outOfFuel

/-- Run a script. -/
def run (session : Session) (limits : Limits) (script : Script) : Execution :=
  session.runAfter limits [] script

/-- Parse and run the text of a script with a name. -/
def exec (session : Session) (limits : Limits) (name text : String) : Execution :=
  match session.parse name text with
  | (records, .error error) => ⟨session, [], records, 0, .failed (.reading error)⟩
  | (records, .ok (script, session)) => session.runAfter limits records script

/-- Add a function of the host, of which the parser is not told. -/
def register (session : Session) (function : HostFunction) :
    Except StandardNameTaken Session :=
  (session.functions.register function).map fun functions => { session with functions }

/-- The names of the functions, in order. -/
def functionNames (session : Session) : List String :=
  session.functions.keys

end Session

end Scripting
