import Scripting.Evaluation.Error
import Scripting.Session.Basic

namespace Scripting

/-!
# The state of a run

Everything that a statement can change, and the ways in which it can end.  Printed lines and log
records only ever grow.  A run ends early with an error, with a crash of the host, or because the
fuel that bounds it is used up; the state is kept in each case.
-/

/-- The clocks as a script sees them: what each reads at its n-th look. -/
structure Clock where
  nanoTime : Nat → Int64
  currentMillis : Nat → Int64

/-- What stays the same during a run. -/
structure Environment where
  options : Options
  logger : Option Logger
  clock : Clock
  cancellation : Cancellation

/-- What a run changes. -/
structure State where
  scopes : Variables
  functions : FunctionTable
  /-- The number of functions of scripts that are being called. -/
  depth : Nat
  output : Array String
  log : Array LogRecord
  clockLooks : Nat
  /-- How often the run has looked whether it is cancelled. -/
  contextLooks : Nat
  /-- How many calls of functions of the host there were in the session. -/
  hostCalls : Nat

namespace State

/-- The state in which a session starts to run a script. -/
def ofSession (session : Session) (records : List LogRecord) : State where
  scopes := .ofFrame session.global
  functions := session.functions
  depth := 0
  output := #[]
  log := records.toArray
  clockLooks := 0
  contextLooks := 0
  hostCalls := session.hostCalls

/-- Bind a variable in the innermost scope. -/
def define (state : State) (name : String) (value : Value) (mutable : Bool) : State :=
  { state with scopes := state.scopes.define name ⟨value, mutable⟩ }

/-- Print a line. -/
def print (state : State) (line : String) : State :=
  { state with output := state.output.push line }

/-- Look whether the run is cancelled. -/
def glance (state : State) : State :=
  { state with contextLooks := state.contextLooks + 1 }

/-- Call a function of the host. -/
def callHost (state : State) : State :=
  { state with hostCalls := state.hostCalls + 1 }

/-- Add records to the log. -/
def note (state : State) (records : List LogRecord) : State :=
  { state with log := state.log ++ records }

/-- Open a scope. -/
def enter (state : State) (comment : String) : State :=
  { state with scopes := state.scopes.push comment }

/-- Close the innermost scope. -/
def leave (state : State) : State :=
  { state with scopes := state.scopes.pop }

/-- The state in which the body of a function starts: only the global variables and the arguments
are visible. -/
def enterCall (state : State) (function : UserFunction) (arguments : List Value) : State :=
  let inside := state.scopes.outermost.push ("function " ++ function.name)
  { state with
    scopes :=
      (function.parameters.zip arguments).foldl
        (fun scopes (name, value) => scopes.define name ⟨value, false⟩) inside
    depth := state.depth + 1 }

/-- The state after a call: the variables of the caller are visible again. -/
def leaveCall (caller : State) (state : State) : State :=
  { state with
    scopes := { caller.scopes with outer := state.scopes.outer }
    depth := state.depth - 1 }

/-- The state in which a script starts that a script runs. -/
def enterScript (state : State) (session : Session) (records : List LogRecord) : State :=
  { state with
    scopes := .ofFrame session.global
    functions := session.functions
    depth := 0
    log := state.log ++ records }

/-- The state after a script that a script has run: only what it printed and logged is left, and how
often it has turned to the clocks, to the context and to the host. -/
def leaveScript (caller : State) (state : State) : State :=
  { caller with
    output := state.output
    log := state.log
    clockLooks := state.clockLooks
    contextLooks := state.contextLooks
    hostCalls := state.hostCalls }

end State

namespace Environment

/-- Whether a look at the context finds that the run is cancelled. -/
def cancelled (environment : Environment) (state : State) : Bool :=
  environment.cancellation.happened state.contextLooks state.output.size

end Environment

/-- Why a run stops early. -/
inductive Failure where
  | error (error : EvalError)
  | crash (message : String)
  | outOfFuel

namespace Failure

/-- The failure at a position for a cause. -/
def failedAt (position : Position) (fault : EvalFault) : Failure :=
  .error (.failed position fault)

end Failure

/-- How a step of a run ends. -/
inductive Outcome (Result : Type) where
  | ok (result : Result) (state : State)
  | fail (failure : Failure) (state : State)

namespace Outcome

/-- Continue with the result of a step, if it has one. -/
@[inline] def andThen (outcome : Outcome First) (next : First → State → Outcome Second) :
    Outcome Second :=
  match outcome with
  | .ok result state => next result state
  | .fail failure state => .fail failure state

/-- Change the state in which a step ends, however it ends. -/
@[inline] def afterwards (outcome : Outcome Result) (change : State → State) : Outcome Result :=
  match outcome with
  | .ok result state => .ok result (change state)
  | .fail failure state => .fail failure (change state)

end Outcome

/-- How a statement ends: all but `normal` pass over the statements after it, up to the loop or
the call that they are meant for. -/
inductive Signal where
  | normal
  | returned (value : Value)
  | broke
  | continued

end Scripting
