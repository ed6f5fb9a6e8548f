import Scripting.Evaluation.State

namespace Scripting

/-!
# Built-in functions

The arguments of a built-in function are checked before it runs.  What a failure becomes depends
on its kind.
-/

namespace Builtin

/-- The first argument that a parameter does not take, counted from a number. -/
def firstMismatch? (number : Nat) :
    List Parameter → List Value → Option (Nat × Parameter × Value)
  | parameter :: parameters, argument :: rest =>
      if parameter.accepts argument then
        firstMismatch? (number + 1) parameters rest
      else
        some (number, parameter, argument)
  | _, _ => none

/-- What is wrong with the arguments of a call. -/
def argumentFault? (function : Builtin) (arguments : List Value) : Option EvalFault :=
  if arguments.length ≠ function.parameters.length then
    some (.argumentCount function.name function.parameters.length arguments.length)
  else
    (firstMismatch? 1 function.parameters arguments).map
      fun (number, parameter, argument) =>
        .argumentKind function.name number parameter argument

end Builtin

/-- The name of the type of a value; a type names itself. -/
def Value.typeName : Value → String
  | .type name => name
  | value => value.kind.text

/-- How a call of a function of the host ends for what the function comes to. -/
def HostResult.outcome (name : String) (took : List LogRecord) (position : Position)
    (state : State) : HostResult → Outcome Value
  | .value result => .ok result (state.note took)
  | .failure message =>
      .fail (.failedAt position (.builtin name (.host message))) (state.note took)
  | .fault message => .fail (.error (.host message)) (state.note took)
  | .crash message => .fail (.crash message) state

namespace HostFunction

/-- What the function comes to when it is called in a state. -/
def resultIn (function : HostFunction) (arguments : List Value) (state : State) : HostResult :=
  (function.behaviour arguments).result state.hostCalls

/-- Call a function of the host at a position. -/
def call (function : HostFunction) (took : List LogRecord) (position : Position)
    (arguments : List Value) (state : State) : Outcome Value :=
  (function.resultIn arguments state).outcome function.name took position state.callHost

end HostFunction

/-- The first argument of a function that takes one. -/
def onlyArgument (arguments : List Value) : Value :=
  arguments.headD .null

/-- Read a clock. -/
def State.look (state : State) (clock : Nat → Int64) : Outcome Value :=
  .ok (.long (clock state.clockLooks)) { state with clockLooks := state.clockLooks + 1 }

/-- The length of a value, as the function that gives it to scripts. -/
def lengthCall (position : Position) (argument : Value) (state : State) : Outcome Value :=
  match argument.length with
  | .ok length => .ok (.ofInt64 length) state
  | .error fault =>
      .fail (.failedAt position (.builtin Standard.length.name (.value fault))) state

end Scripting
