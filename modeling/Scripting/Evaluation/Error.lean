import Scripting.Evaluation.Cancellation
import Scripting.Evaluation.Function
import Scripting.Value.Operation

namespace Scripting

/-!
# Errors of running a script

A run fails at a position for a cause.  An error that escapes from the body of a function is
wrapped with the function and the position of its call, so that the wrappers show the calls that
were active.
-/

/-- Why a variable cannot be assigned. -/
inductive AssignFault where
  | undefined (name : String)
  | immutable (name : String)
  deriving Repr, DecidableEq

namespace AssignFault

/-- The wording of a fault. -/
def message : AssignFault → String
  | .undefined name => "variable " ++ name ++ " is not defined"
  | .immutable name => "variable " ++ name ++ " is immutable"

end AssignFault

/-- Assign to the nearest variable of a name. -/
def assignVariable (scopes : Variables) (name : String) (value : Value) :
    Except AssignFault Variables :=
  match scopes.find? name with
  | none => .error (.undefined name)
  | some entry =>
      if entry.mutable then
        .ok (scopes.replace name { entry with value })
      else
        .error (.immutable name)

/-- Why a built-in function fails. -/
inductive BuiltinFault where
  | value (fault : ValueFault)
  | host (message : String)
  | setup (error : StandardNameTaken)

namespace BuiltinFault

/-- The wording of a fault. -/
def message : BuiltinFault → String
  | .value fault => fault.message
  | .host text => text
  | .setup error => error.message

end BuiltinFault

/-- Why a run fails. -/
inductive EvalFault where
  | undefinedVariable (name : String)
  | assignment (fault : AssignFault)
  | undefinedFunction (name : String)
  | wrongArity (name : String) (expected actual : Nat)
  | argumentCount (name : String) (expected actual : Nat)
  | argumentKind (name : String) (number : Nat) (parameter : Parameter) (actual : Value)
  | operation (error : OperatorError)
  | condition (fault : ValueFault)
  | nullBound
  | bound (fault : ValueFault)
  | depthExceeded (name : String) (limit : Nat)
  | interrupted
  | timedOut
  | builtin (name : String) (fault : BuiltinFault)
  | builtinRedefined (name : String)
  | functionRedefined (name : String) (previous : Position)
  | crash (message : String)

namespace EvalFault

/-- The failure of a run that finds its context done. -/
def ofContext : ContextError → EvalFault
  | .canceled => .interrupted
  | .deadlineExceeded => .timedOut

/-- The wording of a fault, together with its own cause. -/
def message : EvalFault → String
  | .undefinedVariable name => "variable " ++ name ++ " is not defined"
  | .assignment fault => fault.message
  | .undefinedFunction name => "function " ++ name ++ " is not defined"
  | .wrongArity name expected actual =>
      "function " ++ name ++ " expects " ++ toString expected ++ " arguments, got "
        ++ toString actual
  | .argumentCount name expected actual =>
      name ++ " expects " ++ toString expected
        ++ (if expected = 1 then " argument" else " arguments") ++ ", got " ++ toString actual
  | .argumentKind name number parameter actual =>
      "argument " ++ toString number ++ " of " ++ name ++ " must be " ++ parameter.kindText
        ++ ", got " ++ actual.described
  | .operation error => "invalid operation: " ++ error.message
  | .condition fault => "invalid condition: " ++ fault.message
  | .nullBound => "for loop bound is null"
  | .bound fault => "invalid for loop bound: " ++ fault.message
  | .depthExceeded name limit =>
      "calling " ++ name ++ ": maximum call depth exceeded (" ++ toString limit ++ ")"
  | .interrupted => "interrupted: " ++ ContextError.canceled.message
  | .timedOut => "interrupted: " ++ ContextError.deadlineExceeded.message
  | .builtin name fault => name ++ ": " ++ fault.message
  | .builtinRedefined name => "cannot redefine built-in function " ++ name
  | .functionRedefined name previous =>
      "function " ++ name ++ " is already defined at " ++ previous.text
  | .crash text => "internal error: " ++ text

end EvalFault

/-- An error of a run. -/
inductive EvalError where
  | failed (position : Position) (fault : EvalFault)
  | host (text : String)
  | inFunction (position : Position) (name : String) (cause : EvalError)

namespace EvalError

/-- A text after a position, if that is a place. -/
def located (position : Position) (text : String) : String :=
  if position.isValid then position.text ++ ": " ++ text else text

/-- The wording of an error. -/
def message : EvalError → String
  | .failed position fault => located position fault.message
  | .host text => text
  | .inFunction position name cause =>
      located position ("in function " ++ name) ++ ": " ++ cause.message

/-- Whether the run failed because calls were nested too deeply. -/
def exceedsDepth : EvalError → Bool
  | .failed _ (.depthExceeded ..) => true
  | .failed .. => false
  | .host _ => false
  | .inFunction _ _ cause => cause.exceedsDepth

end EvalError

end Scripting
