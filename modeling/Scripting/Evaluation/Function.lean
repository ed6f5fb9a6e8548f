import Scripting.Scope
import Scripting.Tree.Equality
import Scripting.Value.Iteration

namespace Scripting

/-!
# Functions

A script can call functions that it defines, the standard functions, and functions of its host.
-/

/-- A variable at run time. -/
structure Variable where
  value : Value
  mutable : Bool

namespace Variable

/-- A variable as it is shown in a scope. -/
def shown (name : String) (entry : Variable) : String :=
  name ++ "=" ++ entry.value.text

end Variable

/-- The variables that are visible while a script runs. -/
abbrev Variables := ScopeChain Variable

/-- A parameter of a built-in function; without kinds it takes every value. -/
structure Parameter where
  name : String
  kinds : List ValueKind
  deriving Repr, DecidableEq

namespace Parameter

/-- Whether a value can be passed. -/
def accepts (parameter : Parameter) (value : Value) : Bool :=
  parameter.kinds.isEmpty || parameter.kinds.contains value.kind

/-- What a parameter takes. -/
def kindText (parameter : Parameter) : String :=
  if parameter.kinds.isEmpty then
    "Any"
  else
    "|".intercalate (parameter.kinds.map ValueKind.text)

/-- The name of a parameter and what it takes. -/
def text (parameter : Parameter) : String :=
  parameter.name ++ " " ++ parameter.kindText

end Parameter

/-- What a function of the host comes to: a value, a failure to be named after the function, a
failure that already says all, or a crash of the host. -/
inductive HostResult where
  | value (result : Value)
  | failure (message : String)
  | fault (message : String)
  | crash (message : String)

/-- What a call of a function of the host comes to.  The host may remember earlier calls, so the
result may depend on how many calls of its functions there were before. -/
structure HostReply where
  result : (earlier : Nat) → HostResult

namespace HostReply

/-- The reply of a host that does not remember: the same result however many calls there were. -/
def always (result : HostResult) : HostReply :=
  ⟨fun _ => result⟩

/-- The reply with a value. -/
def value (result : Value) : HostReply :=
  always (.value result)

/-- The reply with a failure to be named after the function. -/
def failure (message : String) : HostReply :=
  always (.failure message)

/-- The reply with a failure that already says all. -/
def fault (message : String) : HostReply :=
  always (.fault message)

/-- The reply that is a crash of the host. -/
def crash (message : String) : HostReply :=
  always (.crash message)

end HostReply

/-- A function of the host.  It sees its arguments and what the host remembers, and nothing else. -/
structure HostFunction where
  name : String
  parameters : List Parameter
  behaviour : List Value → HostReply

/-- The standard functions. -/
inductive Standard where
  | print
  | nanoTime
  | currentMillis
  | runScript
  | typeOf
  | length
  deriving Repr, DecidableEq

namespace Standard

/-- Every standard function. -/
def all : List Standard :=
  [.print, .nanoTime, .currentMillis, .runScript, .typeOf, .length]

/-- The name of a standard function. -/
def name : Standard → String
  | .print => "print"
  | .nanoTime => "system_nanoTime"
  | .currentMillis => "system_currentMillis"
  | .runScript => "nerve_run"
  | .typeOf => "typeof"
  | .length => "len"

/-- The parameters of a standard function. -/
def parameters : Standard → List Parameter
  | .print | .typeOf | .length => [⟨"value", []⟩]
  | .nanoTime | .currentMillis => []
  | .runScript => [⟨"script", [.string]⟩]

/-- The standard function with a name. -/
def ofName? (name : String) : Option Standard :=
  all.find? fun function => function.name = name

end Standard

/-- A function that is not defined by a script. -/
inductive Builtin where
  | standard (function : Standard)
  | host (function : HostFunction)

namespace Builtin

/-- The name of a built-in function. -/
def name : Builtin → String
  | .standard function => function.name
  | .host function => function.name

/-- The parameters of a built-in function. -/
def parameters : Builtin → List Parameter
  | .standard function => function.parameters
  | .host function => function.parameters

end Builtin

/-- A function of a script.  The number of the script tells equal definitions of different scripts
apart. -/
structure UserFunction where
  origin : Nat
  declaration : FunctionDecl

namespace UserFunction

/-- The name of a function. -/
def name (function : UserFunction) : String :=
  function.declaration.name.text

/-- The names of the parameters. -/
def parameters (function : UserFunction) : List String :=
  function.declaration.parameters.map Identifier.text

/-- Where a function is defined. -/
def position (function : UserFunction) : Position :=
  function.declaration.position

/-- Whether two functions have their body in common: the same node of the same script. -/
def SharesBody (function other : UserFunction) : Prop :=
  function.origin = other.origin ∧ function.declaration.body = other.declaration.body

instance (function other : UserFunction) : Decidable (function.SharesBody other) :=
  inferInstanceAs (Decidable (_ ∧ _))

end UserFunction

/-- Whatever a script can call by name. -/
inductive Function where
  | user (function : UserFunction)
  | builtin (function : Builtin)

namespace Function

/-- The name of a function. -/
def name : Function → String
  | .user function => function.name
  | .builtin function => function.name

/-- The heading of a function. -/
def text : Function → String
  | .user function =>
      "fun " ++ function.name ++ "(" ++ ", ".intercalate function.parameters ++ ")"
  | .builtin function =>
      "builtin " ++ function.name ++ "("
        ++ ", ".intercalate (function.parameters.map Parameter.text) ++ ")"

end Function

/-- The functions that a script can call, by name. -/
abbrev FunctionTable := Table Function

/-- The table of the standard functions. -/
def standardFunctions : FunctionTable :=
  Standard.all.foldl
    (fun table function => table.insert function.name (.builtin (.standard function))) ∅

/-- A function of the host with the name of a standard function. -/
structure StandardNameTaken where
  name : String
  deriving Repr, DecidableEq

namespace StandardNameTaken

/-- The wording of the error. -/
def message (error : StandardNameTaken) : String :=
  "cannot overwrite standard function " ++ error.name

end StandardNameTaken

namespace FunctionTable

/-- Add a function of the host, in place of one with its name that is not standard. -/
def register (table : FunctionTable) (function : HostFunction) :
    Except StandardNameTaken FunctionTable :=
  match Standard.ofName? function.name with
  | some _ => .error ⟨function.name⟩
  | none => .ok (table.insert function.name (.builtin (.host function)))

/-- Add functions of the host in order. -/
def registerAll (table : FunctionTable) :
    List HostFunction → Except StandardNameTaken FunctionTable
  | [] => .ok table
  | function :: rest => do
      let table ← register table function
      registerAll table rest

end FunctionTable

end Scripting
