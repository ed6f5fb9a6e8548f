import Scripting.Position
import Scripting.Scope

namespace Scripting

/-!
# What a parser knows

The parser follows which variables are visible and which functions can be called.
-/

/-- How a variable was declared. -/
structure Binding where
  mutable : Bool
  position : Position
  deriving Repr, DecidableEq

/-- The variables that are visible at a place in a script. -/
abbrev Scope := ScopeChain Binding

namespace Binding

/-- A binding as it is shown in a scope. -/
def shown (name : String) (binding : Binding) : String :=
  (if binding.mutable then "var* " else "var ") ++ name

end Binding

/-- How a function can be called; without an arity its arguments are checked at each call. -/
structure Signature where
  arity : Option Nat
  builtin : Bool
  deriving Repr, DecidableEq

/-- The functions that can be called. -/
abbrev Signatures := Table Signature

/-- The variants of the grammar. -/
structure Grammar where
  /-- Operators bind with different strength, instead of all alike. -/
  tiered : Bool
  /-- A variable must be declared before it is assigned. -/
  strict : Bool
  deriving Repr, DecidableEq

/-- The names that are known before a script is parsed. -/
structure Declarations where
  scope : Scope
  functions : Signatures

end Scripting
