import Scripting.Tree.Basic

namespace Scripting

/-!
# The calls of a script

The calls of a tree in the order in which they are complete: the calls in the arguments of a call
come before it, and otherwise calls come in source order.
-/

/-- A call: the function and the number of arguments. -/
structure CallSite where
  function : Identifier
  argumentCount : Nat
  deriving Repr, DecidableEq

mutual

/-- The calls of an expression. -/
def Expr.calls : Expr → List CallSite
  | .name _ => []
  | .literal .. => []
  | .null _ => []
  | .template parts _ => Expr.callsAll parts
  | .binary _ left right => left.calls ++ right.calls
  | .call function arguments => Expr.callsAll arguments ++ [⟨function, arguments.length⟩]
  | .list elements _ => Expr.callsAll elements
  | .paren inner _ => inner.calls

/-- The calls of expressions. -/
def Expr.callsAll : List Expr → List CallSite
  | [] => []
  | first :: rest => first.calls ++ Expr.callsAll rest

end

mutual

/-- The calls of a statement. -/
def Stmt.calls : Stmt → List CallSite
  | .expr value => value.calls
  | .declare _ _ value _ => value.calls
  | .assign _ _ value => value.calls
  | .choice branches _ => Branch.callsAll branches
  | .forEach _ bound body _ => bound.calls ++ body.calls
  | .whileLoop condition body _ => condition.calls ++ body.calls
  | .return value _ =>
      match value with
      | some result => result.calls
      | none => []
  | .control .. => []

/-- The calls of statements. -/
def Stmt.callsAll : List Stmt → List CallSite
  | [] => []
  | first :: rest => first.calls ++ Stmt.callsAll rest

/-- The calls of a branch. -/
def Branch.calls : Branch → List CallSite
  | .mk condition body _ => condition.calls ++ body.calls

/-- The calls of branches. -/
def Branch.callsAll : List Branch → List CallSite
  | [] => []
  | first :: rest => first.calls ++ Branch.callsAll rest

/-- The calls of a block. -/
def Block.calls : Block → List CallSite
  | .mk statements _ _ => Stmt.callsAll statements

end

/-- The calls of an item. -/
def Item.calls : Item → List CallSite
  | .function declaration => declaration.body.calls
  | .type _ => []
  | .statement inner => inner.calls

/-- The calls of a file. -/
def File.calls (file : File) : List CallSite :=
  file.items.flatMap Item.calls

end Scripting
