import Scripting.Literal
import Scripting.Position
import Scripting.Token.Kind

namespace Scripting

/-!
# Syntax trees

A file is a sequence of items: definitions of functions and types, which take effect before
anything runs, and statements.
-/

/-- A name and where it stands. -/
structure Identifier where
  text : String
  position : Position
  deriving Repr, DecidableEq

/-- An expression. -/
inductive Expr where
  | name (identifier : Identifier)
  | literal (text : String) (value : Literal) (place : Position)
  | null (place : Position)
  | template (parts : List Expr) (place : Position)
  | binary (operator : Operator) (left right : Expr)
  | call (function : Identifier) (arguments : List Expr)
  | list (elements : List Expr) (place : Position)
  | paren (inner : Expr) (place : Position)

/-- The position of the first token of an expression. -/
def Expr.position : Expr → Position
  | .name identifier => identifier.position
  | .literal _ _ place => place
  | .null place => place
  | .template _ place => place
  | .binary _ left _ => left.position
  | .call function _ => function.position
  | .list _ place => place
  | .paren _ place => place

/-- A way to leave or to skip the rest of a loop body. -/
inductive LoopControl where
  | leave
  | next
  deriving Repr, DecidableEq

/-- The keyword of a loop control. -/
def LoopControl.keyword : LoopControl → Keyword
  | .leave => .breakWord
  | .next => .continueWord

mutual

/-- A statement. -/
inductive Stmt where
  | expr (value : Expr)
  | declare (mutable : Bool) (name : Identifier) (value : Expr) (place : Position)
  | assign (defines : Bool) (name : Identifier) (value : Expr)
  | choice (branches : List Branch) (place : Position)
  | forEach (key : Identifier) (bound : Expr) (body : Block) (place : Position)
  | whileLoop (condition : Expr) (body : Block) (place : Position)
  | return (value : Option Expr) (place : Position)
  | control (kind : LoopControl) (place : Position)

/-- A condition and what runs when it holds. -/
inductive Branch where
  | mk (condition : Expr) (body : Block) (place : Position)

/-- Statements between braces. -/
inductive Block where
  | mk (statements : List Stmt) (opened closed : Position)

end

namespace Block

/-- The statements of a block. -/
def statements : Block → List Stmt
  | .mk statements _ _ => statements

/-- The position of the opening brace. -/
def position : Block → Position
  | .mk _ opened _ => opened

/-- The position of the closing brace. -/
def closed : Block → Position
  | .mk _ _ closed => closed

end Block

namespace Branch

/-- The condition of a branch. -/
def condition : Branch → Expr
  | .mk condition _ _ => condition

/-- The body of a branch. -/
def body : Branch → Block
  | .mk _ body _ => body

/-- The position of the keyword of a branch. -/
def position : Branch → Position
  | .mk _ _ place => place

end Branch

/-- The position of the first token of a statement. -/
def Stmt.position : Stmt → Position
  | .expr value => value.position
  | .declare _ _ _ place => place
  | .assign _ name _ => name.position
  | .choice _ place => place
  | .forEach _ _ _ place => place
  | .whileLoop _ _ place => place
  | .return _ place => place
  | .control _ place => place

/-- The definition of a function. -/
structure FunctionDecl where
  name : Identifier
  parameters : List Identifier
  body : Block
  position : Position

/-- The definition of a type. -/
structure TypeDecl where
  name : Identifier
  position : Position
  deriving Repr, DecidableEq

/-- What can stand at the top level of a file. -/
inductive Item where
  | function (declaration : FunctionDecl)
  | type (declaration : TypeDecl)
  | statement (inner : Stmt)

namespace Item

/-- The position of the first token of an item. -/
def position : Item → Position
  | .function declaration => declaration.position
  | .type declaration => declaration.position
  | .statement inner => inner.position

/-- The function that an item defines. -/
def function? : Item → Option FunctionDecl
  | .function declaration => some declaration
  | _ => none

/-- The type that an item defines. -/
def type? : Item → Option TypeDecl
  | .type declaration => some declaration
  | _ => none

/-- The statement that an item is. -/
def statement? : Item → Option Stmt
  | .statement inner => some inner
  | _ => none

end Item

/-- A parsed script. -/
structure File where
  items : List Item
  position : Position

end Scripting
