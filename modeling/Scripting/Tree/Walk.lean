import Scripting.Tree.Basic

namespace Scripting

/-!
# Walking trees

The nodes of a tree in source order, each before the nodes inside it.  The walk can leave out the
inside of chosen nodes.
-/

/-- A node of a tree. -/
inductive Node where
  | file (whole : File)
  | function (declaration : FunctionDecl)
  | type (declaration : TypeDecl)
  | statement (inner : Stmt)
  | branch (inner : Branch)
  | block (inner : Block)
  | expr (inner : Expr)

/-- The name of the type of an expression. -/
def Expr.label : Expr → String
  | .name _ => "Name"
  | .literal .. => "BasicLit"
  | .null _ => "NullLit"
  | .template .. => "TemplateLit"
  | .binary .. => "BinaryOp"
  | .call .. => "CallExpr"
  | .list .. => "ListLit"
  | .paren .. => "ParenExpr"

/-- The name of the type of a statement. -/
def Stmt.label : Stmt → String
  | .expr _ => "ExprStmt"
  | .declare .. => "VarDecl"
  | .assign .. => "AssignStmt"
  | .choice .. => "IfStmt"
  | .forEach .. => "ForStmt"
  | .whileLoop .. => "WhileStmt"
  | .return .. => "ReturnStmt"
  | .control .. => "BranchStmt"

namespace Node

/-- The name of the type of a node. -/
def label : Node → String
  | .file _ => "File"
  | .function _ => "FuncDecl"
  | .type _ => "TypeDecl"
  | .statement inner => inner.label
  | .branch _ => "Branch"
  | .block _ => "BlockStmt"
  | .expr inner => inner.label

/-- The position of a node. -/
def position : Node → Position
  | .file whole => whole.position
  | .function declaration => declaration.position
  | .type declaration => declaration.position
  | .statement inner => inner.position
  | .branch inner => inner.position
  | .block inner => inner.position
  | .expr inner => inner.position

/-- A node, and the nodes inside it if the walk goes there. -/
def visit (enters : Node → Bool) (node : Node) (inside : List Node) : List Node :=
  node :: if enters node then inside else []

end Node

/-- A name as a node. -/
def Identifier.node (identifier : Identifier) : Node :=
  .expr (.name identifier)

mutual

/-- The nodes of an expression. -/
def Expr.walk (enters : Node → Bool) : Expr → List Node
  | .name identifier => [.expr (.name identifier)]
  | .literal text value place => [.expr (.literal text value place)]
  | .null place => [.expr (.null place)]
  | .template parts place =>
      Node.visit enters (.expr (.template parts place)) (Expr.walkAll enters parts)
  | .binary operator left right =>
      Node.visit enters (.expr (.binary operator left right))
        (left.walk enters ++ right.walk enters)
  | .call function arguments =>
      Node.visit enters (.expr (.call function arguments))
        (function.node :: Expr.walkAll enters arguments)
  | .list elements place =>
      Node.visit enters (.expr (.list elements place)) (Expr.walkAll enters elements)
  | .paren inner place =>
      Node.visit enters (.expr (.paren inner place)) (inner.walk enters)

/-- The nodes of expressions. -/
def Expr.walkAll (enters : Node → Bool) : List Expr → List Node
  | [] => []
  | first :: rest => first.walk enters ++ Expr.walkAll enters rest

end

mutual

/-- The nodes of a statement. -/
def Stmt.walk (enters : Node → Bool) : Stmt → List Node
  | .expr value => Node.visit enters (.statement (.expr value)) (value.walk enters)
  | .declare mutable name value place =>
      Node.visit enters (.statement (.declare mutable name value place))
        (name.node :: value.walk enters)
  | .assign defines name value =>
      Node.visit enters (.statement (.assign defines name value))
        (name.node :: value.walk enters)
  | .choice branches place =>
      Node.visit enters (.statement (.choice branches place)) (Branch.walkAll enters branches)
  | .forEach key bound body place =>
      Node.visit enters (.statement (.forEach key bound body place))
        (key.node :: bound.walk enters ++ body.walk enters)
  | .whileLoop condition body place =>
      Node.visit enters (.statement (.whileLoop condition body place))
        (condition.walk enters ++ body.walk enters)
  | .return value place =>
      Node.visit enters (.statement (.return value place))
        (match value with
          | some result => result.walk enters
          | none => [])
  | .control kind place => [.statement (.control kind place)]

/-- The nodes of statements. -/
def Stmt.walkAll (enters : Node → Bool) : List Stmt → List Node
  | [] => []
  | first :: rest => first.walk enters ++ Stmt.walkAll enters rest

/-- The nodes of a branch. -/
def Branch.walk (enters : Node → Bool) : Branch → List Node
  | .mk condition body place =>
      Node.visit enters (.branch (.mk condition body place))
        (condition.walk enters ++ body.walk enters)

/-- The nodes of branches. -/
def Branch.walkAll (enters : Node → Bool) : List Branch → List Node
  | [] => []
  | first :: rest => first.walk enters ++ Branch.walkAll enters rest

/-- The nodes of a block. -/
def Block.walk (enters : Node → Bool) : Block → List Node
  | .mk statements opened closed =>
      Node.visit enters (.block (.mk statements opened closed)) (Stmt.walkAll enters statements)

end

/-- The nodes of an item. -/
def Item.walk (enters : Node → Bool) : Item → List Node
  | .function declaration =>
      Node.visit enters (.function declaration)
        (declaration.name.node :: declaration.parameters.map Identifier.node
          ++ declaration.body.walk enters)
  | .type declaration => Node.visit enters (.type declaration) [declaration.name.node]
  | .statement inner => inner.walk enters

/-- The nodes of a file. -/
def File.walk (enters : Node → Bool) (file : File) : List Node :=
  Node.visit enters (.file file) (file.items.flatMap (Item.walk enters))

end Scripting
