import Scripting.Tree.Text

namespace Scripting

/-!
# Trees as indented text

A tree is shown with one node on a line and its children indented below it.
-/

/-- A line with the lines that belong below it. -/
inductive Outline where
  | node (line : String) (below : List Outline)

namespace Outline

mutual

/-- The lines of an outline at a depth. -/
def lines (depth : Nat) : Outline → List String
  | .node line below =>
      (String.ofList (List.replicate (2 * depth) ' ') ++ line ++ "\n")
        :: linesAll (depth + 1) below

/-- The lines of outlines at a depth. -/
def linesAll (depth : Nat) : List Outline → List String
  | [] => []
  | first :: rest => lines depth first ++ linesAll depth rest

end

/-- The text of an outline. -/
def text (outline : Outline) : String :=
  String.join (outline.lines 0)

end Outline

mutual

/-- The outline of an expression. -/
def Expr.outline : Expr → Outline
  | .name identifier =>
      .node ("Name " ++ identifier.position.text ++ " " ++ Text.quoted identifier.text) []
  | .literal text value place =>
      .node ("BasicLit " ++ place.text ++ " " ++ value.kind.text ++ " " ++ value.shown text) []
  | .null place => .node ("NullLit " ++ place.text) []
  | .template parts place => .node ("TemplateLit " ++ place.text) (Expr.outlines parts)
  | .binary operator left right =>
      .node ("BinaryOp " ++ left.position.text ++ " " ++ operator.text)
        [.node "X:" [left.outline], .node "Y:" [right.outline]]
  | .call function arguments =>
      .node ("CallExpr " ++ function.position.text ++ " " ++ function.text)
        (match arguments with
          | [] => []
          | first :: rest => [.node "Args:" (first.outline :: Expr.outlines rest)])
  | .list elements place => .node ("ListLit " ++ place.text) (Expr.outlines elements)
  | .paren inner place => .node ("ParenExpr " ++ place.text) [inner.outline]

/-- The outlines of expressions. -/
def Expr.outlines : List Expr → List Outline
  | [] => []
  | first :: rest => first.outline :: Expr.outlines rest

end

/-- The keyword of a variable declaration. -/
def declarationWord (mutable : Bool) : String :=
  if mutable then "var*" else "var"

mutual

/-- The outline of a statement. -/
def Stmt.outline : Stmt → Outline
  | .expr value => .node ("ExprStmt " ++ value.position.text) [value.outline]
  | .declare mutable name value place =>
      .node ("VarDecl " ++ place.text ++ " " ++ declarationWord mutable ++ " " ++ name.text)
        [value.outline]
  | .assign defines name value =>
      .node ("AssignStmt " ++ name.position.text ++ " " ++ name.text
          ++ if defines then " (define)" else "")
        [value.outline]
  | .choice branches place => .node ("IfStmt " ++ place.text) (Branch.outlines branches)
  | .forEach key bound body place =>
      .node ("ForStmt " ++ place.text ++ " " ++ key.text)
        [.node "X:" [bound.outline], .node "Body:" [body.outline]]
  | .whileLoop condition body place =>
      .node ("WhileStmt " ++ place.text)
        [.node "Cond:" [condition.outline], .node "Body:" [body.outline]]
  | .return value place =>
      .node ("ReturnStmt " ++ place.text)
        (match value with
          | some result => [result.outline]
          | none => [])
  | .control kind place => .node ("BranchStmt " ++ place.text ++ " " ++ kind.keyword.text) []

/-- The outlines of statements. -/
def Stmt.outlines : List Stmt → List Outline
  | [] => []
  | first :: rest => first.outline :: Stmt.outlines rest

/-- The outline of a branch. -/
def Branch.outline : Branch → Outline
  | .mk condition body place =>
      .node ("Branch " ++ place.text)
        [.node "Cond:" [condition.outline], .node "Body:" [body.outline]]

/-- The outlines of branches. -/
def Branch.outlines : List Branch → List Outline
  | [] => []
  | first :: rest => first.outline :: Branch.outlines rest

/-- The outline of a block. -/
def Block.outline : Block → Outline
  | .mk statements opened _ => .node ("BlockStmt " ++ opened.text) (Stmt.outlines statements)

end

/-- The outline of an item. -/
def Item.outline : Item → Outline
  | .function declaration =>
      .node ("FuncDecl " ++ declaration.position.text)
        (.node ("Name: " ++ declaration.name.text) []
          :: (if declaration.parameters.isEmpty then
              []
            else
              [.node ("Params: " ++ ", ".intercalate (declaration.parameters.map (·.text))) []])
          ++ [.node "Body:" [declaration.body.outline]])
  | .type declaration =>
      .node ("TypeDecl " ++ declaration.position.text ++ " " ++ declaration.name.text) []
  | .statement inner => inner.outline

/-- The outline of a file. -/
def File.outline (file : File) : Outline :=
  .node ("File " ++ file.position.text) (file.items.map Item.outline)

end Scripting
