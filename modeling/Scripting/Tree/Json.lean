import Scripting.Decimal.Layout
import Scripting.Json
import Scripting.Tree.Basic

namespace Scripting

/-!
# Trees as JSON

Every node is an object with its type, its position and its parts.
-/

namespace Json

/-- An object for a node of a tree. -/
def node (type : String) (position : Position) (members : List (String × Json)) : Json :=
  .object (.mk "type" (.string type) :: .mk "pos" (.string position.text)
    :: members.map fun (name, value) => .mk name value)

/-- Numbers are positional from a millionth up to `10 ^ 21`. -/
def floatLayout : Decimal.FloatLayout where
  positionalFrom := -6
  positionalBelow := 21
  wholeSuffix := ""
  exponentMark := "e"
  exponentPlus := "+"
  exponentWidth := 1
  nan := "NaN"
  infinity := "Infinity"
  negativeInfinity := "-Infinity"

end Json

/-- A constant as JSON. -/
def Literal.json : Literal → Json
  | .integer value => .number (toString value.toInt)
  | .long value => .number (toString value.toInt)
  | .float value => .number (Json.floatLayout.writeFloat32 value)
  | .double value => .number (Json.floatLayout.writeFloat value)
  | .boolean value => .boolean value
  | .string value => .string value

mutual

/-- An expression as JSON. -/
def Expr.json : Expr → Json
  | .name identifier => .node "Name" identifier.position [("value", .string identifier.text)]
  | .literal _ value place =>
      .node "BasicLit" place [("kind", .string value.kind.text), ("value", value.json)]
  | .null place => .node "NullLit" place []
  | .template parts place => .node "TemplateLit" place [("parts", .array (Expr.jsons parts))]
  | .binary operator left right =>
      .node "BinaryOp" left.position
        [("op", .string operator.text), ("x", left.json), ("y", right.json)]
  | .call function arguments =>
      .node "CallExpr" function.position
        [("fun", .string function.text), ("args", .array (Expr.jsons arguments))]
  | .list elements place => .node "ListLit" place [("elems", .array (Expr.jsons elements))]
  | .paren inner place => .node "ParenExpr" place [("x", inner.json)]

/-- Expressions as JSON. -/
def Expr.jsons : List Expr → List Json
  | [] => []
  | first :: rest => first.json :: Expr.jsons rest

end

mutual

/-- A statement as JSON. -/
def Stmt.json : Stmt → Json
  | .expr value => .node "ExprStmt" value.position [("x", value.json)]
  | .declare mutable name value place =>
      .node "VarDecl" place
        [("name", .string name.text), ("mutable", .boolean mutable), ("value", value.json)]
  | .assign defines name value =>
      .node "AssignStmt" name.position
        [("name", .string name.text), ("define", .boolean defines), ("value", value.json)]
  | .choice branches place =>
      .node "IfStmt" place [("branches", .array (Branch.jsons branches))]
  | .forEach key bound body place =>
      .node "ForStmt" place
        [("key", .string key.text), ("x", bound.json), ("body", body.json)]
  | .whileLoop condition body place =>
      .node "WhileStmt" place [("cond", condition.json), ("body", body.json)]
  | .return value place =>
      .node "ReturnStmt" place
        (match value with
          | some result => [("result", result.json)]
          | none => [])
  | .control kind place => .node "BranchStmt" place [("token", .string kind.keyword.text)]

/-- Statements as JSON. -/
def Stmt.jsons : List Stmt → List Json
  | [] => []
  | first :: rest => first.json :: Stmt.jsons rest

/-- A branch as JSON. -/
def Branch.json : Branch → Json
  | .mk condition body place =>
      .node "Branch" place [("cond", condition.json), ("body", body.json)]

/-- Branches as JSON. -/
def Branch.jsons : List Branch → List Json
  | [] => []
  | first :: rest => first.json :: Branch.jsons rest

/-- A block as JSON. -/
def Block.json : Block → Json
  | .mk statements opened _ =>
      .node "BlockStmt" opened [("stmts", .array (Stmt.jsons statements))]

end

/-- An item as JSON. -/
def Item.json : Item → Json
  | .function declaration =>
      .node "FuncDecl" declaration.position
        [("name", .string declaration.name.text),
          ("params", .array (declaration.parameters.map fun parameter => .string parameter.text)),
          ("body", declaration.body.json)]
  | .type declaration =>
      .node "TypeDecl" declaration.position [("name", .string declaration.name.text)]
  | .statement inner => inner.json

/-- A file as JSON. -/
def File.json (file : File) : Json :=
  .node "File" file.position [("stmts", .array (file.items.map Item.json))]

end Scripting
