import Scripting.Text.Quoted
import Scripting.Token.Basic
import Scripting.Tree.Basic

namespace Scripting

/-!
# Expressions as text

A compact form of an expression for messages and logs, close to how it is written in a script.
-/

/-- A text fragment of a template as it stands between the quotes: braces are escaped too. -/
def fragmentText (text : String) : String :=
  String.ofList ((Text.escapeAll '"' text).flatMap fun character =>
    if character = '{' || character = '}' then ['\\', character] else [character])

mutual

/-- The text of an expression. -/
def Expr.text : Expr → String
  | .name identifier => identifier.text
  | .literal text value _ => value.shown text
  | .null _ => "null"
  | .template parts _ => "\"" ++ String.join (Expr.partTexts parts) ++ "\""
  | .binary operator left right => left.text ++ " " ++ operator.text ++ " " ++ right.text
  | .call function arguments =>
      function.text ++ "(" ++ ", ".intercalate (Expr.texts arguments) ++ ")"
  | .list elements _ => "[" ++ ", ".intercalate (Expr.texts elements) ++ "]"
  | .paren inner _ => "(" ++ inner.text ++ ")"

/-- The texts of expressions. -/
def Expr.texts : List Expr → List String
  | [] => []
  | first :: rest => first.text :: Expr.texts rest

/-- The texts of the parts of a template: a string constant is a fragment, all else stands in
braces. -/
def Expr.partTexts : List Expr → List String
  | [] => []
  | .literal _ (.string content) _ :: rest => fragmentText content :: Expr.partTexts rest
  | first :: rest => ("\x7b" ++ first.text ++ "\x7d") :: Expr.partTexts rest

end

end Scripting
