import Scripting.Tree.Basic

namespace Scripting

/-!
# Equality of trees

Trees are compared node by node, positions included.  Within a script that makes a node the same as
no other one.
-/

mutual

/-- Whether two expressions are the same. -/
def Expr.same : Expr → Expr → Bool
  | .name identifier, .name other => identifier = other
  | .literal text value place, .literal otherText otherValue otherPlace =>
      text = otherText && value = otherValue && place = otherPlace
  | .null place, .null otherPlace => place = otherPlace
  | .template parts place, .template others otherPlace =>
      Expr.sameAll parts others && place = otherPlace
  | .binary operator left right, .binary otherOperator otherLeft otherRight =>
      operator = otherOperator && left.same otherLeft && right.same otherRight
  | .call function arguments, .call otherFunction others =>
      function = otherFunction && Expr.sameAll arguments others
  | .list elements place, .list others otherPlace =>
      Expr.sameAll elements others && place = otherPlace
  | .paren inner place, .paren other otherPlace => inner.same other && place = otherPlace
  | _, _ => false

/-- Whether two lists of expressions are the same. -/
def Expr.sameAll : List Expr → List Expr → Bool
  | [], [] => true
  | first :: rest, other :: others => first.same other && Expr.sameAll rest others
  | _, _ => false

end

mutual

/-- The comparison of expressions decides their equality. -/
theorem Expr.same_iff : ∀ {first second : Expr}, first.same second = true ↔ first = second
  | .name _, second => by cases second <;> simp [Expr.same]
  | .literal .., second => by cases second <;> simp [Expr.same, and_assoc]
  | .null _, second => by cases second <;> simp [Expr.same]
  | .template .., second => by cases second <;> simp [Expr.same, Expr.sameAll_iff]
  | .binary .., second => by cases second <;> simp [Expr.same, Expr.same_iff, and_assoc]
  | .call .., second => by cases second <;> simp [Expr.same, Expr.sameAll_iff]
  | .list .., second => by cases second <;> simp [Expr.same, Expr.sameAll_iff]
  | .paren .., second => by cases second <;> simp [Expr.same, Expr.same_iff]

theorem Expr.sameAll_iff :
    ∀ {first second : List Expr}, Expr.sameAll first second = true ↔ first = second
  | [], second => by cases second <;> simp [Expr.sameAll]
  | _ :: _, second => by cases second <;> simp [Expr.sameAll, Expr.same_iff, Expr.sameAll_iff]

end

instance : DecidableEq Expr :=
  fun _ _ => decidable_of_iff _ Expr.same_iff

mutual

/-- Whether two statements are the same. -/
def Stmt.same : Stmt → Stmt → Bool
  | .expr value, .expr other => value = other
  | .declare mutable name value place, .declare otherMutable otherName other otherPlace =>
      mutable = otherMutable && name = otherName && value = other && place = otherPlace
  | .assign defines name value, .assign otherDefines otherName other =>
      defines = otherDefines && name = otherName && value = other
  | .choice branches place, .choice others otherPlace =>
      Branch.sameAll branches others && place = otherPlace
  | .forEach key bound body place, .forEach otherKey otherBound otherBody otherPlace =>
      key = otherKey && bound = otherBound && body.same otherBody && place = otherPlace
  | .whileLoop condition body place, .whileLoop otherCondition otherBody otherPlace =>
      condition = otherCondition && body.same otherBody && place = otherPlace
  | .return value place, .return other otherPlace => value = other && place = otherPlace
  | .control kind place, .control otherKind otherPlace =>
      kind = otherKind && place = otherPlace
  | _, _ => false

/-- Whether two lists of statements are the same. -/
def Stmt.sameAll : List Stmt → List Stmt → Bool
  | [], [] => true
  | first :: rest, other :: others => first.same other && Stmt.sameAll rest others
  | _, _ => false

/-- Whether two branches are the same. -/
def Branch.same : Branch → Branch → Bool
  | .mk condition body place, .mk otherCondition otherBody otherPlace =>
      condition = otherCondition && body.same otherBody && place = otherPlace

/-- Whether two lists of branches are the same. -/
def Branch.sameAll : List Branch → List Branch → Bool
  | [], [] => true
  | first :: rest, other :: others => first.same other && Branch.sameAll rest others
  | _, _ => false

/-- Whether two blocks are the same. -/
def Block.same : Block → Block → Bool
  | .mk statements opened closed, .mk others otherOpened otherClosed =>
      Stmt.sameAll statements others && opened = otherOpened && closed = otherClosed

end

mutual

/-- The comparison of statements decides their equality. -/
theorem Stmt.same_iff :
    ∀ first second : Stmt, first.same second = true ↔ first = second
  | .expr _, second => by cases second <;> simp [Stmt.same]
  | .declare .., second => by cases second <;> simp [Stmt.same, and_assoc]
  | .assign .., second => by cases second <;> simp [Stmt.same, and_assoc]
  | .choice .., second => by cases second <;> simp [Stmt.same, Branch.sameAll_iff]
  | .forEach .., second => by cases second <;> simp [Stmt.same, Block.same_iff, and_assoc]
  | .whileLoop .., second => by cases second <;> simp [Stmt.same, Block.same_iff, and_assoc]
  | .return .., second => by cases second <;> simp [Stmt.same]
  | .control .., second => by cases second <;> simp [Stmt.same]
termination_by structural first => first

theorem Stmt.sameAll_iff :
    ∀ first second : List Stmt, Stmt.sameAll first second = true ↔ first = second
  | [], second => by cases second <;> simp [Stmt.sameAll]
  | _ :: _, second => by cases second <;> simp [Stmt.sameAll, Stmt.same_iff, Stmt.sameAll_iff]
termination_by structural first => first

theorem Branch.same_iff :
    ∀ first second : Branch, first.same second = true ↔ first = second
  | .mk .., .mk .. => by simp [Branch.same, Block.same_iff, and_assoc]
termination_by structural first => first

theorem Branch.sameAll_iff :
    ∀ first second : List Branch, Branch.sameAll first second = true ↔ first = second
  | [], second => by cases second <;> simp [Branch.sameAll]
  | _ :: _, second => by
      cases second <;> simp [Branch.sameAll, Branch.same_iff, Branch.sameAll_iff]
termination_by structural first => first

/-- The comparison of blocks decides their equality. -/
theorem Block.same_iff :
    ∀ first second : Block, first.same second = true ↔ first = second
  | .mk .., .mk .. => by simp [Block.same, Stmt.sameAll_iff, and_assoc]
termination_by structural first => first

end

instance : DecidableEq Block :=
  fun _ _ => decidable_of_iff _ (Block.same_iff _ _)

end Scripting
