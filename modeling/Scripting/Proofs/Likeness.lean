import Scripting.Evaluation.Function
import Scripting.Tree.Calls
import Mathlib.Data.List.Forall2

namespace Scripting

/-!
# Trees up to positions

Two trees are alike when they differ in nothing but positions.  Functions are alike when their
definitions are, whichever scripts they come from.
-/

mutual

/-- Expressions that are equal up to positions. -/
inductive Expr.Alike : Expr → Expr → Prop where
  | name :
      Expr.Alike (.name ⟨word, place⟩) (.name ⟨word, otherPlace⟩)
  | literal :
      Expr.Alike (.literal word value place) (.literal word value otherPlace)
  | null :
      Expr.Alike (.null place) (.null otherPlace)
  | template :
      Expr.AllAlike parts others →
      Expr.Alike (.template parts place) (.template others otherPlace)
  | binary :
      Expr.Alike left otherLeft →
      Expr.Alike right otherRight →
      Expr.Alike (.binary operator left right) (.binary operator otherLeft otherRight)
  | call :
      Expr.AllAlike arguments others →
      Expr.Alike (.call ⟨word, place⟩ arguments) (.call ⟨word, otherPlace⟩ others)
  | list :
      Expr.AllAlike elements others →
      Expr.Alike (.list elements place) (.list others otherPlace)
  | paren :
      Expr.Alike content other →
      Expr.Alike (.paren content place) (.paren other otherPlace)

/-- Expressions that are equal up to positions, one by one. -/
inductive Expr.AllAlike : List Expr → List Expr → Prop where
  | nil :
      Expr.AllAlike [] []
  | cons :
      Expr.Alike first other →
      Expr.AllAlike rest others →
      Expr.AllAlike (first :: rest) (other :: others)

end

mutual

/-- Statements that are equal up to positions. -/
inductive Stmt.Alike : Stmt → Stmt → Prop where
  | expr :
      Expr.Alike value other →
      Stmt.Alike (.expr value) (.expr other)
  | declare :
      Expr.Alike value other →
      Stmt.Alike (.declare mutable ⟨word, namePlace⟩ value place)
        (.declare mutable ⟨word, otherNamePlace⟩ other otherPlace)
  | assign :
      Expr.Alike value other →
      Stmt.Alike (.assign defines ⟨word, place⟩ value) (.assign defines ⟨word, otherPlace⟩ other)
  | choice :
      Branch.AllAlike branches others →
      Stmt.Alike (.choice branches place) (.choice others otherPlace)
  | forEach :
      Expr.Alike bound otherBound →
      Block.Alike body otherBody →
      Stmt.Alike (.forEach ⟨key, keyPlace⟩ bound body place)
        (.forEach ⟨key, otherKeyPlace⟩ otherBound otherBody otherPlace)
  | whileLoop :
      Expr.Alike condition otherCondition →
      Block.Alike body otherBody →
      Stmt.Alike (.whileLoop condition body place)
        (.whileLoop otherCondition otherBody otherPlace)
  | returnNothing :
      Stmt.Alike (.return none place) (.return none otherPlace)
  | returnValue :
      Expr.Alike value other →
      Stmt.Alike (.return (some value) place) (.return (some other) otherPlace)
  | control :
      Stmt.Alike (.control kind place) (.control kind otherPlace)

/-- Statements that are equal up to positions, one by one. -/
inductive Stmt.AllAlike : List Stmt → List Stmt → Prop where
  | nil :
      Stmt.AllAlike [] []
  | cons :
      Stmt.Alike first other →
      Stmt.AllAlike rest others →
      Stmt.AllAlike (first :: rest) (other :: others)

/-- Branches that are equal up to positions. -/
inductive Branch.Alike : Branch → Branch → Prop where
  | mk :
      Expr.Alike condition otherCondition →
      Block.Alike body otherBody →
      Branch.Alike (.mk condition body place) (.mk otherCondition otherBody otherPlace)

/-- Branches that are equal up to positions, one by one. -/
inductive Branch.AllAlike : List Branch → List Branch → Prop where
  | nil :
      Branch.AllAlike [] []
  | cons :
      Branch.Alike first other →
      Branch.AllAlike rest others →
      Branch.AllAlike (first :: rest) (other :: others)

/-- Blocks that are equal up to positions. -/
inductive Block.Alike : Block → Block → Prop where
  | mk :
      Stmt.AllAlike statements others →
      Block.Alike (.mk statements opened closed) (.mk others otherOpened otherClosed)

end

/-- Definitions of functions that are equal up to positions. -/
structure FunctionDecl.Alike (declaration other : FunctionDecl) : Prop where
  name : other.name.text = declaration.name.text
  parameters :
    other.parameters.map Identifier.text = declaration.parameters.map Identifier.text
  body : declaration.body.Alike other.body

/-- Items that are equal up to positions. -/
inductive Item.Alike : Item → Item → Prop where
  | function :
      FunctionDecl.Alike declaration other →
      Item.Alike (.function declaration) (.function other)
  | type :
      Item.Alike (.type ⟨⟨word, namePlace⟩, place⟩) (.type ⟨⟨word, otherNamePlace⟩, otherPlace⟩)
  | statement :
      Stmt.Alike content other →
      Item.Alike (.statement content) (.statement other)

/-- Functions that are equal up to positions and the scripts that define them. -/
inductive Function.Alike : Function → Function → Prop where
  | user :
      FunctionDecl.Alike function.declaration other.declaration →
      Function.Alike (.user function) (.user other)
  | builtin :
      Function.Alike (.builtin function) (.builtin function)

mutual

/-- An expression is like itself, and with it everything built of expressions. -/
theorem Expr.Alike.refl : (value : Expr) → value.Alike value
  | .name _ => .name
  | .literal .. => .literal
  | .null _ => .null
  | .template parts _ => .template (Expr.AllAlike.refl parts)
  | .binary _ left right => .binary (Expr.Alike.refl left) (Expr.Alike.refl right)
  | .call _ arguments => .call (Expr.AllAlike.refl arguments)
  | .list elements _ => .list (Expr.AllAlike.refl elements)
  | .paren inner _ => .paren (Expr.Alike.refl inner)

theorem Expr.AllAlike.refl : (values : List Expr) → Expr.AllAlike values values
  | [] => .nil
  | first :: rest => .cons (Expr.Alike.refl first) (Expr.AllAlike.refl rest)

end

mutual

theorem Stmt.Alike.refl : (statement : Stmt) → statement.Alike statement
  | .expr value => .expr (.refl value)
  | .declare _ _ value _ => .declare (.refl value)
  | .assign _ _ value => .assign (.refl value)
  | .choice branches _ => .choice (Branch.AllAlike.refl branches)
  | .forEach _ bound body _ => .forEach (.refl bound) (Block.Alike.refl body)
  | .whileLoop condition body _ => .whileLoop (.refl condition) (Block.Alike.refl body)
  | .return none _ => .returnNothing
  | .return (some value) _ => .returnValue (.refl value)
  | .control .. => .control

theorem Stmt.AllAlike.refl : (statements : List Stmt) → Stmt.AllAlike statements statements
  | [] => .nil
  | first :: rest => .cons (Stmt.Alike.refl first) (Stmt.AllAlike.refl rest)

theorem Branch.Alike.refl : (branch : Branch) → branch.Alike branch
  | .mk condition body _ => .mk (.refl condition) (Block.Alike.refl body)

theorem Branch.AllAlike.refl : (branches : List Branch) → Branch.AllAlike branches branches
  | [] => .nil
  | first :: rest => .cons (Branch.Alike.refl first) (Branch.AllAlike.refl rest)

theorem Block.Alike.refl : (body : Block) → body.Alike body
  | .mk statements _ _ => .mk (Stmt.AllAlike.refl statements)

end

/-- A function is like itself. -/
theorem FunctionDecl.Alike.refl (declaration : FunctionDecl) : declaration.Alike declaration :=
  ⟨rfl, rfl, .refl declaration.body⟩

theorem Function.Alike.refl : (function : Function) → function.Alike function
  | .user function => .user (.refl function.declaration)
  | .builtin _ => .builtin

theorem Block.Alike.statements
    {body other : Block}
    (alike : body.Alike other) :
    Stmt.AllAlike body.statements other.statements := by
  cases alike with
  | mk statements =>
      exact statements

/-- Calls that name the same function and pass as many arguments. -/
def CallSite.SameCalls (calls others : List CallSite) : Prop :=
  List.Forall₂
    (fun call other : CallSite =>
      other.function.text = call.function.text ∧ other.argumentCount = call.argumentCount)
    calls others

/-- Calls of one name with like arguments are like, wherever the name stands. -/
theorem Expr.Alike.call_of_text
    {function other : Identifier}
    {arguments others : List Expr}
    (sameText : other.text = function.text)
    (alike : Expr.AllAlike arguments others) :
    Expr.Alike (.call function arguments) (.call other others) := by
  obtain ⟨text, place⟩ := function
  obtain ⟨_, otherPlace⟩ := other
  cases sameText
  exact .call alike

/-- Like lists of expressions are as long as each other. -/
theorem Expr.AllAlike.length_eq
    {values others : List Expr}
    (alike : Expr.AllAlike values others) :
    others.length = values.length := by
  induction values generalizing others with
  | nil =>
      cases alike
      rfl
  | cons first rest inductionHypothesis =>
      cases alike with
      | cons _ restAlike =>
          simp [inductionHypothesis restAlike]

mutual

/-- Like expressions make the same calls, in one order. -/
theorem Expr.Alike.calls
    {value other : Expr} :
    Expr.Alike value other → CallSite.SameCalls value.calls other.calls
  | .name => .nil
  | .literal => .nil
  | .null => .nil
  | .template parts => parts.calls
  | .binary left right => List.rel_append left.calls right.calls
  | .call arguments =>
      List.rel_append arguments.calls (.cons ⟨rfl, arguments.length_eq⟩ .nil)
  | .list elements => elements.calls
  | .paren inner => inner.calls

theorem Expr.AllAlike.calls
    {values others : List Expr} :
    Expr.AllAlike values others →
    CallSite.SameCalls (Expr.callsAll values) (Expr.callsAll others)
  | .nil => .nil
  | .cons first rest => List.rel_append first.calls rest.calls

end

mutual

/-- Like statements make the same calls, those of their blocks included. -/
theorem Stmt.Alike.calls
    {statement other : Stmt} :
    Stmt.Alike statement other → CallSite.SameCalls statement.calls other.calls
  | .expr value => value.calls
  | .declare value => value.calls
  | .assign value => value.calls
  | .choice branches => branches.calls
  | .forEach bound body => List.rel_append bound.calls body.calls
  | .whileLoop condition body => List.rel_append condition.calls body.calls
  | .returnNothing => .nil
  | .returnValue value => value.calls
  | .control => .nil

theorem Stmt.AllAlike.calls
    {statements others : List Stmt} :
    Stmt.AllAlike statements others →
    CallSite.SameCalls (Stmt.callsAll statements) (Stmt.callsAll others)
  | .nil => .nil
  | .cons first rest => List.rel_append first.calls rest.calls

theorem Branch.Alike.calls
    {branch other : Branch} :
    Branch.Alike branch other → CallSite.SameCalls branch.calls other.calls
  | .mk condition body => List.rel_append condition.calls body.calls

theorem Branch.AllAlike.calls
    {branches others : List Branch} :
    Branch.AllAlike branches others →
    CallSite.SameCalls (Branch.callsAll branches) (Branch.callsAll others)
  | .nil => .nil
  | .cons first rest => List.rel_append first.calls rest.calls

/-- Like blocks make the same calls. -/
theorem Block.Alike.calls
    {body other : Block} :
    Block.Alike body other → CallSite.SameCalls body.calls other.calls
  | .mk statements => statements.calls

end

/-- Like items make the same calls. -/
theorem Item.Alike.calls
    {item other : Item}
    (alike : item.Alike other) :
    CallSite.SameCalls item.calls other.calls := by
  cases alike with
  | function declaration =>
      exact declaration.body.calls
  | type =>
      exact .nil
  | statement inner =>
      exact inner.calls

end Scripting
