import Scripting.Proofs.Layout
import Scripting.Tree.Calls

namespace Scripting

/-!
# Scoping rules

The rules that a tree obeys when every variable it reads is visible, every name is declared at
most once in a frame, and only mutable variables are assigned.  They are stated on trees and
layouts alone: neither tokens nor values play a part.
-/

mutual

/-- The variables that an expression reads, in source order. -/
def Expr.reads : Expr → List Identifier
  | .name identifier => [identifier]
  | .literal .. => []
  | .null _ => []
  | .template parts _ => Expr.readsAll parts
  | .binary _ left right => left.reads ++ right.reads
  | .call _ arguments => Expr.readsAll arguments
  | .list elements _ => Expr.readsAll elements
  | .paren inner _ => inner.reads

/-- The variables that expressions read. -/
def Expr.readsAll : List Expr → List Identifier
  | [] => []
  | first :: rest => first.reads ++ Expr.readsAll rest

end

/-- The variable that a statement declares in the innermost frame, and whether it is mutable. -/
def Stmt.declared? : Stmt → Option (Identifier × Bool)
  | .declare mutable name _ _ => some (name, mutable)
  | .assign true name _ => some (name, true)
  | _ => none

/-- The variable that an item declares at the top level, and whether it is mutable. -/
def Item.declared? : Item → Option (Identifier × Bool)
  | .function _ => none
  | .type declaration => some (declaration.name, false)
  | .statement inner => inner.declared?

/-- Every one of some variables is visible. -/
def Layout.Shows (layout : Layout) (identifiers : List Identifier) : Prop :=
  ∀ identifier ∈ identifiers, (layout.find? identifier.text).isSome

/-- The layout after a declaration, if there is one. -/
def Layout.declare (layout : Layout) : Option (Identifier × Bool) → Layout
  | none => layout
  | some (identifier, mutable) => layout.define identifier.text mutable

/-- The layout in which the body of a function stands. -/
def Layout.ofParameters (global : Frame Bool) (parameters : List String) : Layout :=
  parameters.foldl (fun layout name => layout.define name false) ⟨[.empty ""], global⟩

mutual

/-- A statement obeys the scoping rules. -/
def Stmt.Scoped (layout : Layout) : Stmt → Prop
  | .expr value => layout.Shows value.reads
  | .declare _ name value _ =>
      layout.Shows value.reads ∧ layout.current.find? name.text = none
  | .assign true name value => layout.Shows value.reads ∧ layout.find? name.text = none
  | .assign false name value => layout.Shows value.reads ∧ layout.find? name.text = some true
  | .choice branches _ => Branch.ScopedAll layout branches
  | .forEach key bound body _ =>
      layout.Shows bound.reads ∧ body.Scoped ((layout.push "").define key.text false)
  | .whileLoop condition body _ =>
      layout.Shows condition.reads ∧ body.Scoped (layout.push "")
  | .return value _ =>
      match value with
      | some result => layout.Shows result.reads
      | none => True
  | .control .. => True

/-- Statements obey the scoping rules one after another. -/
def Stmt.ScopedAll (layout : Layout) : List Stmt → Prop
  | [] => True
  | first :: rest =>
      first.Scoped layout ∧ Stmt.ScopedAll (layout.declare first.declared?) rest

/-- A branch obeys the scoping rules. -/
def Branch.Scoped (layout : Layout) : Branch → Prop
  | .mk condition body _ => layout.Shows condition.reads ∧ body.Scoped (layout.push "")

/-- Branches obey the scoping rules. -/
def Branch.ScopedAll (layout : Layout) : List Branch → Prop
  | [] => True
  | first :: rest => first.Scoped layout ∧ Branch.ScopedAll layout rest

/-- The statements of a block obey the scoping rules. -/
def Block.Scoped (layout : Layout) : Block → Prop
  | .mk statements _ _ => Stmt.ScopedAll layout statements

end

theorem Block.scoped_iff {layout : Layout} {body : Block} :
    body.Scoped layout ↔ Stmt.ScopedAll layout body.statements := by
  cases body
  rfl

theorem Block.calls_eq (body : Block) : body.calls = Stmt.callsAll body.statements := by
  cases body
  rfl

/-- An item obeys the scoping rules at the top level. -/
def Item.Scoped (global : Frame Bool) : Item → Prop
  | .function declaration =>
      declaration.body.Scoped
        (.ofParameters global (declaration.parameters.map Identifier.text))
  | .type declaration => global.find? declaration.name.text = none
  | .statement inner => inner.Scoped ⟨[], global⟩

/-- The outermost frame after an item. -/
def Item.declareIn (global : Frame Bool) (item : Item) : Frame Bool :=
  match item.declared? with
  | none => global
  | some (identifier, mutable) => global.define identifier.text mutable

/-- Items obey the scoping rules one after another. -/
def Item.ScopedAll (global : Frame Bool) : List Item → Prop
  | [] => True
  | first :: rest => first.Scoped global ∧ Item.ScopedAll (first.declareIn global) rest

/-- A call names a known function and passes as many arguments as it takes. -/
def CallSite.Resolved (functions : Signatures) (call : CallSite) : Prop :=
  ∃ signature, functions[call.function.text]? = some signature ∧
    ∀ arity, signature.arity = some arity → arity = call.argumentCount

/-- Calls name known functions and pass as many arguments as these take. -/
def Signatures.Resolve (functions : Signatures) (calls : List CallSite) : Prop :=
  ∀ call ∈ calls, call.Resolved functions

end Scripting
