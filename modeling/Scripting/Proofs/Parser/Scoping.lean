import Scripting.Proofs.Parser.Acceptance
import Scripting.Proofs.Scoping

namespace Scripting

/-!
# Accepted scripts obey the scoping rules

Everything that the reading rules derive obeys the scoping rules, and the scope after a statement
is the one before it with what the statement declares.
-/

/-- The scope after a declaration, if there is one. -/
def Scope.extend (scope : Scope) : Option (Identifier × Bool) → Scope
  | none => scope
  | some (identifier, mutable) => scope.define identifier.text ⟨mutable, identifier.position⟩

/-- Extending a scope by a declaration adds it to the layout. -/
@[simp] theorem Scope.layout_extend
    (scope : Scope)
    (declared : Option (Identifier × Bool)) :
    (scope.extend declared).layout = scope.layout.declare declared := by
  cases declared with
  | none =>
      rfl
  | some declaration =>
      exact ScopeChain.layout_define ..

namespace Layout

@[simp] theorem shows_nil (layout : Layout) : layout.Shows [] := by
  simp [Shows]

/-- A layout shows names in a row if it shows all of them. -/
@[simp] theorem shows_append {layout : Layout} {first second : List Identifier} :
    layout.Shows (first ++ second) ↔ layout.Shows first ∧ layout.Shows second := by
  simp [Shows, or_imp, forall_and]

end Layout

namespace Parser

/-- A variable that is visible in a scope is shown by its layout. -/
theorem shows_name
    {scope : Scope}
    {text : String}
    (position : Position)
    (visible : (scope.find? text).isSome) :
    scope.layout.Shows [⟨text, position⟩] := by
  simpa [Layout.Shows] using visible

mutual

/-- An expression reads only visible variables. -/
theorem ReadsExpr.shows
    {grammar : Grammar}
    {scope : Scope}
    {tokens rest : List Token}
    {value : Expr} :
    ReadsExpr grammar scope tokens value rest → scope.layout.Shows value.reads
  | .chain left operation => operation.shows left.shows

/-- An operation reads visible names if its left operand does. -/
theorem ReadsOperation.shows
    {grammar : Grammar}
    {scope : Scope}
    {bound : Nat}
    {left value : Expr}
    {tokens rest : List Token} :
    ReadsOperation grammar scope bound left tokens value rest →
    scope.layout.Shows left.reads →
    scope.layout.Shows value.reads
  | .stop _, leftShown => leftShown
  | .extend _ _ first right whole, leftShown =>
      whole.shows (by
        simpa [Expr.reads] using And.intro leftShown (right.shows first.shows))

/-- An operand reads visible names: a name was looked up by the parser. -/
theorem ReadsOperand.shows
    {grammar : Grammar}
    {scope : Scope}
    {tokens rest : List Token}
    {value : Expr} :
    ReadsOperand grammar scope tokens value rest → scope.layout.Shows value.reads
  | .literal => by simp [Expr.reads]
  | .template parts => by simpa [Expr.reads] using parts.shows
  | .null => by simp [Expr.reads]
  | .name _ visible => by simpa [Expr.reads] using shows_name _ visible
  | .call _ call => call.shows
  | .paren _ inner => by simpa [Expr.reads] using inner.shows
  | .emptyList _ => by simp [Expr.reads, Expr.readsAll]
  | .list _ elements => by simpa [Expr.reads] using elements.shows

/-- The arguments of a call read visible names. -/
theorem ReadsCall.shows
    {grammar : Grammar}
    {scope : Scope}
    {function : Identifier}
    {tokens rest : List Token}
    {value : Expr} :
    ReadsCall grammar scope function tokens value rest → scope.layout.Shows value.reads
  | .empty _ _ => by simp [Expr.reads, Expr.readsAll]
  | .arguments _ _ arguments => by simpa [Expr.reads] using arguments.shows

/-- Expressions in a list read visible names. -/
theorem ReadsExprList.shows
    {grammar : Grammar}
    {scope : Scope}
    {closing : Separator}
    {tokens rest : List Token}
    {values : List Expr} :
    ReadsExprList grammar scope closing tokens values rest →
    scope.layout.Shows (Expr.readsAll values)
  | .last _ _ first => by simpa [Expr.readsAll] using first.shows
  | .more _ first others => by
      simpa [Expr.readsAll] using And.intro first.shows others.shows

/-- The parts of a template read visible names of the scope around it. -/
theorem ReadsParts.shows
    {grammar : Grammar}
    {scope : Scope}
    {position : Position}
    {parts : List Part}
    {values : List Expr} :
    ReadsParts grammar scope position parts values →
    scope.layout.Shows (Expr.readsAll values)
  | .nil => by simp [Expr.readsAll]
  | .fragment others => by simpa [Expr.readsAll, Expr.reads] using others.shows
  | .interpolation first others => by
      simpa [Expr.readsAll] using And.intro first.shows others.shows

end

/-- A condition reads visible names. -/
theorem ReadsCondition.shows
    {grammar : Grammar}
    {scope : Scope}
    {tokens rest : List Token}
    {test : Expr} :
    ReadsCondition grammar scope tokens test rest → scope.layout.Shows test.reads
  | .mk _ _ inner => inner.shows

/-- The scope after a statement is the one before it with what the statement declares. -/
theorem ReadsStmt.scope_eq
    {grammar : Grammar}
    {place : Place}
    {scope inside : Scope}
    {tokens rest : List Token}
    {value : Stmt}
    (reads : ReadsStmt grammar place scope tokens value inside rest) :
    inside = scope.extend value.declared? := by
  cases reads <;> rfl

mutual

/-- A statement that is read obeys the scoping rules. -/
theorem ReadsStmt.scoped
    {grammar : Grammar}
    {place : Place}
    {scope inside : Scope}
    {tokens rest : List Token}
    {value : Stmt} :
    ReadsStmt grammar place scope tokens value inside rest → value.Scoped scope.layout
  | .declare _ _ new value => by
      simpa [Stmt.Scoped, new] using value.shows
  | .assignNew _ _ new value => by
      simpa [Stmt.Scoped, new] using value.shows
  | .assignOld _ known mutable value => by
      simpa [Stmt.Scoped, known, mutable] using value.shows
  | .call _ call operation => by
      simpa [Stmt.Scoped] using operation.shows call.shows
  | .operate _ visible operation => by
      simpa [Stmt.Scoped] using operation.shows (shows_name _ visible)
  | .choice _ first others => by
      simpa [Stmt.Scoped, Branch.ScopedAll] using And.intro first.scoped others.scoped
  | .forEach _ _ bound body => by
      have bodyScoped := body.scoped
      simp only [ScopeChain.layout_define, ScopeChain.layout_push] at bodyScoped
      exact ⟨bound.shows, bodyScoped⟩
  | .whileLoop _ test body => by
      have bodyScoped := body.scoped
      rw [ScopeChain.layout_push] at bodyScoped
      exact ⟨test.shows, bodyScoped⟩
  | .returnNothing _ _ _ => by simp [Stmt.Scoped]
  | .returnValue _ _ _ value => by simpa [Stmt.Scoped] using value.shows
  | .control _ _ => by simp [Stmt.Scoped]

/-- A branch obeys the rules of scope, condition and block. -/
theorem ReadsBranch.scoped
    {grammar : Grammar}
    {place : Place}
    {scope : Scope}
    {position : Position}
    {context : String}
    {tokens rest : List Token}
    {value : Branch} :
    ReadsBranch grammar place scope position context tokens value rest →
    value.Scoped scope.layout
  | .mk test body => by
      have bodyScoped := body.scoped
      rw [ScopeChain.layout_push] at bodyScoped
      exact ⟨test.shows, bodyScoped⟩

/-- Alternatives obey the rules of scope, each for itself. -/
theorem ReadsAlternatives.scoped
    {grammar : Grammar}
    {place : Place}
    {scope : Scope}
    {tokens rest : List Token}
    {values : List Branch} :
    ReadsAlternatives grammar place scope tokens values rest →
    Branch.ScopedAll scope.layout values
  | .elseIf _ next others => ⟨next.scoped, others.scoped⟩
  | .elseThenIf _ _ next others => ⟨next.scoped, others.scoped⟩
  | .otherwise _ _ body => by
      have bodyScoped := body.scoped
      rw [ScopeChain.layout_push] at bodyScoped
      simpa [Branch.ScopedAll, Branch.Scoped, Expr.reads] using bodyScoped
  | .none _ _ => by simp [Branch.ScopedAll]

/-- A block obeys the rules of scope in a frame of its own. -/
theorem ReadsBlock.scoped
    {grammar : Grammar}
    {place : Place}
    {scope : Scope}
    {tokens rest : List Token}
    {value : Block} :
    ReadsBlock grammar place scope tokens value rest → value.Scoped scope.layout
  | .mk _ _ statements => statements.scoped

/-- Statements obey the rules of scope, each with the names of those before it. -/
theorem ReadsStmts.scoped
    {grammar : Grammar}
    {place : Place}
    {scope : Scope}
    {tokens rest : List Token}
    {values : List Stmt} :
    ReadsStmts grammar place scope tokens values rest → Stmt.ScopedAll scope.layout values
  | .nil _ => by simp [Stmt.ScopedAll]
  | .cons _ _ first others => by
      have othersScoped := others.scoped
      rw [first.scope_eq, Scope.layout_extend] at othersScoped
      exact ⟨first.scoped, othersScoped⟩

end

/-- Parameters are declared one after another as immutable variables. -/
theorem layout_declareAll
    {scope inside : Scope}
    {names : List Identifier}
    (declares : declareAll scope names = .ok inside) :
    inside.layout =
      (names.map Identifier.text).foldl (fun layout name => layout.define name false)
        scope.layout := by
  induction names generalizing scope with
  | nil =>
      cases declares
      rfl
  | cons first rest inductionHypothesis =>
      simp only [declareAll, bind_eq_ok] at declares
      obtain ⟨between, firstDeclared, restDeclared⟩ := declares
      obtain ⟨-, rfl⟩ := declare_eq_ok.mp firstDeclared
      rw [inductionHypothesis restDeclared, ScopeChain.layout_define]
      rfl

section Items

variable {grammar : Grammar} {known between final : Declarations}
variable {tokens rest : List Token} {value : Item} {values : List Item}

/-- An item extends the scope by what it declares. -/
theorem ReadsItem.scope_eq
    (reads : ReadsItem grammar known tokens value between rest) :
    between.scope = known.scope.extend value.declared? := by
  cases reads with
  | function _ _ _ _ _ =>
      rfl
  | type _ _ =>
      rfl
  | statement inner =>
      exact inner.scope_eq

/-- An item adds at most the signature of the function that it defines, whose name is new. -/
theorem ReadsItem.functions_eq
    (reads : ReadsItem grammar known tokens value between rest) :
    (∃ declaration, value = .function declaration ∧
        known.functions[declaration.name.text]? = none ∧
        between.functions =
          known.functions.insert declaration.name.text
            ⟨some declaration.parameters.length, false⟩) ∨
      value.function? = none ∧ between.functions = known.functions := by
  cases reads with
  | function _ new _ _ _ =>
      exact .inl ⟨_, rfl, new, rfl⟩
  | type _ _ =>
      exact .inr ⟨rfl, rfl⟩
  | statement inner =>
      exact .inr ⟨rfl, rfl⟩

/-- An item that is read at the top level obeys the scoping rules. -/
theorem ReadsItem.scoped
    (reads : ReadsItem grammar known tokens value between rest)
    (outermost : known.scope.inner = []) :
    value.Scoped known.scope.outer.layout := by
  have topLevel : known.scope.layout = ⟨[], known.scope.outer.layout⟩ := by
    simp [ScopeChain.layout, outermost]
  cases reads with
  | function _ _ declares _ body =>
      have bodyScoped := body.scoped
      rw [layout_declareAll declares, ScopeChain.layout_push, topLevel] at bodyScoped
      exact bodyScoped
  | type _ new =>
      simpa [Item.Scoped, ScopeChain.current, outermost] using new
  | statement inner =>
      have innerScoped := inner.scoped
      rw [topLevel] at innerScoped
      exact innerScoped

/-- An item leaves the parser at the top level. -/
theorem ReadsItem.outermost
    (reads : ReadsItem grammar known tokens value between rest)
    (outermost : known.scope.inner = []) :
    between.scope.inner = [] := by
  rw [reads.scope_eq]
  cases value.declared? with
  | none =>
      exact outermost
  | some declaration =>
      exact (ScopeChain.inner_define_eq_nil_iff ..).mpr outermost

/-- The layout of the outermost scope follows what items declare. -/
theorem ReadsItem.layout_outer
    (reads : ReadsItem grammar known tokens value between rest)
    (outermost : known.scope.inner = []) :
    between.scope.outer.layout = value.declareIn known.scope.outer.layout := by
  rw [reads.scope_eq]
  unfold Item.declareIn
  cases value.declared? with
  | none =>
      rfl
  | some declaration =>
      simp [Scope.extend, ScopeChain.define_of_inner_nil outermost]

/-- Items leave the scope outermost. -/
theorem ReadsItems.outermost
    (reads : ReadsItems grammar known tokens values final)
    (outermost : known.scope.inner = []) :
    final.scope.inner = [] := by
  induction reads with
  | nil =>
      exact outermost
  | cons first _ inductionHypothesis =>
      exact inductionHypothesis (first.outermost outermost)

/-- Items that are read at the top level obey the scoping rules. -/
theorem ReadsItems.scoped
    (reads : ReadsItems grammar known tokens values final)
    (outermost : known.scope.inner = []) :
    Item.ScopedAll known.scope.outer.layout values := by
  induction reads with
  | nil =>
      simp [Item.ScopedAll]
  | cons first _ inductionHypothesis =>
      have othersScoped := inductionHypothesis (first.outermost outermost)
      rw [first.layout_outer outermost] at othersScoped
      exact ⟨first.scoped outermost, othersScoped⟩

/-- Items extend the outermost frame by what each of them declares. -/
theorem ReadsItems.layout_outer
    (reads : ReadsItems grammar known tokens values final)
    (outermost : known.scope.inner = []) :
    final.scope.outer.layout = values.foldl Item.declareIn known.scope.outer.layout := by
  induction reads with
  | nil =>
      rfl
  | cons first _ inductionHypothesis =>
      rw [inductionHypothesis (first.outermost outermost), first.layout_outer outermost]
      rfl

end Items

/-- Calls that pass the check name known functions and pass as many arguments as these take. -/
theorem resolve_of_checkCalls
    {functions : Signatures}
    {calls : List CallSite}
    (checked : checkCalls functions calls = .ok ()) :
    functions.Resolve calls := by
  induction calls with
  | nil =>
      simp [Signatures.Resolve]
  | cons first rest inductionHypothesis =>
      simp only [checkCalls, bind_eq_ok] at checked
      obtain ⟨⟨⟩, firstChecked, restChecked⟩ := checked
      have firstResolved : first.Resolved functions := by
        unfold checkCall at firstChecked
        split at firstChecked
        · simp at firstChecked
        · next signature found =>
            refine ⟨signature, found, fun arity takes => ?_⟩
            rw [takes] at firstChecked
            simp only at firstChecked
            split at firstChecked
            · next same =>
                exact same
            · simp at firstChecked
      simpa [Signatures.Resolve] using
        And.intro firstResolved (inductionHypothesis restChecked)

end Parser

/-- What is known about a token sequence that the parser accepts. -/
theorem parseTokens_eq_ok
    {grammar : Grammar}
    {known : Declarations}
    {tokens : List Token}
    {file : File}
    (accepted : (parseTokens grammar known tokens).outcome = .ok file) :
    ∃ final,
      Parser.ReadsItems grammar known tokens file.items final ∧
        (parseTokens grammar known tokens).scope = final.scope ∧
        (parseTokens grammar known tokens).functions = final.functions ∧
        final.functions.Resolve file.calls := by
  rcases read : Parser.items (Parser.budgetFor tokens) grammar known (.ofTokens tokens) with
    ⟨after, error | values⟩
  · simp [parseTokens, read] at accepted
  · cases checked :
        Parser.checkCalls after.functions
          (File.calls ⟨values, (TokenCursor.ofTokens tokens).position⟩) with
    | error error =>
        simp [parseTokens, read, checked] at accepted
    | ok =>
        simp only [parseTokens, read, checked, Except.ok.injEq] at accepted ⊢
        subst accepted
        exact ⟨after, .of_items read, rfl, rfl, Parser.resolve_of_checkCalls checked⟩

/-- A text that is accepted is scanned to tokens that are accepted. -/
theorem exists_of_isOk
    {grammar : Grammar}
    {known : Declarations}
    {name text : String}
    (isOk : (parse grammar known name text).outcome.isOk = true) :
    ∃ tokens file, scan name text = .ok tokens ∧
      (parseTokens grammar known tokens).outcome = .ok file := by
  unfold parse at isOk
  split at isOk
  · cases isOk
  · next tokens scanned =>
      cases outcome : (parseTokens grammar known tokens).outcome with
      | error error =>
          rw [outcome] at isOk
          cases isOk
      | ok file =>
          exact ⟨tokens, file, scanned, outcome⟩

/-- What is known to a script that stands alone. -/
def Declarations.empty : Declarations :=
  ⟨.empty "global", ∅⟩

end Scripting
