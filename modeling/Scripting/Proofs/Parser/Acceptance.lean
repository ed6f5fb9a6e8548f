import Scripting.Proofs.Parser.Cursor

namespace Scripting.Parser

/-!
# The parser accepts only what the rules read

Whatever the budget, a successful reading of the parser is an instance of a reading rule.  The
proofs go by induction on the budget: each one assumes the statement for every function of the
parser at the next smaller budget.
-/

/-- What the functions for expressions accept with a budget. -/
structure AcceptsExprs (budget : Nat) : Prop where
  expr :
    ∀ {grammar scope cursor value rest},
      Parser.expr budget grammar scope cursor = .ok (value, rest) →
      ReadsExpr grammar scope cursor.ahead value rest.ahead
  operation :
    ∀ {grammar scope bound left cursor value rest},
      Parser.operation budget grammar scope bound left cursor = .ok (value, rest) →
      ReadsOperation grammar scope bound left cursor.ahead value rest.ahead
  operand :
    ∀ {grammar scope cursor value rest},
      Parser.operand budget grammar scope cursor = .ok (value, rest) →
      ReadsOperand grammar scope cursor.ahead value rest.ahead
  call :
    ∀ {grammar scope function cursor value rest},
      Parser.call budget grammar scope function cursor = .ok (value, rest) →
      ReadsCall grammar scope function cursor.ahead value rest.ahead
  exprList :
    ∀ {grammar scope closing context cursor values rest},
      Parser.exprList budget grammar scope closing context cursor = .ok (values, rest) →
      ReadsExprList grammar scope closing cursor.ahead values rest.ahead
  templateParts :
    ∀ {grammar scope position parts values},
      Parser.templateParts budget grammar scope position parts = .ok values →
      ReadsParts grammar scope position parts values
  interpolation :
    ∀ {grammar scope tokens value},
      Parser.interpolation budget grammar scope tokens = .ok value →
      ReadsExpr grammar scope tokens value []

namespace AcceptsExprs

variable {budget : Nat} (smaller : AcceptsExprs budget)
variable {grammar : Grammar} {scope : Scope} {cursor rest : TokenCursor} {value : Expr}

include smaller

/-- An expression is a left operand with operations after it. -/
private theorem expr_step
    (accepted : Parser.expr (budget + 1) grammar scope cursor = .ok (value, rest)) :
    ReadsExpr grammar scope cursor.ahead value rest.ahead := by
  simp only [Parser.expr, bind_eq_ok, Prod.exists] at accepted
  obtain ⟨left, between, leftRead, operationRead⟩ := accepted
  exact .chain (smaller.operand leftRead) (smaller.operation operationRead)

/-- A tighter operator takes its right operand, and then the operations go on; any other stops them.
-/
private theorem operation_step
    {bound : Nat}
    {left : Expr}
    (accepted :
      Parser.operation (budget + 1) grammar scope bound left cursor = .ok (value, rest)) :
    ReadsOperation grammar scope bound left cursor.ahead value rest.ahead := by
  simp only [Parser.operation] at accepted
  cases continued : tighterOperator? grammar bound cursor with
  | none =>
      simp only [continued, Except.ok.injEq, Prod.mk.injEq] at accepted
      rcases accepted with ⟨rfl, rfl⟩
      exact .stop (loose_of_tighterOperator? continued)
  | some operator =>
      simp only [continued, bind_eq_ok, Prod.exists] at accepted
      obtain ⟨first, afterFirst, firstRead, right, afterRight, rightRead, valueRead⟩ := accepted
      obtain ⟨token, tokens, shape, isOperator, tighter⟩ :=
        shape_of_tighterOperator? continued
      rcases cursor with ⟨behind, ahead⟩
      subst shape
      exact .extend isOperator tighter (smaller.operand firstRead)
        (smaller.operation rightRead) (smaller.operation valueRead)

/-- A name is a call if a parenthesis follows it, and a variable otherwise. -/
private theorem name_step
    {text : String}
    {position : Position}
    (accepted :
      (if cursor.kind = .separator .leftParen then
        Parser.call budget grammar scope ⟨text, position⟩ cursor
      else do
        let name ← visibleName scope ⟨text, position⟩
        .ok (name, cursor)) = .ok (value, rest)) :
    ReadsOperand grammar scope (.name text position :: cursor.ahead) value rest.ahead := by
  split at accepted
  · next opens =>
      rw [TokenCursor.kind_eq] at opens
      exact .call opens (smaller.call accepted)
  · next noCall =>
      rw [TokenCursor.kind_eq] at noCall
      simp only [bind_eq_ok, Except.ok.injEq, Prod.mk.injEq] at accepted
      obtain ⟨name, seen, rfl, rfl⟩ := accepted
      simp only [visibleName] at seen
      split at seen
      · next binding found =>
          cases seen
          exact .name noCall (by simp [found])
      · simp at seen

/-- A list ends at once, or after its elements. -/
private theorem list_step
    {spelling : String}
    {position : Position}
    (accepted :
      (match cursor.accept? (.separator .rightBracket) with
      | some rest => .ok (.list [] position, rest)
      | none => do
          let (elements, rest) ←
            Parser.exprList budget grammar scope .rightBracket "list" cursor
          .ok (.list elements position, rest) :
        Except SyntaxError (Expr × TokenCursor)) = .ok (value, rest)) :
    ReadsOperand grammar scope
      (.mark (.separator .leftBracket) spelling position :: cursor.ahead) value rest.ahead := by
  split at accepted
  · next after closed =>
      obtain ⟨closing, shape, closes⟩ := TokenCursor.ahead_eq_of_accept? closed
      simp only [Except.ok.injEq, Prod.mk.injEq] at accepted
      rcases accepted with ⟨rfl, rfl⟩
      rw [shape]
      exact .emptyList closes
  · next refused =>
      simp only [bind_eq_ok, Prod.exists, Except.ok.injEq, Prod.mk.injEq] at accepted
      obtain ⟨elements, after, elementsRead, rfl, rfl⟩ := accepted
      exact .list (TokenCursor.nextKind_ne_of_accept? refused) (smaller.exprList elementsRead)

/-- An operand is what its first token says. -/
private theorem operand_step
    (accepted : Parser.operand (budget + 1) grammar scope cursor = .ok (value, rest)) :
    ReadsOperand grammar scope cursor.ahead value rest.ahead := by
  simp only [Parser.operand, bind_eq_ok, Prod.exists] at accepted
  obtain ⟨token, tail, taken, accepted⟩ := accepted
  rw [TokenCursor.ahead_eq_of_next taken]
  split at accepted
  · simp only [Except.ok.injEq, Prod.mk.injEq] at accepted
    rcases accepted with ⟨rfl, rfl⟩
    exact .literal
  · simp only [bind_eq_ok, Except.ok.injEq, Prod.mk.injEq] at accepted
    obtain ⟨expressions, partsRead, rfl, rfl⟩ := accepted
    exact .template (smaller.templateParts partsRead)
  · simp only [Except.ok.injEq, Prod.mk.injEq] at accepted
    rcases accepted with ⟨rfl, rfl⟩
    exact .null
  · exact name_step smaller accepted
  · simp only [bind_eq_ok, Prod.exists, Except.ok.injEq, Prod.mk.injEq] at accepted
    obtain ⟨inner, between, innerRead, closing, after, wanted, rfl, rfl⟩ := accepted
    obtain ⟨shape, closes⟩ := TokenCursor.ahead_eq_of_want wanted
    exact .paren closes (shape ▸ smaller.expr innerRead)
  · exact list_step smaller accepted
  · simp at accepted

/-- A call ends at once, or after its arguments. -/
private theorem call_step
    {function : Identifier}
    (accepted :
      Parser.call (budget + 1) grammar scope function cursor = .ok (value, rest)) :
    ReadsCall grammar scope function cursor.ahead value rest.ahead := by
  simp only [Parser.call, bind_eq_ok, Prod.exists] at accepted
  obtain ⟨opening, tail, wanted, accepted⟩ := accepted
  obtain ⟨shape, opens⟩ := TokenCursor.ahead_eq_of_want wanted
  rw [shape]
  split at accepted
  · next after closed =>
      obtain ⟨closing, closedShape, closes⟩ := TokenCursor.ahead_eq_of_accept? closed
      simp only [Except.ok.injEq, Prod.mk.injEq] at accepted
      rcases accepted with ⟨rfl, rfl⟩
      rw [closedShape]
      exact .empty opens closes
  · next refused =>
      simp only [bind_eq_ok, Prod.exists, Except.ok.injEq, Prod.mk.injEq] at accepted
      obtain ⟨arguments, after, argumentsRead, rfl, rfl⟩ := accepted
      exact .arguments opens (TokenCursor.nextKind_ne_of_accept? refused)
        (smaller.exprList argumentsRead)

/-- An expression of a list is the last one before the closing separator, or a comma follows it. -/
private theorem exprList_step
    {closing : Separator}
    {context : String}
    {values : List Expr}
    (accepted :
      Parser.exprList (budget + 1) grammar scope closing context cursor =
        .ok (values, rest)) :
    ReadsExprList grammar scope closing cursor.ahead values rest.ahead := by
  simp only [Parser.exprList, bind_eq_ok, Prod.exists] at accepted
  obtain ⟨first, between, firstRead, accepted⟩ := accepted
  have firstReads := smaller.expr firstRead
  split at accepted
  · next after taken =>
      obtain ⟨comma, shape, isComma⟩ := TokenCursor.ahead_eq_of_accept? taken
      simp only [bind_eq_ok, Prod.exists, Except.ok.injEq, Prod.mk.injEq] at accepted
      obtain ⟨others, final, othersRead, rfl, rfl⟩ := accepted
      exact .more isComma (shape ▸ firstReads) (smaller.exprList othersRead)
  · next refused =>
      simp only [bind_eq_ok, Prod.exists, Except.ok.injEq, Prod.mk.injEq] at accepted
      obtain ⟨last, final, wanted, rfl, rfl⟩ := accepted
      obtain ⟨shape, closes⟩ := TokenCursor.ahead_eq_of_want wanted
      have noComma := TokenCursor.nextKind_ne_of_accept? refused
      rw [shape] at firstReads noComma
      exact .last noComma closes firstReads

/-- A text in a template is a constant, and an interpolation is an expression of its own. -/
private theorem templateParts_step
    {position : Position}
    {parts : List Part}
    {values : List Expr}
    (accepted :
      Parser.templateParts (budget + 1) grammar scope position parts = .ok values) :
    ReadsParts grammar scope position parts values := by
  simp only [Parser.templateParts] at accepted
  split at accepted
  · cases accepted
    exact .nil
  · simp only [bind_eq_ok, Except.ok.injEq] at accepted
    obtain ⟨expressions, othersRead, rfl⟩ := accepted
    exact .fragment (smaller.templateParts othersRead)
  · simp at accepted
  · next tokens others notEmpty =>
      simp only [bind_eq_ok, Except.ok.injEq] at accepted
      obtain ⟨first, firstRead, expressions, othersRead, rfl⟩ := accepted
      cases tokens with
      | nil =>
          exact (notEmpty rfl).elim
      | cons token tokens =>
          rw [inTemplate, mapError_eq_ok] at firstRead
          exact .interpolation (smaller.interpolation firstRead)
            (smaller.templateParts othersRead)

/-- An interpolation is an expression that takes all of its tokens. -/
private theorem interpolation_step
    {tokens : List Token}
    (accepted : Parser.interpolation (budget + 1) grammar scope tokens = .ok value) :
    ReadsExpr grammar scope tokens value [] := by
  simp only [Parser.interpolation, bind_eq_ok, Prod.exists, Except.ok.injEq] at accepted
  obtain ⟨first, after, firstRead, ⟨⟩, ended, rfl⟩ := accepted
  have firstReads := smaller.expr firstRead
  simp only [endOfInterpolation] at ended
  split at ended
  · next shape =>
      simpa [shape, TokenCursor.ofTokens] using firstReads
  · simp at ended

end AcceptsExprs

/-- The functions for expressions accept only what the rules read. -/
theorem acceptsExprs (budget : Nat) : AcceptsExprs budget := by
  induction budget with
  | zero =>
      constructor <;> intros <;>
        simp_all [expr, operation, operand, call, exprList, templateParts, interpolation]
  | succ budget smaller =>
      exact
        { expr := smaller.expr_step
          operation := smaller.operation_step
          operand := smaller.operand_step
          call := smaller.call_step
          exprList := smaller.exprList_step
          templateParts := smaller.templateParts_step
          interpolation := smaller.interpolation_step }

/-- A variable can be declared exactly where the innermost frame does not bind its name. -/
theorem declare_eq_ok
    {scope declared : Scope}
    {identifier : Identifier}
    {mutable : Bool} :
    declare scope identifier mutable = .ok declared ↔
      scope.current.find? identifier.text = none ∧
        declared = scope.define identifier.text ⟨mutable, identifier.position⟩ := by
  unfold declare
  split
  · next previous found =>
      simp [found]
  · next new =>
      simp [new, eq_comm]

section Statements

variable {budget : Nat} {grammar : Grammar} {place : Place} {scope inside : Scope}
variable {cursor rest : TokenCursor} {statement : Stmt}

/-- A condition that the parser accepts is read between its parentheses. -/
theorem ReadsCondition.of_condition
    {context : String}
    {test : Expr}
    (accepted : condition budget grammar scope context cursor = .ok (test, rest)) :
    ReadsCondition grammar scope cursor.ahead test rest.ahead := by
  simp only [condition, bind_eq_ok, Prod.exists, Except.ok.injEq, Prod.mk.injEq] at accepted
  obtain ⟨opening, afterOpening, openingTaken, inner, afterInner, innerRead,
    closing, afterClosing, closingTaken, rfl, rfl⟩ := accepted
  obtain ⟨shape, opens⟩ := TokenCursor.ahead_eq_of_want openingTaken
  obtain ⟨innerShape, closes⟩ := TokenCursor.ahead_eq_of_want closingTaken
  rw [shape]
  exact .mk opens closes (innerShape ▸ (acceptsExprs budget).expr innerRead)

/-- A declaration that the parser accepts declares a name that is new in its frame. -/
private theorem ReadsStmt.of_declaration
    {mutable : Bool}
    {keyword : Token}
    (isKeyword :
      keyword.kind = .keyword (if mutable then .mutableVarWord else .varWord))
    (accepted :
      declaration budget grammar scope mutable keyword cursor = .ok (statement, inside, rest)) :
    ReadsStmt grammar place scope (keyword :: cursor.ahead) statement inside rest.ahead := by
  simp only [declaration, bind_eq_ok, Prod.exists, Except.ok.injEq, Prod.mk.injEq] at accepted
  obtain ⟨identifier, afterName, nameTaken, sign, afterSign, signTaken, value, afterValue,
    valueRead, declared, isDeclared, rfl, rfl, rfl⟩ := accepted
  obtain ⟨shape, isSign⟩ := TokenCursor.ahead_eq_of_want signTaken
  obtain ⟨new, rfl⟩ := declare_eq_ok.mp isDeclared
  rw [ahead_eq_of_name nameTaken, shape]
  exact .declare isKeyword isSign new ((acceptsExprs budget).expr valueRead)

/-- An assignment that the parser accepts is to a mutable variable, or to a new name where the
grammar allows that. -/
private theorem ReadsStmt.of_assignment
    {text : String}
    {position : Position}
    {sign : Token}
    (isSign : sign.kind = .assign)
    (accepted :
      assignment budget grammar scope ⟨text, position⟩ cursor = .ok (statement, inside, rest)) :
    ReadsStmt grammar place scope (.name text position :: sign :: cursor.ahead)
      statement inside rest.ahead := by
  simp only [assignment, bind_eq_ok, Prod.exists] at accepted
  obtain ⟨value, after, valueRead, accepted⟩ := accepted
  have valueReads := (acceptsExprs budget).expr valueRead
  split at accepted
  · next new =>
      split at accepted
      · simp at accepted
      · next lenient =>
          simp only [bind_eq_ok, Except.ok.injEq, Prod.mk.injEq] at accepted
          obtain ⟨declared, isDeclared, rfl, rfl, rfl⟩ := accepted
          obtain ⟨-, rfl⟩ := declare_eq_ok.mp isDeclared
          exact .assignNew isSign (by simpa using lenient) new valueReads
  · next binding known =>
      split at accepted
      · next mutable =>
          simp only [Except.ok.injEq, Prod.mk.injEq] at accepted
          obtain ⟨rfl, rfl, rfl⟩ := accepted
          exact .assignOld isSign known mutable valueReads
      · simp at accepted

/-- A statement with a name first is an assignment or a call. -/
private theorem ReadsStmt.of_nameStatement
    {text : String}
    {position : Position}
    (accepted :
      nameStatement budget grammar scope ⟨text, position⟩ cursor =
        .ok (statement, inside, rest)) :
    ReadsStmt grammar place scope (.name text position :: cursor.ahead)
      statement inside rest.ahead := by
  simp only [nameStatement, TokenCursor.kind_eq] at accepted
  split at accepted
  · next isSign =>
      rcases cursor with ⟨behind, _ | ⟨sign, tokens⟩⟩
      · simp at isSign
      · exact .of_assignment isSign accepted
  · next opens =>
      simp only [bind_eq_ok, Prod.exists, Except.ok.injEq, Prod.mk.injEq] at accepted
      obtain ⟨left, afterLeft, leftRead, value, after, valueRead, rfl, rfl, rfl⟩ := accepted
      exact .call opens ((acceptsExprs budget).call leftRead)
        ((acceptsExprs budget).operation valueRead)
  · next operator isOperator =>
      simp only [bind_eq_ok, Prod.exists, Except.ok.injEq, Prod.mk.injEq] at accepted
      obtain ⟨left, seen, value, after, valueRead, rfl, rfl, rfl⟩ := accepted
      simp only [visibleName] at seen
      split at seen
      · next binding found =>
          cases seen
          exact .operate isOperator (by simp [found])
            ((acceptsExprs budget).operation valueRead)
      · simp at seen
  · simp at accepted

/-- A return that the parser accepts stands in a function, with a value if one follows on its line.
-/
private theorem ReadsStmt.of_returnStatement
    {keyword : Token}
    (isKeyword : keyword.kind = .keyword .returnWord)
    (accepted :
      returnStatement budget grammar place scope keyword cursor = .ok (statement, rest)) :
    ReadsStmt grammar place scope (keyword :: cursor.ahead) statement scope rest.ahead := by
  simp only [returnStatement] at accepted
  split at accepted
  · simp at accepted
  · next allowed =>
      have inFunction : place.inFunction = true := by simpa using allowed
      rcases cursor with ⟨behind, _ | ⟨next, tokens⟩⟩
      · simp only [Except.ok.injEq, Prod.mk.injEq] at accepted
        obtain ⟨rfl, rfl⟩ := accepted
        exact .returnNothing isKeyword inFunction rfl
      · simp only at accepted
        split at accepted
        · next follows =>
            simp only [bind_eq_ok, Prod.exists, Except.ok.injEq, Prod.mk.injEq] at accepted
            obtain ⟨value, after, valueRead, rfl, rfl⟩ := accepted
            exact .returnValue isKeyword inFunction follows
              ((acceptsExprs budget).expr valueRead)
        · next ends =>
            simp only [Except.ok.injEq, Prod.mk.injEq] at accepted
            obtain ⟨rfl, rfl⟩ := accepted
            exact .returnNothing isKeyword inFunction (Bool.eq_false_iff.mpr ends)

/-- A break or a continue that the parser accepts stands in a loop. -/
private theorem ReadsStmt.of_loopControl
    {kind : LoopControl}
    {spelling : String}
    {position : Position}
    (accepted : loopControl place kind position cursor = .ok (statement, rest)) :
    ReadsStmt grammar place scope
      (.mark (.keyword kind.keyword) spelling position :: cursor.ahead)
      statement scope rest.ahead := by
  unfold loopControl at accepted
  split at accepted
  · next allowed =>
      simp only [Except.ok.injEq, Prod.mk.injEq] at accepted
      obtain ⟨rfl, rfl⟩ := accepted
      exact .control rfl allowed
  · simp at accepted

end Statements

/-- What the functions for statements accept with a budget. -/
structure AcceptsStmts (budget : Nat) : Prop where
  statement :
    ∀ {grammar place scope cursor value inside rest},
      Parser.statement budget grammar place scope cursor = .ok (value, inside, rest) →
      ReadsStmt grammar place scope cursor.ahead value inside rest.ahead
  branch :
    ∀ {grammar place scope position context cursor value rest},
      Parser.branch budget grammar place scope position context cursor = .ok (value, rest) →
      ReadsBranch grammar place scope position context cursor.ahead value rest.ahead
  alternatives :
    ∀ {grammar place scope cursor values rest},
      Parser.alternatives budget grammar place scope cursor = .ok (values, rest) →
      ReadsAlternatives grammar place scope cursor.ahead values rest.ahead
  forLoop :
    ∀ {grammar place scope keyword cursor value rest},
      keyword.kind = .keyword .forWord →
      Parser.forLoop budget grammar place scope keyword.position cursor = .ok (value, rest) →
      ReadsStmt grammar place scope (keyword :: cursor.ahead) value scope rest.ahead
  block :
    ∀ {grammar place scope cursor value rest},
      Parser.block budget grammar place scope cursor = .ok (value, rest) →
      ReadsBlock grammar place scope cursor.ahead value rest.ahead
  blockStatements :
    ∀ {grammar place scope cursor values rest},
      Parser.blockStatements budget grammar place scope cursor = .ok (values, rest) →
      ReadsStmts grammar place scope cursor.ahead values rest.ahead

namespace AcceptsStmts

variable {budget : Nat} (smaller : AcceptsStmts budget)
variable {grammar : Grammar} {place : Place} {scope inside : Scope} {cursor rest : TokenCursor}

include smaller

/-- A statement is what its first token says. -/
private theorem statement_step
    {value : Stmt}
    (accepted :
      Parser.statement (budget + 1) grammar place scope cursor = .ok (value, inside, rest)) :
    ReadsStmt grammar place scope cursor.ahead value inside rest.ahead := by
  simp only [Parser.statement, bind_eq_ok, Prod.exists] at accepted
  obtain ⟨token, tail, taken, accepted⟩ := accepted
  rw [TokenCursor.ahead_eq_of_next taken]
  split at accepted
  · exact .of_nameStatement accepted
  · exact .of_declaration rfl accepted
  · exact .of_declaration rfl accepted
  · simp only [bind_eq_ok, Prod.exists, Except.ok.injEq, Prod.mk.injEq] at accepted
    obtain ⟨first, between, firstRead, others, after, othersRead, rfl, rfl, rfl⟩ := accepted
    exact .choice rfl (smaller.branch firstRead) (smaller.alternatives othersRead)
  · simp only [bind_eq_ok, Prod.exists, Except.ok.injEq, Prod.mk.injEq] at accepted
    obtain ⟨loop, after, loopRead, rfl, rfl, rfl⟩ := accepted
    exact smaller.forLoop rfl loopRead
  · simp only [bind_eq_ok, Prod.exists, Except.ok.injEq, Prod.mk.injEq] at accepted
    obtain ⟨test, between, testRead, body, after, bodyRead, rfl, rfl, rfl⟩ := accepted
    exact .whileLoop rfl (.of_condition testRead) (smaller.block bodyRead)
  · simp only [bind_eq_ok, Prod.exists, Except.ok.injEq, Prod.mk.injEq] at accepted
    obtain ⟨result, after, resultRead, rfl, rfl, rfl⟩ := accepted
    exact .of_returnStatement rfl resultRead
  · simp only [bind_eq_ok, Prod.exists, Except.ok.injEq, Prod.mk.injEq] at accepted
    obtain ⟨control, after, controlRead, rfl, rfl, rfl⟩ := accepted
    exact .of_loopControl controlRead
  · simp only [bind_eq_ok, Prod.exists, Except.ok.injEq, Prod.mk.injEq] at accepted
    obtain ⟨control, after, controlRead, rfl, rfl, rfl⟩ := accepted
    exact .of_loopControl controlRead
  · simp at accepted
  · simp at accepted
  · simp at accepted

/-- A branch is a condition with a block after it. -/
private theorem branch_step
    {position : Position}
    {context : String}
    {value : Branch}
    (accepted :
      Parser.branch (budget + 1) grammar place scope position context cursor =
        .ok (value, rest)) :
    ReadsBranch grammar place scope position context cursor.ahead value rest.ahead := by
  simp only [Parser.branch, bind_eq_ok, Prod.exists, Except.ok.injEq, Prod.mk.injEq] at accepted
  obtain ⟨test, between, testRead, body, after, bodyRead, rfl, rfl⟩ := accepted
  exact .mk (.of_condition testRead) (smaller.block bodyRead)

/-- The alternatives of a choice go on with a condition, end with a block, or are not there. -/
private theorem alternatives_step
    {values : List Branch}
    (accepted :
      Parser.alternatives (budget + 1) grammar place scope cursor = .ok (values, rest)) :
    ReadsAlternatives grammar place scope cursor.ahead values rest.ahead := by
  simp only [Parser.alternatives] at accepted
  split at accepted
  · next tail found =>
      simp only [bind_eq_ok, Prod.exists, Except.ok.injEq, Prod.mk.injEq] at accepted
      obtain ⟨next, between, nextRead, others, after, othersRead, rfl, rfl⟩ := accepted
      have nextReads := smaller.branch nextRead
      have othersReads := smaller.alternatives othersRead
      simp only [conditionalElse?] at found
      split at found
      · next accepted =>
          cases found
          obtain ⟨keyword, shape, isKeyword⟩ := TokenCursor.ahead_eq_of_accept? accepted
          rcases cursor with ⟨behind, ahead⟩
          subst shape
          exact .elseIf isKeyword nextReads othersReads
      · split at found
        · next isElseIf =>
            cases found
            simp only [Bool.and_eq_true, decide_eq_true_eq] at isElseIf
            rcases cursor with ⟨behind, _ | ⟨keyword, _ | ⟨second, tokens⟩⟩⟩
            · simp [TokenCursor.kind_eq] at isElseIf
            · simp [TokenCursor.secondKind] at isElseIf
            · exact .elseThenIf isElseIf.1 isElseIf.2 nextReads othersReads
        · simp at found
  · next notFound =>
      simp only [conditionalElse?] at notFound
      split at notFound
      · simp at notFound
      · next noElseIf =>
          split at notFound
          · simp at notFound
          · next noPair =>
              split at accepted
              · next noElse =>
                  simp only [Except.ok.injEq, Prod.mk.injEq] at accepted
                  obtain ⟨rfl, rfl⟩ := accepted
                  exact .none (TokenCursor.nextKind_ne_of_accept? noElseIf)
                    (TokenCursor.nextKind_ne_of_accept? noElse)
              · next tail taken =>
                  simp only [bind_eq_ok, Prod.exists, Except.ok.injEq,
                    Prod.mk.injEq] at accepted
                  obtain ⟨body, after, bodyRead, rfl, rfl⟩ := accepted
                  obtain ⟨keyword, shape, isElse⟩ := TokenCursor.ahead_eq_of_accept? taken
                  rcases cursor with ⟨behind, ahead⟩
                  subst shape
                  refine .otherwise isElse ?_ (smaller.block bodyRead)
                  intro isIf
                  rcases tail with ⟨tailBehind, _ | ⟨second, tokens⟩⟩
                  · simp at isIf
                  · simp only [nextKind_cons] at isIf
                    simp [TokenCursor.kind, TokenCursor.secondKind, isElse, isIf] at noPair

/-- A loop over values binds its variable in a frame around its block. -/
private theorem forLoop_step
    {keyword : Token}
    {value : Stmt}
    (isKeyword : keyword.kind = .keyword .forWord)
    (accepted :
      Parser.forLoop (budget + 1) grammar place scope keyword.position cursor =
        .ok (value, rest)) :
    ReadsStmt grammar place scope (keyword :: cursor.ahead) value scope rest.ahead := by
  simp only [Parser.forLoop, bind_eq_ok, Prod.exists] at accepted
  obtain ⟨key, afterKey, keyTaken, link, afterLink, linkTaken, accepted⟩ := accepted
  split at accepted
  · simp at accepted
  · next isIn =>
      simp only [bind_eq_ok, Prod.exists, Except.ok.injEq, Prod.mk.injEq] at accepted
      obtain ⟨bound, afterBound, boundRead, ⟨⟩, iterable, inner, isDeclared, body, after,
        bodyRead, rfl, rfl⟩ := accepted
      obtain ⟨-, rfl⟩ := declare_eq_ok.mp isDeclared
      have linkShape := ahead_eq_of_name linkTaken
      rw [Decidable.not_not.mp isIn] at linkShape
      rw [ahead_eq_of_name keyTaken, linkShape]
      exact .forEach isKeyword iterable (.of_condition boundRead) (smaller.block bodyRead)

/-- A block is a sequence of statements between braces. -/
private theorem block_step
    {value : Block}
    (accepted :
      Parser.block (budget + 1) grammar place scope cursor = .ok (value, rest)) :
    ReadsBlock grammar place scope cursor.ahead value rest.ahead := by
  simp only [Parser.block, bind_eq_ok, Prod.exists, Except.ok.injEq, Prod.mk.injEq] at accepted
  obtain ⟨opening, afterOpening, openingTaken, statements, afterStatements, statementsRead,
    closing, afterClosing, closingTaken, rfl, rfl⟩ := accepted
  obtain ⟨shape, opens⟩ := TokenCursor.ahead_eq_of_want openingTaken
  obtain ⟨innerShape, closes⟩ := TokenCursor.ahead_eq_of_want closingTaken
  rw [shape]
  exact .mk opens closes (innerShape ▸ smaller.blockStatements statementsRead)

/-- The statements of a block end at its closing brace, and each one binds what the next ones see.
-/
private theorem blockStatements_step
    {values : List Stmt}
    (accepted :
      Parser.blockStatements (budget + 1) grammar place scope cursor = .ok (values, rest)) :
    ReadsStmts grammar place scope cursor.ahead values rest.ahead := by
  simp only [Parser.blockStatements, TokenCursor.kind_eq, TokenCursor.atEnd] at accepted
  split at accepted
  · next ends =>
      simp only [Except.ok.injEq, Prod.mk.injEq] at accepted
      obtain ⟨rfl, rfl⟩ := accepted
      exact .nil (by simpa using ends)
  · next starts =>
      simp only [bind_eq_ok, Prod.exists, Except.ok.injEq, Prod.mk.injEq] at accepted
      obtain ⟨first, inner, between, firstRead, others, after, othersRead, rfl, rfl⟩ := accepted
      simp only [Bool.or_eq_true, decide_eq_true_eq, List.isEmpty_iff, not_or] at starts
      exact .cons starts.1 starts.2 (smaller.statement firstRead)
        (smaller.blockStatements othersRead)

end AcceptsStmts

/-- The functions for statements accept only what the rules read. -/
theorem acceptsStmts (budget : Nat) : AcceptsStmts budget := by
  induction budget with
  | zero =>
      constructor <;> intros <;>
        simp_all [statement, branch, alternatives, forLoop, block, blockStatements]
  | succ budget smaller =>
      exact
        { statement := smaller.statement_step
          branch := smaller.branch_step
          alternatives := smaller.alternatives_step
          forLoop := smaller.forLoop_step
          block := smaller.block_step
          blockStatements := smaller.blockStatements_step }

/-- Names that the parser accepts as parameters have commas between them and a parenthesis after
them. -/
theorem ReadsNames.of_parameterList
    {budget : Nat}
    {function : String}
    {cursor rest : TokenCursor}
    {names : List Identifier}
    (accepted : parameterList budget function cursor = .ok (names, rest)) :
    ReadsNames cursor.ahead names rest.ahead := by
  induction budget generalizing cursor names with
  | zero =>
      simp [parameterList] at accepted
  | succ budget inductionHypothesis =>
      simp only [parameterList, bind_eq_ok, Prod.exists] at accepted
      obtain ⟨first, between, nameTaken, accepted⟩ := accepted
      rw [ahead_eq_of_name nameTaken]
      split at accepted
      · next tail taken =>
          simp only [bind_eq_ok, Prod.exists, Except.ok.injEq, Prod.mk.injEq] at accepted
          obtain ⟨others, after, othersRead, rfl, rfl⟩ := accepted
          obtain ⟨comma, shape, isComma⟩ := TokenCursor.ahead_eq_of_accept? taken
          rw [shape]
          exact .more isComma (inductionHypothesis othersRead)
      · simp only [bind_eq_ok, Prod.exists, Except.ok.injEq, Prod.mk.injEq] at accepted
        obtain ⟨closing, after, wanted, rfl, rfl⟩ := accepted
        obtain ⟨shape, closes⟩ := TokenCursor.ahead_eq_of_want wanted
        rw [shape]
        exact .last closes

/-- Parameters that the parser accepts stand between parentheses. -/
theorem ReadsParameters.of_parameters
    {budget : Nat}
    {function : String}
    {cursor rest : TokenCursor}
    {names : List Identifier}
    (accepted : parameters budget function cursor = .ok (names, rest)) :
    ReadsParameters cursor.ahead names rest.ahead := by
  simp only [parameters, bind_eq_ok, Prod.exists] at accepted
  obtain ⟨opening, tail, wanted, accepted⟩ := accepted
  obtain ⟨shape, opens⟩ := TokenCursor.ahead_eq_of_want wanted
  rw [shape]
  split at accepted
  · next after taken =>
      obtain ⟨closing, closedShape, closes⟩ := TokenCursor.ahead_eq_of_accept? taken
      simp only [Except.ok.injEq, Prod.mk.injEq] at accepted
      obtain ⟨rfl, rfl⟩ := accepted
      rw [closedShape]
      exact .empty opens closes
  · exact .names opens (.of_parameterList accepted)

/-- A function can be defined exactly under a name that no known function has. -/
theorem newFunction_eq_ok
    {functions : Signatures}
    {identifier : Identifier} :
    newFunction functions identifier = .ok () ↔ functions[identifier.text]? = none := by
  unfold newFunction
  split
  · next new =>
      simp [new]
  · next signature found =>
      simp only [found, reduceCtorEq, iff_false]
      split <;> simp

section Items

variable {budget : Nat} {grammar : Grammar} {known final : Declarations}
variable {cursor rest : TokenCursor}

/-- An item that the parser accepts is a function, a type or a statement. -/
theorem ReadsItem.of_item
    {value : Item}
    (accepted : item budget grammar known cursor = .ok (value, final, rest)) :
    ReadsItem grammar known cursor.ahead value final rest.ahead := by
  simp only [item, TokenCursor.kind_eq] at accepted
  split at accepted
  · next isKeyword =>
      rcases cursor with ⟨behind, _ | ⟨keyword, tokens⟩⟩
      · simp at isKeyword
      · simp only [functionDefinition, functionBody, bind_eq_ok, Prod.exists,
          Except.ok.injEq, Prod.mk.injEq, inFunction, mapError_eq_ok] at accepted
        obtain ⟨definition, afterDefinition, ⟨identifier, afterName, nameTaken, ⟨⟩, isNew,
          names, afterNames, namesRead, body, afterBody, ⟨inside, declares, bodyRead⟩,
          rfl, rfl⟩, rfl, rfl, rfl⟩ := accepted
        have nameShape := ahead_eq_of_name nameTaken
        simp only [TokenCursor.skip_cons] at nameShape
        subst nameShape
        exact .function isKeyword (newFunction_eq_ok.mp isNew) declares
          (.of_parameters namesRead) ((acceptsStmts budget).block bodyRead)
  · next isKeyword =>
      rcases cursor with ⟨behind, _ | ⟨keyword, tokens⟩⟩
      · simp at isKeyword
      · simp only [bind_eq_ok, Prod.exists, Except.ok.injEq, Prod.mk.injEq] at accepted
        obtain ⟨identifier, after, nameTaken, scope, isDeclared, rfl, rfl, rfl⟩ := accepted
        obtain ⟨new, rfl⟩ := declare_eq_ok.mp isDeclared
        have nameShape := ahead_eq_of_name nameTaken
        simp only [TokenCursor.skip_cons] at nameShape
        subst nameShape
        exact .type isKeyword new
  · simp only [bind_eq_ok, Prod.exists, Except.ok.injEq, Prod.mk.injEq] at accepted
    obtain ⟨inner, scope, after, innerRead, rfl, rfl, rfl⟩ := accepted
    exact .statement ((acceptsStmts budget).statement innerRead)

/-- The parser of files accepts only what the rules read. -/
theorem ReadsItems.of_items
    {values : List Item}
    (accepted : items budget grammar known cursor = (final, .ok values)) :
    ReadsItems grammar known cursor.ahead values final := by
  induction budget generalizing known cursor values with
  | zero =>
      simp [items] at accepted
  | succ budget inductionHypothesis =>
      simp only [items] at accepted
      split at accepted
      · next atEnd =>
          simp only [Prod.mk.injEq, Except.ok.injEq] at accepted
          obtain ⟨rfl, rfl⟩ := accepted
          rw [List.isEmpty_iff.mp atEnd]
          exact .nil
      · split at accepted
        · simp at accepted
        · next first between rest firstRead =>
            split at accepted
            · simp at accepted
            · next after others othersRead =>
                simp only [Prod.mk.injEq, Except.ok.injEq] at accepted
                obtain ⟨rfl, rfl⟩ := accepted
                exact .cons (.of_item firstRead) (inductionHypothesis othersRead)

end Items

end Scripting.Parser
