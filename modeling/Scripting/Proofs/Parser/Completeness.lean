import Scripting.Proofs.Parser.Scoping

namespace Scripting

/-!
# The parser accepts whatever the rules read

A reading takes at least one token for every few steps of the parser, so a budget of eight steps
for each token that is taken is enough.  The proofs go by recursion on the derivation.
-/

namespace Token

@[simp] theorem sizeAll_nil : sizeAll [] = 0 := by
  simp [sizeAll]

@[simp] theorem sizeAll_cons (token : Token) (tokens : List Token) :
    sizeAll (token :: tokens) = token.size + sizeAll tokens := by
  simp [sizeAll]

/-- Tokens one after the other are as large as both parts together. -/
theorem sizeAll_append (first second : List Token) :
    sizeAll (first ++ second) = sizeAll first + sizeAll second := by
  induction first with
  | nil =>
      simp
  | cons token rest inductionHypothesis =>
      simp [inductionHypothesis, Nat.add_assoc]

@[simp] theorem size_name (text : String) (position : Position) :
    (Token.name text position).size = 1 := by
  simp [size]

@[simp] theorem size_literal (text : String) (value : Literal) (position : Position) :
    (Token.literal text value position).size = 1 := by
  simp [size]

/-- A template is larger than all that is interpolated in it. -/
@[simp] theorem size_template (parts : List Part) (position : Position) :
    (Token.template parts position).size = Part.sizeAll parts + 1 := by
  simp [size]

@[simp] theorem size_mark (fixed : Mark) (spelling : String) (position : Position) :
    (Token.mark fixed spelling position).size = 1 := by
  simp [size]

/-- Marks are of one size. -/
theorem size_of_kind {token : Token} {fixed : Mark} (isMark : token.kind = .mark fixed) :
    token.size = 1 := by
  obtain ⟨spelling, position, rfl⟩ := eq_mark_of_kind isMark
  exact size_mark ..

end Token

namespace Parser

open Token

variable {grammar : Grammar} {scope : Scope}

mutual

/-- An expression takes at least one token. -/
theorem ReadsExpr.shorter
    {tokens rest : List Token}
    {value : Expr} :
    ReadsExpr grammar scope tokens value rest → sizeAll rest < sizeAll tokens
  | .chain left operation => Nat.lt_of_le_of_lt operation.notLonger left.shorter

/-- What follows a left operand may be no operation at all, but adds no tokens. -/
theorem ReadsOperation.notLonger
    {bound : Nat}
    {left value : Expr}
    {tokens rest : List Token} :
    ReadsOperation grammar scope bound left tokens value rest → sizeAll rest ≤ sizeAll tokens
  | .stop _ => Nat.le_refl _
  | .extend _ _ first right whole => by
      have firstShorter := first.shorter
      have rightShorter := right.notLonger
      have wholeShorter := whole.notLonger
      simp only [sizeAll_cons]
      omega

/-- An operand takes at least one token. -/
theorem ReadsOperand.shorter
    {tokens rest : List Token}
    {value : Expr} :
    ReadsOperand grammar scope tokens value rest → sizeAll rest < sizeAll tokens
  | .literal => by simp
  | .template _ => by simp
  | .null => by simp
  | .name _ _ => by simp
  | .call _ call => by
      have callShorter := call.shorter
      simp only [sizeAll_cons]
      omega
  | .paren closes inner => by
      have innerShorter := inner.shorter
      simp only [sizeAll_cons] at innerShorter ⊢
      omega
  | .emptyList closes => by
      simp only [sizeAll_cons, size_mark]
      omega
  | .list _ elements => by
      have elementsShorter := elements.shorter
      simp only [sizeAll_cons]
      omega

/-- The arguments of a call take at least their parentheses. -/
theorem ReadsCall.shorter
    {function : Identifier}
    {tokens rest : List Token}
    {value : Expr} :
    ReadsCall grammar scope function tokens value rest → sizeAll rest < sizeAll tokens
  | .empty opens _ => by
      simp only [sizeAll_cons, size_of_kind opens]
      omega
  | .arguments _ _ arguments => by
      have argumentsShorter := arguments.shorter
      simp only [sizeAll_cons]
      omega

/-- Expressions up to a closing separator take at least that separator. -/
theorem ReadsExprList.shorter
    {closing : Separator}
    {tokens rest : List Token}
    {values : List Expr} :
    ReadsExprList grammar scope closing tokens values rest → sizeAll rest < sizeAll tokens
  | .last _ _ first => by
      have firstShorter := first.shorter
      simp only [sizeAll_cons] at firstShorter
      omega
  | .more _ first others => by
      have firstShorter := first.shorter
      have othersShorter := others.shorter
      simp only [sizeAll_cons] at firstShorter
      omega

end

/-- No operator is tighter than a rank if the rules say so. -/
theorem tighterOperator?_eq_none
    {bound : Nat}
    {tokens : List Token}
    (behind : List Token)
    (loose : ∀ operator, nextKind tokens = .operator operator → rank grammar operator ≤ bound) :
    tighterOperator? grammar bound ⟨behind, tokens⟩ = none := by
  simp only [tighterOperator?, TokenCursor.kind_eq, Option.filter_eq_none_iff,
    decide_eq_true_eq, Nat.not_lt]
  intro operator isOperator
  refine loose operator ?_
  revert isOperator
  generalize nextKind tokens = kind
  intro isOperator
  unfold TokenKind.operator? at isOperator
  split at isOperator <;> simp_all

/-- An operator that binds tighter than the bound is found at the next token. -/
theorem tighterOperator?_eq_some
    {bound : Nat}
    {operator : Operator}
    (behind tokens : List Token)
    {token : Token}
    (isOperator : token.kind = .operator operator)
    (tighter : bound < rank grammar operator) :
    tighterOperator? grammar bound ⟨behind, token :: tokens⟩ = some operator := by
  simp [tighterOperator?, TokenCursor.kind, isOperator, TokenKind.operator?, tighter]

/-- A reading gets from tokens to the rest of them if its budget is eight steps for each token
that is taken, and a few more. -/
def Completes {Result : Type} (extra : Nat) (tokens rest : List Token)
    (reading : Nat → TokenCursor → Except SyntaxError Result)
    (result : TokenCursor → Result) : Prop :=
  ∀ budget, 8 * sizeAll tokens + extra ≤ budget + 8 * sizeAll rest →
    ∃ passed : List Token → List Token,
      ∀ behind, reading budget ⟨behind, tokens⟩ = .ok (result ⟨passed behind, rest⟩)

/-- To complete a reading, it may be told of each budget that is enough. -/
theorem Completes.of_forall
    {Result : Type}
    {extra : Nat}
    {tokens rest : List Token}
    {reading : Nat → TokenCursor → Except SyntaxError Result}
    {result : TokenCursor → Result}
    (reads :
      ∀ budget, 8 * sizeAll tokens + extra ≤ budget + 8 * sizeAll rest →
        ∀ behind, ∃ passed, reading budget ⟨behind, tokens⟩ = .ok (result ⟨passed, rest⟩)) :
    Completes extra tokens rest reading result := by
  intro budget enough
  exact Classical.skolem.mp (reads budget enough)

/-- A reading gets from tokens to the rest of them with what its first step leaves of the budget. -/
def CompletesStep {Result : Type} (extra : Nat) (tokens rest : List Token)
    (reading : Nat → TokenCursor → Except SyntaxError Result)
    (result : TokenCursor → Result) : Prop :=
  ∀ budget, 8 * sizeAll tokens + extra ≤ budget + 1 + 8 * sizeAll rest →
    ∀ behind, ∃ passed, reading (budget + 1) ⟨behind, tokens⟩ = .ok (result ⟨passed, rest⟩)

/-- A reading completes that can pay for its first step. -/
theorem Completes.of_step
    {Result : Type}
    {extra : Nat}
    {tokens rest : List Token}
    {reading : Nat → TokenCursor → Except SyntaxError Result}
    {result : TokenCursor → Result}
    (pays : 8 * sizeAll rest < 8 * sizeAll tokens + extra)
    (steps : CompletesStep extra tokens rest reading result) :
    Completes extra tokens rest reading result := by
  refine .of_forall fun budget enough behind => ?_
  cases budget with
  | zero =>
      omega
  | succ budget =>
      exact steps budget enough behind

/-- An interpolation is read if its expression is. -/
theorem Completes.interpolation
    {tokens : List Token}
    {value : Expr}
    (completes : Completes 1 tokens [] (expr · grammar scope) (value, ·))
    {budget : Nat}
    (enough : 8 * sizeAll tokens + 2 ≤ budget) :
    interpolation budget grammar scope tokens = .ok value := by
  obtain ⟨budget, rfl⟩ : ∃ fewer, budget = fewer + 1 := ⟨budget - 1, by omega⟩
  obtain ⟨passed, read⟩ := completes budget (by simp only [sizeAll_nil]; omega)
  simp only [Parser.interpolation, TokenCursor.ofTokens, read, ok_bind, endOfInterpolation]

mutual

/-- An expression is read wherever the rules read it: first its left operand, and then the
operations. -/
theorem ReadsExpr.completes
    {tokens rest : List Token}
    {value : Expr}
    (reads : ReadsExpr grammar scope tokens value rest) :
    Completes 1 tokens rest (expr · grammar scope) (value, ·) :=
  .of_step (by have shorter := reads.shorter; omega) <| match reads with
    | .chain left operation => fun budget enough behind => by
        have leftShorter := left.shorter
        have operationShorter := operation.notLonger
        obtain ⟨between, leftRead⟩ := left.completes budget (by omega)
        obtain ⟨passed, operationRead⟩ := operation.completes budget (by omega)
        simp only [expr, leftRead, ok_bind, operationRead]
        exact ⟨_, rfl⟩
termination_by structural reads

/-- The operations after a left operand are read one by one, until no tighter operator follows. -/
theorem ReadsOperation.completes
    {bound : Nat}
    {left value : Expr}
    {tokens rest : List Token}
    (reads : ReadsOperation grammar scope bound left tokens value rest) :
    Completes 1 tokens rest (operation · grammar scope bound left) (value, ·) :=
  .of_step (by have notLonger := reads.notLonger; omega) <| match reads with
    | .stop loose => fun budget enough behind => by
        simp only [operation, tighterOperator?_eq_none behind loose]
        exact ⟨_, rfl⟩
    | .extend isOperator tighter first right whole => fun budget enough behind => by
        have firstShorter := first.shorter
        have rightShorter := right.notLonger
        have wholeShorter := whole.notLonger
        simp only [sizeAll_cons, size_of_kind isOperator] at enough
        obtain ⟨afterFirst, firstRead⟩ := first.completes budget (by omega)
        obtain ⟨afterRight, rightRead⟩ := right.completes budget (by omega)
        obtain ⟨passed, wholeRead⟩ := whole.completes budget (by omega)
        simp only [operation, tighterOperator?_eq_some behind _ isOperator tighter,
          TokenCursor.skip_cons, firstRead, ok_bind, rightRead, wholeRead]
        exact ⟨_, rfl⟩
termination_by structural reads

/-- An operand is read by the token that it starts with. -/
theorem ReadsOperand.completes
    {tokens rest : List Token}
    {value : Expr}
    (reads : ReadsOperand grammar scope tokens value rest) :
    Completes 0 tokens rest (operand · grammar scope) (value, ·) :=
  .of_step (by have shorter := reads.shorter; omega) <| match reads with
    | .literal => fun budget enough behind => by
        simp only [sizeAll_cons, size_literal] at enough
        simp only [operand, TokenCursor.next_cons, ok_bind]
        exact ⟨_, rfl⟩
    | .template parts => fun budget enough behind => by
        simp only [sizeAll_cons, size_template] at enough
        have partsRead := parts.completes budget (by omega)
        simp only [operand, TokenCursor.next_cons, ok_bind, partsRead]
        exact ⟨_, rfl⟩
    | .null => fun budget enough behind => by
        simp only [sizeAll_cons, size_mark] at enough
        simp only [operand, TokenCursor.next_cons, ok_bind]
        exact ⟨_, rfl⟩
    | .name noCall visible => fun budget enough behind => by
        simp only [sizeAll_cons, size_name] at enough
        obtain ⟨binding, found⟩ := Option.isSome_iff_exists.mp visible
        simp only [operand, TokenCursor.next_cons, ok_bind, TokenCursor.kind_eq, noCall,
          if_false, visibleName, found]
        exact ⟨_, rfl⟩
    | .call opens call => fun budget enough behind => by
        have callShorter := call.shorter
        simp only [sizeAll_cons, size_name] at enough
        obtain ⟨passed, callRead⟩ := call.completes budget (by omega)
        simp only [operand, TokenCursor.next_cons, ok_bind, TokenCursor.kind_eq, opens,
          if_true, callRead]
        exact ⟨_, rfl⟩
    | .paren closes inner => fun budget enough behind => by
        have innerShorter := inner.shorter
        simp only [sizeAll_cons, size_mark, size_of_kind closes] at enough innerShorter
        obtain ⟨passed, innerRead⟩ := inner.completes budget
          (by simp only [sizeAll_cons, size_of_kind closes]; omega)
        simp only [operand, TokenCursor.next_cons, ok_bind, innerRead,
          TokenCursor.want_cons _ _ closes]
        exact ⟨_, rfl⟩
    | .emptyList closes => fun budget enough behind => by
        simp only [sizeAll_cons, size_mark] at enough
        simp only [operand, TokenCursor.next_cons, ok_bind,
          TokenCursor.accept?_cons _ _ closes]
        exact ⟨_, rfl⟩
    | .list notEmpty elements => fun budget enough behind => by
        have elementsShorter := elements.shorter
        simp only [sizeAll_cons, size_mark] at enough
        obtain ⟨passed, elementsRead⟩ := elements.completes "list" budget (by omega)
        simp only [operand, TokenCursor.next_cons, ok_bind,
          TokenCursor.accept?_eq_none _ notEmpty, elementsRead]
        exact ⟨_, rfl⟩
termination_by structural reads

/-- A call is read with the arguments between its parentheses. -/
theorem ReadsCall.completes
    {function : Identifier}
    {tokens rest : List Token}
    {value : Expr}
    (reads : ReadsCall grammar scope function tokens value rest) :
    Completes 0 tokens rest (call · grammar scope function) (value, ·) :=
  .of_step (by have shorter := reads.shorter; omega) <| match reads with
    | .empty opens closes => fun budget enough behind => by
        simp only [sizeAll_cons, size_of_kind opens, size_of_kind closes] at enough
        simp only [call, TokenCursor.want_cons _ _ opens, ok_bind,
          TokenCursor.accept?_cons _ _ closes]
        exact ⟨_, rfl⟩
    | .arguments opens notEmpty arguments => fun budget enough behind => by
        have argumentsShorter := arguments.shorter
        simp only [sizeAll_cons, size_of_kind opens] at enough
        obtain ⟨passed, argumentsRead⟩ :=
          arguments.completes ("arguments of " ++ function.text) budget (by omega)
        simp only [call, TokenCursor.want_cons _ _ opens, ok_bind,
          TokenCursor.accept?_eq_none _ notEmpty, argumentsRead]
        exact ⟨_, rfl⟩
termination_by structural reads

/-- Expressions with commas between them are read up to the closing separator. -/
theorem ReadsExprList.completes
    {closing : Separator}
    {tokens rest : List Token}
    {values : List Expr}
    (reads : ReadsExprList grammar scope closing tokens values rest)
    (context : String) :
    Completes 0 tokens rest (exprList · grammar scope closing context) (values, ·) :=
  .of_step (by have shorter := reads.shorter; omega) <| match reads with
    | .last noComma closes first => fun budget enough behind => by
        have firstShorter := first.shorter
        simp only [sizeAll_cons, size_of_kind closes] at firstShorter
        obtain ⟨passed, firstRead⟩ := first.completes budget
          (by simp only [sizeAll_cons, size_of_kind closes]; omega)
        simp only [exprList, firstRead, ok_bind,
          TokenCursor.accept?_eq_none _ (show nextKind (_ :: _) ≠ _ from noComma),
          TokenCursor.want_cons _ _ closes]
        exact ⟨_, rfl⟩
    | .more isComma first others => fun budget enough behind => by
        have firstShorter := first.shorter
        have othersShorter := others.shorter
        simp only [sizeAll_cons, size_of_kind isComma] at firstShorter
        obtain ⟨between, firstRead⟩ := first.completes budget
          (by simp only [sizeAll_cons, size_of_kind isComma]; omega)
        obtain ⟨passed, othersRead⟩ := others.completes context budget (by omega)
        simp only [exprList, firstRead, ok_bind, TokenCursor.accept?_cons _ _ isComma,
          othersRead]
        exact ⟨_, rfl⟩
termination_by structural reads

/-- The parts of a template are read one by one, with a budget for the tokens inside them. -/
theorem ReadsParts.completes
    {position : Position}
    {parts : List Part}
    {values : List Expr} :
    ReadsParts grammar scope position parts values →
    ∀ budget, 8 * Part.sizeAll parts + 1 ≤ budget →
      templateParts budget grammar scope position parts = .ok values
  | .nil, budget, enough => by
      obtain ⟨budget, rfl⟩ : ∃ fewer, budget = fewer + 1 := ⟨budget - 1, by omega⟩
      simp only [templateParts]
  | .fragment others, budget, enough => by
      simp only [Part.sizeAll, Part.size] at enough
      obtain ⟨budget, rfl⟩ : ∃ fewer, budget = fewer + 1 := ⟨budget - 1, by omega⟩
      simp only [templateParts, others.completes budget (by omega), ok_bind]
  | .interpolation first others, budget, enough => by
      simp only [Part.sizeAll, Part.size] at enough
      obtain ⟨budget, rfl⟩ : ∃ fewer, budget = fewer + 1 := ⟨budget - 1, by omega⟩
      have firstRead := first.completes.interpolation (show _ ≤ budget by omega)
      have othersRead := others.completes budget (by omega)
      simp only [templateParts, firstRead, inTemplate, mapError_ok, ok_bind, othersRead]

end

/-- A condition takes at least its parentheses. -/
theorem ReadsCondition.shorter
    {tokens rest : List Token}
    {test : Expr} :
    ReadsCondition grammar scope tokens test rest → sizeAll rest < sizeAll tokens
  | .mk opens closes inner => by
      have innerShorter := inner.shorter
      simp only [sizeAll_cons] at innerShorter ⊢
      omega

/-- A condition is read between its parentheses. -/
theorem ReadsCondition.completes
    {tokens rest : List Token}
    {test : Expr} :
    ReadsCondition grammar scope tokens test rest →
    ∀ context, Completes 0 tokens rest (condition · grammar scope context) (test, ·)
  | .mk opens closes inner, context => .of_forall fun budget enough behind => by
      have innerShorter := inner.shorter
      simp only [sizeAll_cons, size_of_kind opens, size_of_kind closes] at enough innerShorter
      obtain ⟨passed, innerRead⟩ := inner.completes budget
        (by simp only [sizeAll_cons, size_of_kind closes]; omega)
      simp only [condition, TokenCursor.want_cons _ _ opens, ok_bind, innerRead,
        TokenCursor.want_cons _ _ closes]
      exact ⟨_, rfl⟩

mutual

/-- A statement takes at least one token. -/
theorem ReadsStmt.shorter
    {place : Place}
    {scope inside : Scope}
    {tokens rest : List Token}
    {statement : Stmt} :
    ReadsStmt grammar place scope tokens statement inside rest →
    sizeAll rest < sizeAll tokens
  | .declare _ _ _ value => by
      have valueShorter := value.shorter
      simp only [sizeAll_cons]
      omega
  | .assignNew _ _ _ value => by
      have valueShorter := value.shorter
      simp only [sizeAll_cons]
      omega
  | .assignOld _ _ _ value => by
      have valueShorter := value.shorter
      simp only [sizeAll_cons]
      omega
  | .call _ call operation => by
      have callShorter := call.shorter
      have operationShorter := operation.notLonger
      simp only [sizeAll_cons]
      omega
  | .operate _ _ operation => by
      have operationShorter := operation.notLonger
      simp only [sizeAll_cons, size_name]
      omega
  | .choice _ first others => by
      have firstShorter := first.shorter
      have othersShorter := others.notLonger
      simp only [sizeAll_cons]
      omega
  | .forEach _ _ bound body => by
      have boundShorter := bound.shorter
      have bodyShorter := body.shorter
      simp only [sizeAll_cons]
      omega
  | .whileLoop _ test body => by
      have testShorter := test.shorter
      have bodyShorter := body.shorter
      simp only [sizeAll_cons]
      omega
  | .returnNothing isKeyword _ _ => by
      simp only [sizeAll_cons, size_of_kind isKeyword]
      omega
  | .returnValue _ _ _ value => by
      have valueShorter := value.shorter
      simp only [sizeAll_cons]
      omega
  | .control isKeyword _ => by
      simp only [sizeAll_cons, size_of_kind isKeyword]
      omega

/-- A branch takes at least its condition and its braces. -/
theorem ReadsBranch.shorter
    {place : Place}
    {scope : Scope}
    {position : Position}
    {context : String}
    {tokens rest : List Token}
    {branch : Branch} :
    ReadsBranch grammar place scope position context tokens branch rest →
    sizeAll rest < sizeAll tokens
  | .mk test body => Nat.lt_trans body.shorter test.shorter

/-- There may be no alternatives, but they add no tokens. -/
theorem ReadsAlternatives.notLonger
    {place : Place}
    {scope : Scope}
    {tokens rest : List Token}
    {branches : List Branch} :
    ReadsAlternatives grammar place scope tokens branches rest →
    sizeAll rest ≤ sizeAll tokens
  | .elseIf _ next others => by
      have nextShorter := next.shorter
      have othersShorter := others.notLonger
      simp only [sizeAll_cons]
      omega
  | .elseThenIf _ _ next others => by
      have nextShorter := next.shorter
      have othersShorter := others.notLonger
      simp only [sizeAll_cons]
      omega
  | .otherwise _ _ body => by
      have bodyShorter := body.shorter
      simp only [sizeAll_cons]
      omega
  | .none _ _ => Nat.le_refl _

/-- A block takes at least its braces. -/
theorem ReadsBlock.shorter
    {place : Place}
    {scope : Scope}
    {tokens rest : List Token}
    {body : Block} :
    ReadsBlock grammar place scope tokens body rest → sizeAll rest < sizeAll tokens
  | .mk opens closes statements => by
      have statementsShorter := statements.notLonger
      simp only [sizeAll_cons, size_of_kind opens, size_of_kind closes] at statementsShorter ⊢
      omega

/-- There may be no statements, but they add no tokens. -/
theorem ReadsStmts.notLonger
    {place : Place}
    {scope : Scope}
    {tokens rest : List Token}
    {statements : List Stmt} :
    ReadsStmts grammar place scope tokens statements rest →
    sizeAll rest ≤ sizeAll tokens
  | .nil _ => Nat.le_refl _
  | .cons _ _ first others =>
      Nat.le_trans others.notLonger (Nat.le_of_lt first.shorter)

end

/-- An alternative without a condition does not start with a condition. -/
theorem conditionalElse?_of_else
    {keyword : Token}
    {tokens : List Token}
    (behind : List Token)
    (isElse : keyword.kind = .keyword .elseWord)
    (noIf : nextKind tokens ≠ .keyword .ifWord) :
    conditionalElse? ⟨behind, keyword :: tokens⟩ = none := by
  have noElseIf : nextKind (keyword :: tokens) ≠ .keyword .elseIfWord := by simp [isElse]
  cases tokens with
  | nil =>
      simp [conditionalElse?, TokenCursor.accept?_eq_none behind noElseIf,
        TokenCursor.secondKind]
  | cons second others =>
      simp only [nextKind_cons] at noIf
      simp [conditionalElse?, TokenCursor.accept?_eq_none behind noElseIf,
        TokenCursor.secondKind, noIf]

/-- Where neither keyword of an alternative follows, there is none with a condition. -/
theorem conditionalElse?_of_other
    {tokens : List Token}
    (behind : List Token)
    (noElseIf : nextKind tokens ≠ .keyword .elseIfWord)
    (noElse : nextKind tokens ≠ .keyword .elseWord) :
    conditionalElse? ⟨behind, tokens⟩ = none := by
  simp [conditionalElse?, TokenCursor.accept?_eq_none behind noElseIf, TokenCursor.kind_eq,
    noElse]

/-- In a frame that has just been opened every name can be declared. -/
theorem declare_push
    (scope : Scope)
    (comment : String)
    (identifier : Identifier)
    (mutable : Bool) :
    declare (scope.push comment) identifier mutable =
      .ok ((scope.push comment).define identifier.text ⟨mutable, identifier.position⟩) := by
  simp [declare, ScopeChain.current, ScopeChain.push]

section Statements

variable {place : Place} {tokens rest : List Token} {value : Expr} {keyword : Token}

/-- A declaration of a variable is read with its value. -/
private theorem completes_declare
    {mutable : Bool}
    {text : String}
    {position : Position}
    {sign : Token}
    (isKeyword :
      keyword.kind = .keyword (if mutable then .mutableVarWord else .varWord))
    (isSign : sign.kind = .assign)
    (new : scope.current.find? text = none)
    (inner : ReadsExpr grammar scope tokens value rest) :
    CompletesStep 0 (keyword :: .name text position :: sign :: tokens) rest
      (statement · grammar place scope)
      (.declare mutable ⟨text, position⟩ value keyword.position,
        scope.define text ⟨mutable, position⟩, ·) := by
  intro budget enough behind
  have innerShorter := inner.shorter
  simp only [sizeAll_cons, size_of_kind isKeyword, size_of_kind isSign, size_name] at enough
  obtain ⟨passed, innerRead⟩ := inner.completes budget (by omega)
  obtain ⟨spelling, place, rfl⟩ := eq_mark_of_kind isKeyword
  cases mutable <;>
    simp only [statement, TokenCursor.next_cons, ok_bind, declaration, name_cons,
      TokenCursor.want_cons _ _ isSign, innerRead, declare, new, Bool.false_eq_true,
      if_false, if_true] <;>
    exact ⟨_, rfl⟩

/-- A return without a value is read if no value follows on its line. -/
private theorem completes_returnNothing
    (isKeyword : keyword.kind = .keyword .returnWord)
    (allowed : place.inFunction = true)
    (noValue : valueFollows keyword tokens = false) :
    CompletesStep 0 (keyword :: tokens) tokens (statement · grammar place scope)
      (.return none keyword.position, scope, ·) := by
  intro budget enough behind
  simp only [sizeAll_cons, size_of_kind isKeyword] at enough
  obtain ⟨spelling, position, rfl⟩ := eq_mark_of_kind isKeyword
  simp only [statement, TokenCursor.next_cons, ok_bind, returnStatement, allowed, Bool.not_true,
    Bool.false_eq_true, if_false]
  cases tokens with
  | nil =>
      exact ⟨_, rfl⟩
  | cons next others =>
      simp only [valueFollows] at noValue
      simp only [noValue, Bool.false_eq_true, if_false]
      exact ⟨_, rfl⟩

/-- A return with a value is read with the expression that follows on its line. -/
private theorem completes_returnValue
    (isKeyword : keyword.kind = .keyword .returnWord)
    (allowed : place.inFunction = true)
    (hasValue : valueFollows keyword tokens = true)
    (inner : ReadsExpr grammar scope tokens value rest) :
    CompletesStep 0 (keyword :: tokens) rest (statement · grammar place scope)
      (.return (some value) keyword.position, scope, ·) := by
  intro budget enough behind
  have innerShorter := inner.shorter
  simp only [sizeAll_cons, size_of_kind isKeyword] at enough
  obtain ⟨passed, innerRead⟩ := inner.completes budget (by omega)
  obtain ⟨spelling, position, rfl⟩ := eq_mark_of_kind isKeyword
  simp only [statement, TokenCursor.next_cons, ok_bind, returnStatement, allowed, Bool.not_true,
    Bool.false_eq_true, if_false]
  cases tokens with
  | nil =>
      cases hasValue
  | cons next others =>
      simp only [valueFollows] at hasValue
      simp only [hasValue, if_true, innerRead, ok_bind]
      exact ⟨_, rfl⟩

/-- A break or a continue is read inside a loop. -/
private theorem completes_control
    {kind : LoopControl}
    (isKeyword : keyword.kind = .keyword kind.keyword)
    (allowed : place.inLoop = true) :
    CompletesStep 0 (keyword :: tokens) tokens (statement · grammar place scope)
      (.control kind keyword.position, scope, ·) := by
  intro budget enough behind
  simp only [sizeAll_cons, size_of_kind isKeyword] at enough
  obtain ⟨spelling, position, rfl⟩ := eq_mark_of_kind isKeyword
  cases kind <;>
    simp only [LoopControl.keyword, statement, TokenCursor.next_cons, ok_bind, loopControl,
      allowed, if_true] <;>
    exact ⟨_, rfl⟩

end Statements

mutual

/-- A statement is read by the keyword or the name that it starts with. -/
theorem ReadsStmt.completes
    {place : Place}
    {scope inside : Scope}
    {tokens rest : List Token}
    {value : Stmt}
    (reads : ReadsStmt grammar place scope tokens value inside rest) :
    Completes 0 tokens rest (statement · grammar place scope) (value, inside, ·) :=
  .of_step (by have shorter := reads.shorter; omega) <| match reads with
    | .declare isKeyword isSign new inner => completes_declare isKeyword isSign new inner
    | .assignNew isSign lenient new inner => fun budget enough behind => by
        have innerShorter := inner.shorter
        simp only [sizeAll_cons, size_of_kind isSign, size_name] at enough
        obtain ⟨passed, innerRead⟩ := inner.completes budget (by omega)
        have free := ScopeChain.current_find?_eq_none new
        simp only [statement, TokenCursor.next_cons, ok_bind, nameStatement, TokenCursor.kind,
          isSign, TokenCursor.skip_cons, assignment, innerRead, new, lenient, declare, free,
          Bool.false_eq_true, if_false]
        exact ⟨_, rfl⟩
    | .assignOld isSign known isMutable inner => fun budget enough behind => by
        have innerShorter := inner.shorter
        simp only [sizeAll_cons, size_of_kind isSign, size_name] at enough
        obtain ⟨passed, innerRead⟩ := inner.completes budget (by omega)
        simp only [statement, TokenCursor.next_cons, ok_bind, nameStatement, TokenCursor.kind,
          isSign, TokenCursor.skip_cons, assignment, innerRead, known, isMutable, if_true]
        exact ⟨_, rfl⟩
    | .call opens arguments operation => fun budget enough behind => by
        have argumentsShorter := arguments.shorter
        have operationShorter := operation.notLonger
        simp only [sizeAll_cons, size_name] at enough
        obtain ⟨between, argumentsRead⟩ := arguments.completes budget (by omega)
        obtain ⟨passed, operationRead⟩ := operation.completes budget (by omega)
        simp only [statement, TokenCursor.next_cons, ok_bind, nameStatement, TokenCursor.kind_eq,
          opens, argumentsRead, operationRead]
        exact ⟨_, rfl⟩
    | .operate isOperator visible operation => fun budget enough behind => by
        have operationShorter := operation.notLonger
        simp only [sizeAll_cons, size_name] at enough
        obtain ⟨passed, operationRead⟩ := operation.completes budget (by omega)
        obtain ⟨binding, found⟩ := Option.isSome_iff_exists.mp visible
        simp only [statement, TokenCursor.next_cons, ok_bind, nameStatement, TokenCursor.kind_eq,
          isOperator, visibleName, found, operationRead]
        exact ⟨_, rfl⟩
    | .choice isKeyword first others => fun budget enough behind => by
        have firstShorter := first.shorter
        have othersShorter := others.notLonger
        simp only [sizeAll_cons, size_of_kind isKeyword] at enough
        obtain ⟨between, firstRead⟩ := first.completes budget (by omega)
        obtain ⟨passed, othersRead⟩ := others.completes budget (by omega)
        obtain ⟨spelling, position, rfl⟩ := eq_mark_of_kind isKeyword
        simp only [Token.position] at firstRead
        simp only [statement, TokenCursor.next_cons, ok_bind, firstRead, othersRead]
        exact ⟨_, rfl⟩
    | .forEach isKeyword iterable bound body => fun budget enough behind => by
        have boundShorter := bound.shorter
        have bodyShorter := body.shorter
        simp only [sizeAll_cons, size_of_kind isKeyword, size_name] at enough
        obtain ⟨budget, rfl⟩ : ∃ fewer, budget = fewer + 1 := ⟨budget - 1, by omega⟩
        obtain ⟨spelling, position, rfl⟩ := eq_mark_of_kind isKeyword
        obtain ⟨between, boundRead⟩ := bound.completes "for loop bound" budget (by omega)
        obtain ⟨passed, bodyRead⟩ := body.completes budget (by omega)
        dsimp only
        rw [statement]
        simp only [TokenCursor.next_cons, ok_bind, forLoop, name_cons, ne_eq, not_true_eq_false,
          if_false, boundRead, iterable, declare_push, bodyRead]
        exact ⟨_, rfl⟩
    | .whileLoop isKeyword test body => fun budget enough behind => by
        have testShorter := test.shorter
        have bodyShorter := body.shorter
        simp only [sizeAll_cons, size_of_kind isKeyword] at enough
        obtain ⟨spelling, position, rfl⟩ := eq_mark_of_kind isKeyword
        obtain ⟨between, testRead⟩ := test.completes "while loop" budget (by omega)
        obtain ⟨passed, bodyRead⟩ := body.completes budget (by omega)
        simp only [statement, TokenCursor.next_cons, ok_bind, testRead, bodyRead]
        exact ⟨_, rfl⟩
    | .returnNothing isKeyword allowed noValue =>
        completes_returnNothing isKeyword allowed noValue
    | .returnValue isKeyword allowed hasValue inner =>
        completes_returnValue isKeyword allowed hasValue inner
    | .control isKeyword allowed => completes_control isKeyword allowed
termination_by structural reads

/-- A branch is read with its condition and its block. -/
theorem ReadsBranch.completes
    {place : Place}
    {scope : Scope}
    {position : Position}
    {context : String}
    {tokens rest : List Token}
    {value : Branch}
    (reads : ReadsBranch grammar place scope position context tokens value rest) :
    Completes 0 tokens rest (branch · grammar place scope position context) (value, ·) :=
  .of_step (by have shorter := reads.shorter; omega) <| match reads with
    | .mk test body => fun budget enough behind => by
        have testShorter := test.shorter
        have bodyShorter := body.shorter
        obtain ⟨between, testRead⟩ := test.completes context budget (by omega)
        obtain ⟨passed, bodyRead⟩ := body.completes budget (by omega)
        simp only [branch, testRead, ok_bind, bodyRead]
        exact ⟨_, rfl⟩
termination_by structural reads

/-- Alternatives are read one by one, as long as each has a condition. -/
theorem ReadsAlternatives.completes
    {place : Place}
    {scope : Scope}
    {tokens rest : List Token}
    {values : List Branch}
    (reads : ReadsAlternatives grammar place scope tokens values rest) :
    Completes 1 tokens rest (alternatives · grammar place scope) (values, ·) :=
  .of_step (by have notLonger := reads.notLonger; omega) <| match reads with
    | .elseIf isKeyword next others => fun budget enough behind => by
        have nextShorter := next.shorter
        have othersShorter := others.notLonger
        simp only [sizeAll_cons, size_of_kind isKeyword] at enough
        obtain ⟨between, nextRead⟩ := next.completes budget (by omega)
        obtain ⟨passed, othersRead⟩ := others.completes budget (by omega)
        simp only [alternatives, conditionalElse?, TokenCursor.accept?_cons _ _ isKeyword,
          TokenCursor.position, nextRead, ok_bind, othersRead]
        exact ⟨_, rfl⟩
    | .elseThenIf isElse isIf next others => fun budget enough behind => by
        have nextShorter := next.shorter
        have othersShorter := others.notLonger
        simp only [sizeAll_cons, size_of_kind isElse, size_of_kind isIf] at enough
        obtain ⟨between, nextRead⟩ := next.completes budget (by omega)
        obtain ⟨passed, othersRead⟩ := others.completes budget (by omega)
        simp only [alternatives, conditionalElse?, TokenCursor.accept?, isElse, isIf,
          TokenCursor.kind, TokenCursor.secondKind, TokenCursor.skip_cons, TokenCursor.position,
          nextRead, ok_bind, othersRead, TokenKind.mark.injEq, Mark.keyword.injEq, reduceCtorEq,
          if_false, decide_true, Bool.and_self, if_true]
        exact ⟨_, rfl⟩
    | .otherwise isElse noIf body => fun budget enough behind => by
        have bodyShorter := body.shorter
        simp only [sizeAll_cons, size_of_kind isElse] at enough
        obtain ⟨passed, bodyRead⟩ := body.completes budget (by omega)
        have noConditional := conditionalElse?_of_else behind isElse noIf
        simp only [alternatives, noConditional, TokenCursor.accept?_cons _ _ isElse, bodyRead,
          ok_bind, TokenCursor.position]
        exact ⟨_, rfl⟩
    | .none noElseIf noElse => fun budget enough behind => by
        have noConditional := conditionalElse?_of_other behind noElseIf noElse
        simp only [alternatives, noConditional, TokenCursor.accept?_eq_none _ noElse]
        exact ⟨_, rfl⟩
termination_by structural reads

/-- A block is read between its braces, in a frame of its own. -/
theorem ReadsBlock.completes
    {place : Place}
    {scope : Scope}
    {tokens rest : List Token}
    {value : Block}
    (reads : ReadsBlock grammar place scope tokens value rest) :
    Completes 0 tokens rest (block · grammar place scope) (value, ·) :=
  .of_step (by have shorter := reads.shorter; omega) <| match reads with
    | .mk opens closes statements => fun budget enough behind => by
        have statementsShorter := statements.notLonger
        simp only [sizeAll_cons, size_of_kind opens, size_of_kind closes]
          at enough statementsShorter
        obtain ⟨passed, statementsRead⟩ := statements.completes budget
          (by simp only [sizeAll_cons, size_of_kind closes]; omega)
        simp only [block, TokenCursor.want_cons _ _ opens, ok_bind, statementsRead,
          TokenCursor.want_cons _ _ closes]
        exact ⟨_, rfl⟩
termination_by structural reads

/-- The statements of a block are read up to its closing brace. -/
theorem ReadsStmts.completes
    {place : Place}
    {scope : Scope}
    {tokens rest : List Token}
    {values : List Stmt}
    (reads : ReadsStmts grammar place scope tokens values rest) :
    Completes 1 tokens rest (blockStatements · grammar place scope) (values, ·) :=
  .of_step (by have notLonger := reads.notLonger; omega) <| match reads with
    | .nil ends => fun budget enough behind => by
        simp only [blockStatements, TokenCursor.kind_eq, TokenCursor.atEnd]
        rw [if_pos (by simpa using ends)]
        exact ⟨_, rfl⟩
    | .cons starts notEmpty first others => fun budget enough behind => by
        have firstShorter := first.shorter
        have othersShorter := others.notLonger
        obtain ⟨between, firstRead⟩ := first.completes budget (by omega)
        obtain ⟨passed, othersRead⟩ := others.completes budget (by omega)
        simp only [blockStatements, TokenCursor.kind_eq, TokenCursor.atEnd, starts, decide_false,
          Bool.false_or, List.isEmpty_iff, notEmpty, if_false, firstRead, ok_bind, othersRead]
        exact ⟨_, rfl⟩
termination_by structural reads

end

/-- A list of names takes at least one token. -/
theorem ReadsNames.shorter
    {tokens rest : List Token}
    {names : List Identifier}
    (reads : ReadsNames tokens names rest) :
    sizeAll rest < sizeAll tokens := by
  induction reads with
  | last closes =>
      simp only [sizeAll_cons, size_name]
      omega
  | more isComma _ inductionHypothesis =>
      simp only [sizeAll_cons]
      omega

/-- A list of names starts with a name. -/
theorem ReadsNames.nextKind_eq
    {tokens rest : List Token}
    {names : List Identifier}
    (reads : ReadsNames tokens names rest) :
    nextKind tokens = .name := by
  cases reads <;> rfl

/-- Names with commas between them are read as parameters. -/
theorem ReadsNames.completes
    {tokens rest : List Token}
    {names : List Identifier}
    (reads : ReadsNames tokens names rest)
    (function : String) :
    Completes 0 tokens rest (parameterList · function) (names, ·) := by
  induction reads with
  | @last text position closing after closes =>
      refine .of_step (by simp only [sizeAll_cons, size_name]; omega) fun budget enough behind => ?_
      have noComma : nextKind (closing :: after) ≠ .separator .comma := by simp [closes]
      simp only [parameterList, name_cons, ok_bind, TokenCursor.accept?_eq_none _ noComma,
        TokenCursor.want_cons _ _ closes]
      exact ⟨_, rfl⟩
  | more isComma others inductionHypothesis =>
      have othersShorter := others.shorter
      refine .of_step (by simp only [sizeAll_cons]; omega) fun budget enough behind => ?_
      simp only [sizeAll_cons, size_name, size_of_kind isComma] at enough
      obtain ⟨passed, othersRead⟩ := inductionHypothesis budget (by omega)
      simp only [parameterList, name_cons, ok_bind, TokenCursor.accept?_cons _ _ isComma,
        othersRead]
      exact ⟨_, rfl⟩

/-- Parameters take at least their parentheses. -/
theorem ReadsParameters.shorter
    {tokens rest : List Token}
    {names : List Identifier}
    (reads : ReadsParameters tokens names rest) :
    sizeAll rest < sizeAll tokens := by
  cases reads with
  | empty opens closes =>
      simp only [sizeAll_cons, size_of_kind opens]
      omega
  | names opens inner =>
      have innerShorter := inner.shorter
      simp only [sizeAll_cons]
      omega

/-- Parameters are read between their parentheses, if there are any. -/
theorem ReadsParameters.completes
    {tokens rest : List Token}
    {names : List Identifier}
    (reads : ReadsParameters tokens names rest)
    (function : String) :
    Completes 0 tokens rest (parameters · function) (names, ·) := by
  refine .of_forall fun budget enough behind => ?_
  cases reads with
  | empty opens closes =>
      simp only [parameters, TokenCursor.want_cons _ _ opens, ok_bind,
        TokenCursor.accept?_cons _ _ closes]
      exact ⟨_, rfl⟩
  | @names tokens _ _ opening opens inner =>
      simp only [sizeAll_cons, size_of_kind opens] at enough
      obtain ⟨passed, innerRead⟩ := inner.completes function budget (by omega)
      have notEmpty : nextKind tokens ≠ .separator .rightParen := by simp [inner.nextKind_eq]
      simp only [parameters, TokenCursor.want_cons _ _ opens, ok_bind,
        TokenCursor.accept?_eq_none _ notEmpty, innerRead]
      exact ⟨_, rfl⟩

/-- An item of a file takes at least one token. -/
theorem ReadsItem.shorter
    {known between : Declarations}
    {tokens rest : List Token}
    {value : Item}
    (reads : ReadsItem grammar known tokens value between rest) :
    sizeAll rest < sizeAll tokens := by
  cases reads with
  | function _ _ _ names body =>
      have namesShorter := names.shorter
      have bodyShorter := body.shorter
      simp only [sizeAll_cons]
      omega
  | type isKeyword _ =>
      simp only [sizeAll_cons, size_name]
      omega
  | statement inner =>
      exact inner.shorter

/-- The kinds of the tokens that statements start with. -/
def startsStatement : TokenKind → Bool
  | .name => true
  | .keyword word =>
      [.varWord, .mutableVarWord, .ifWord, .forWord, .whileWord, .returnWord, .breakWord,
        .continueWord].contains word
  | _ => false

/-- A statement starts with a token that statements start with. -/
theorem ReadsStmt.starts
    {place : Place}
    {scope inside : Scope}
    {tokens rest : List Token}
    {value : Stmt}
    (reads : ReadsStmt grammar place scope tokens value inside rest) :
    startsStatement (nextKind tokens) = true := by
  cases reads with
  | declare isKeyword =>
      rw [nextKind_cons, isKeyword]
      split <;> rfl
  | choice isKeyword =>
      rw [nextKind_cons, isKeyword]
      rfl
  | forEach isKeyword =>
      rw [nextKind_cons, isKeyword]
      rfl
  | whileLoop isKeyword =>
      rw [nextKind_cons, isKeyword]
      rfl
  | returnNothing isKeyword =>
      rw [nextKind_cons, isKeyword]
      rfl
  | returnValue isKeyword =>
      rw [nextKind_cons, isKeyword]
      rfl
  | control isKeyword =>
      rw [nextKind_cons, isKeyword]
      unfold LoopControl.keyword
      split <;> rfl
  | _ =>
      rfl

/-- An item is read as a function by its keyword, and as a statement otherwise. -/
theorem ReadsItem.completes
    {known between : Declarations}
    {tokens rest : List Token}
    {value : Item}
    (reads : ReadsItem grammar known tokens value between rest) :
    Completes 0 tokens rest (item · grammar known) (value, between, ·) := by
  refine .of_forall fun budget enough behind => ?_
  cases reads with
  | @function text _ _ _ _ _ _ _ _ _ isKeyword new declares names body =>
      have namesShorter := names.shorter
      have bodyShorter := body.shorter
      simp only [sizeAll_cons] at enough
      obtain ⟨between, namesRead⟩ := names.completes text budget (by omega)
      obtain ⟨passed, bodyRead⟩ := body.completes budget (by omega)
      simp only [item, TokenCursor.kind, isKeyword, functionDefinition, TokenCursor.skip_cons,
        name_cons, ok_bind, newFunction, new, namesRead, functionBody, declares,
        bodyRead, inFunction, mapError_ok, TokenCursor.position]
      exact ⟨_, rfl⟩
  | type isKeyword new =>
      simp only [item, TokenCursor.kind, isKeyword, TokenCursor.skip_cons, name_cons, ok_bind,
        declare, new, TokenCursor.position]
      exact ⟨_, rfl⟩
  | statement inner =>
      obtain ⟨passed, innerRead⟩ := inner.completes budget enough
      have starts := inner.starts
      simp only [item, TokenCursor.kind_eq]
      split
      · next isFunction =>
          simp [isFunction, startsStatement] at starts
      · next isType =>
          simp [isType, startsStatement] at starts
      · simp only [innerRead, ok_bind]
        exact ⟨_, rfl⟩

/-- The items of a file are read one by one up to the last token. -/
theorem ReadsItems.completes
    {known final : Declarations}
    {tokens : List Token}
    {values : List Item}
    (reads : ReadsItems grammar known tokens values final)
    {budget : Nat}
    (enough : 8 * sizeAll tokens + 1 ≤ budget)
    (behind : List Token) :
    items budget grammar known ⟨behind, tokens⟩ = (final, .ok values) := by
  induction reads generalizing budget behind with
  | nil =>
      obtain ⟨budget, rfl⟩ : ∃ fewer, budget = fewer + 1 := ⟨budget - 1, by omega⟩
      simp [items, TokenCursor.atEnd]
  | @cons known tokens first between rest others final firstReads _ inductionHypothesis =>
      have firstShorter := firstReads.shorter
      obtain ⟨budget, rfl⟩ : ∃ fewer, budget = fewer + 1 := ⟨budget - 1, by omega⟩
      obtain ⟨passed, firstRead⟩ := firstReads.completes budget (by omega)
      have othersRead := inductionHypothesis (show _ ≤ budget by omega) (passed behind)
      have notEmpty : tokens ≠ [] := by
        rintro rfl
        simp at firstShorter
      simp only [items, TokenCursor.atEnd, List.isEmpty_iff, notEmpty, if_false, firstRead,
        othersRead]

/-- A call that is resolved passes the check. -/
theorem checkCall_of_resolved
    {functions : Signatures}
    {call : CallSite}
    (resolved : call.Resolved functions) :
    checkCall functions call = .ok () := by
  obtain ⟨signature, found, sameArity⟩ := resolved
  simp only [checkCall, found]
  cases takes : signature.arity with
  | none =>
      rfl
  | some arity =>
      simp [sameArity arity takes]

/-- Calls that are resolved pass the check. -/
theorem checkCalls_of_resolve
    {functions : Signatures}
    {calls : List CallSite}
    (resolve : functions.Resolve calls) :
    checkCalls functions calls = .ok () := by
  induction calls with
  | nil =>
      rfl
  | cons first rest inductionHypothesis =>
      have firstChecked := checkCall_of_resolved (resolve first (by simp))
      have restChecked := inductionHypothesis fun call isIn => resolve call (by simp [isIn])
      simp only [checkCalls, firstChecked, ok_bind, restChecked]

end Parser

/-- A token sequence that the rules read, and whose calls are resolved, is accepted. -/
theorem parseTokens_of_reads
    {grammar : Grammar}
    {known final : Declarations}
    {tokens : List Token}
    {values : List Item}
    (reads : Parser.ReadsItems grammar known tokens values final)
    (resolve : final.functions.Resolve (values.flatMap Item.calls)) :
    parseTokens grammar known tokens =
      ⟨final.scope, final.functions, .ok ⟨values, (TokenCursor.ofTokens tokens).position⟩⟩ := by
  have enough : 8 * Token.sizeAll tokens + 1 ≤ Parser.budgetFor tokens := by
    simp only [Parser.budgetFor]
    omega
  have read := reads.completes enough []
  have checked := Parser.checkCalls_of_resolve resolve
  simp only [parseTokens, TokenCursor.ofTokens, read, File.calls, checked]

end Scripting
