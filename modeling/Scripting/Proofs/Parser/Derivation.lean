import Scripting.Proofs.Grammar
import Scripting.Proofs.Parser.Completeness

namespace Scripting

/-!
# Accepted files account for every token

Whatever the reading rules read is derived by the grammar from the tokens that the reading takes.
Hence a file that the parser accepts is derived from all of its tokens.
-/

/-- Where tokens start does not depend on what comes after them. -/
theorem StartsAt.append
    {tokens : List Token}
    {position : Position}
    (starts : StartsAt tokens position)
    (more : List Token) :
    StartsAt (tokens ++ more) position := by
  cases tokens with
  | nil =>
      cases starts
  | cons first rest =>
      exact starts

/-- The position of an expression is that of its first token. -/
theorem DerivesExpr.startsAt
    {value : Expr}
    {tokens : List Token} :
    DerivesExpr value tokens → StartsAt tokens value.position
  | .node _ starts => starts

/-- A call is where its function is. -/
theorem DerivesExpr.call
    {function : Identifier}
    {arguments : List Expr}
    {opening closing : Token}
    {tokens : List Token}
    (opens : opening.kind = .separator .leftParen)
    (closes : closing.kind = .separator .rightParen)
    (derives : DerivesExprs arguments tokens) :
    DerivesExpr (.call function arguments)
      (function.token :: opening :: (tokens ++ [closing])) :=
  .node (.call opens closes derives) rfl

/-- An operation is where its left operand is. -/
theorem DerivesExpr.binary
    {left right : Expr}
    {operator : Operator}
    {token : Token}
    {leftTokens rightTokens : List Token}
    (isOperator : token.kind = .operator operator)
    (leftDerives : DerivesExpr left leftTokens)
    (rightDerives : DerivesExpr right rightTokens) :
    DerivesExpr (.binary operator left right) (leftTokens ++ token :: rightTokens) :=
  .node (.binary isOperator leftDerives rightDerives) (leftDerives.startsAt.append _)

namespace Parser

variable {grammar : Grammar} {scope : Scope}

mutual

/-- An expression is derived from the tokens that are taken to read it. -/
theorem ReadsExpr.derives
    {tokens rest : List Token}
    {value : Expr} :
    ReadsExpr grammar scope tokens value rest →
    ∃ taken, tokens = taken ++ rest ∧ DerivesExpr value taken
  | .chain left operation => by
      obtain ⟨leftTaken, rfl, leftDerives⟩ := left.derives
      obtain ⟨taken, rfl, derives⟩ := operation.derives leftDerives
      exact ⟨leftTaken ++ taken, (List.append_assoc ..).symm, derives⟩

/-- What an operation takes derives, with its left operand, the whole expression. -/
theorem ReadsOperation.derives
    {bound : Nat}
    {left value : Expr}
    {tokens rest leftTaken : List Token} :
    ReadsOperation grammar scope bound left tokens value rest →
    DerivesExpr left leftTaken →
    ∃ taken, tokens = taken ++ rest ∧ DerivesExpr value (leftTaken ++ taken)
  | .stop _, leftDerives => ⟨[], rfl, by simpa using leftDerives⟩
  | .extend isOperator _ first right whole, leftDerives => by
      obtain ⟨firstTaken, rfl, firstDerives⟩ := first.derives
      obtain ⟨rightTaken, rfl, rightDerives⟩ := right.derives firstDerives
      obtain ⟨taken, rfl, derives⟩ :=
        whole.derives (.binary isOperator leftDerives rightDerives)
      rw [List.append_assoc] at derives
      exact ⟨_, by simp, derives⟩

/-- An operand is derived from the tokens that it takes. -/
theorem ReadsOperand.derives
    {tokens rest : List Token}
    {value : Expr} :
    ReadsOperand grammar scope tokens value rest →
    ∃ taken, tokens = taken ++ rest ∧ DerivesExpr value taken
  | .literal => ⟨[_], rfl, .node .literal rfl⟩
  | .template parts => ⟨[_], rfl, .node (.template parts.derives) rfl⟩
  | .null => ⟨[_], rfl, .node (.null rfl) rfl⟩
  | .name _ _ => ⟨[_], rfl, .node .name rfl⟩
  | .call _ call => by
      obtain ⟨taken, rfl, derives⟩ := call.derives
      exact ⟨_ :: taken, rfl, derives⟩
  | .paren closes inner => by
      obtain ⟨taken, rfl, derives⟩ := inner.derives
      rw [List.append_cons, ← List.cons_append]
      exact ⟨_, rfl, .node (.paren rfl closes derives) rfl⟩
  | .emptyList closes => ⟨[_, _], rfl, .node (.list rfl closes .nil) rfl⟩
  | .list _ elements => by
      obtain ⟨taken, closing, rfl, closes, -, derives⟩ := elements.derives
      rw [List.append_cons, ← List.cons_append]
      exact ⟨_, rfl, .node (.list rfl closes derives) rfl⟩

/-- A call is derived from its function and the tokens that are taken to read its arguments. -/
theorem ReadsCall.derives
    {function : Identifier}
    {tokens rest : List Token}
    {value : Expr} :
    ReadsCall grammar scope function tokens value rest →
    ∃ taken, tokens = taken ++ rest ∧ DerivesExpr value (function.token :: taken)
  | .empty opens closes => ⟨[_, _], rfl, .call opens closes .nil⟩
  | .arguments opens _ arguments => by
      obtain ⟨taken, closing, rfl, closes, -, derives⟩ := arguments.derives
      rw [List.append_cons, ← List.cons_append]
      exact ⟨_, rfl, .call opens closes derives⟩

/-- A list of expressions is derived from the tokens before the closing one. -/
theorem ReadsExprList.derives
    {closing : Separator}
    {tokens rest : List Token}
    {values : List Expr} :
    ReadsExprList grammar scope closing tokens values rest →
    ∃ taken last, tokens = taken ++ last :: rest ∧ last.kind = .separator closing ∧
      values ≠ [] ∧ DerivesExprs values taken
  | .last _ closes first => by
      obtain ⟨taken, rfl, derives⟩ := first.derives
      exact ⟨taken, _, rfl, closes, by simp, .last derives⟩
  | .more isComma first others => by
      obtain ⟨firstTaken, rfl, firstDerives⟩ := first.derives
      obtain ⟨taken, last, rfl, closes, notEmpty, derives⟩ := others.derives
      exact ⟨firstTaken ++ _ :: taken, last, by simp, closes, by simp,
        .more isComma notEmpty firstDerives derives⟩

/-- An interpolation is derived from its own tokens. -/
theorem ReadsParts.derives
    {position : Position}
    {parts : List Part}
    {values : List Expr} :
    ReadsParts grammar scope position parts values → DerivesParts position values parts
  | .nil => .nil
  | .fragment others => .fragment others.derives
  | .interpolation first others => by
      obtain ⟨taken, shape, derives⟩ := first.derives
      rw [List.append_nil] at shape
      exact .interpolation (shape ▸ derives) others.derives

end

/-- A condition is derived from its parentheses and what they hold. -/
theorem ReadsCondition.derives
    {tokens rest : List Token}
    {test : Expr} :
    ReadsCondition grammar scope tokens test rest →
    ∃ taken, tokens = taken ++ rest ∧ DerivesCondition test taken
  | .mk opens closes inner => by
      obtain ⟨taken, rfl, derives⟩ := inner.derives
      rw [List.append_cons, ← List.cons_append]
      exact ⟨_, rfl, .parens opens closes derives⟩

/-- Every operator binds more tightly than the weakest rank. -/
theorem rank_pos (grammar : Grammar) (operator : Operator) : 0 < rank grammar operator := by
  unfold rank
  split
  · cases operator with
    | arithmetic operation =>
        cases operation <;> simp [Operator.tier, Arithmetic.tier]
    | _ =>
        simp [Operator.tier]
  · simp

/-- What continues a value that is no bare name is no bare name. -/
theorem ReadsOperation.ne_name
    {bound : Nat}
    {left value : Expr}
    {tokens rest : List Token} :
    ReadsOperation grammar scope bound left tokens value rest →
    (∀ identifier, left ≠ .name identifier) →
    ∀ identifier, value ≠ .name identifier
  | .stop _, notName => notName
  | .extend _ _ _ _ whole, _ => whole.ne_name (by simp)

/-- An operator after a name makes an operation of it. -/
theorem ReadsOperation.ne_name_of_operator
    {operator : Operator}
    {left value : Expr}
    {tokens rest : List Token}
    (reads : ReadsOperation grammar scope 0 left tokens value rest)
    (isOperator : nextKind tokens = .operator operator) :
    ∀ identifier, value ≠ .name identifier := by
  cases reads with
  | stop loose =>
      have weak := loose operator isOperator
      have strong := rank_pos grammar operator
      omega
  | extend _ _ _ _ whole =>
      exact whole.ne_name (by simp)

/-- A call is no name. -/
theorem ReadsCall.ne_name
    {function : Identifier}
    {tokens rest : List Token}
    {value : Expr}
    (reads : ReadsCall grammar scope function tokens value rest) :
    ∀ identifier, value ≠ .name identifier := by
  cases reads <;> simp

/-- A value follows a keyword if the next token is on its line and starts no statement. -/
theorem startsValueOf_iff {keyword next : Token} {tokens : List Token} :
    valueFollows keyword (next :: tokens) = true ↔ next.StartsValueOf keyword := by
  simp [valueFollows, Token.StartsValueOf]

/-- What follows `return` decides whether it has a value. -/
theorem not_startsValueOf
    {keyword : Token}
    {tokens : List Token}
    (noValue : valueFollows keyword tokens = false) :
    ∀ next ∈ tokens.head?, ¬next.StartsValueOf keyword := by
  intro next isNext starts
  cases tokens with
  | nil =>
      cases isNext
  | cons first rest =>
      cases isNext
      rw [startsValueOf_iff.mpr starts] at noValue
      cases noValue

/-- A value that follows a keyword starts on its line. -/
theorem startsValueOf_of_valueFollows
    {keyword : Token}
    {tokens : List Token}
    (hasValue : valueFollows keyword tokens = true) :
    ∀ next ∈ tokens.head?, next.StartsValueOf keyword := by
  intro next isNext
  cases tokens with
  | nil =>
      cases isNext
  | cons first rest =>
      cases isNext
      exact startsValueOf_iff.mp hasValue

mutual

/-- A statement is derived from the tokens that are taken to read it, before the token that is
left. -/
theorem ReadsStmt.derives
    {place : Place}
    {scope inside : Scope}
    {tokens rest : List Token}
    {value : Stmt} :
    ReadsStmt grammar place scope tokens value inside rest →
    ∃ taken, tokens = taken ++ rest ∧ DerivesStmt rest.head? value taken
  | .declare isKeyword isSign _ inner => by
      obtain ⟨taken, rfl, derives⟩ := inner.derives
      exact ⟨_ :: _ :: _ :: taken, rfl, .node (.declare isKeyword isSign derives) rfl⟩
  | .assignNew isSign _ _ inner => by
      obtain ⟨taken, rfl, derives⟩ := inner.derives
      exact ⟨_ :: _ :: taken, rfl, .node (.assign isSign derives) rfl⟩
  | .assignOld isSign _ _ inner => by
      obtain ⟨taken, rfl, derives⟩ := inner.derives
      exact ⟨_ :: _ :: taken, rfl, .node (.assign isSign derives) rfl⟩
  | .call _ call operation => by
      obtain ⟨callTaken, rfl, callDerives⟩ := call.derives
      obtain ⟨taken, rfl, derives⟩ := operation.derives callDerives
      have notBare := operation.ne_name call.ne_name
      rw [← List.append_assoc, ← List.cons_append]
      exact ⟨_, rfl, .node (.expr rfl notBare derives) derives.startsAt⟩
  | .operate isOperator _ operation => by
      have notBare := operation.ne_name_of_operator isOperator
      obtain ⟨taken, rfl, derives⟩ := operation.derives (.node .name rfl)
      exact ⟨_ :: taken, rfl, .node (.expr rfl notBare derives) derives.startsAt⟩
  | .choice isKeyword first others => by
      obtain ⟨firstTaken, rfl, firstDerives⟩ := first.derives [_] rfl
      obtain ⟨taken, rfl, derives⟩ := others.derives
      rw [← List.append_assoc, ← List.cons_append]
      exact ⟨_, rfl, .node (.choice isKeyword firstDerives derives) rfl⟩
  | .forEach isKeyword _ bound body => by
      obtain ⟨boundTaken, rfl, boundDerives⟩ := bound.derives
      obtain ⟨bodyTaken, rfl, bodyDerives⟩ := body.derives
      rw [← List.append_assoc]
      exact ⟨_ :: _ :: Identifier.token ⟨"in", _⟩ :: (boundTaken ++ bodyTaken), rfl,
        .node (.forEach isKeyword rfl boundDerives bodyDerives) rfl⟩
  | .whileLoop isKeyword test body => by
      obtain ⟨testTaken, rfl, testDerives⟩ := test.derives
      obtain ⟨bodyTaken, rfl, bodyDerives⟩ := body.derives
      rw [← List.append_assoc, ← List.cons_append]
      exact ⟨_, rfl, .node (.whileLoop isKeyword testDerives bodyDerives) rfl⟩
  | .returnNothing isKeyword _ noValue =>
      ⟨[_], rfl, .node (.returnNothing isKeyword (not_startsValueOf noValue)) rfl⟩
  | .returnValue isKeyword _ hasValue inner => by
      obtain ⟨taken, rfl, derives⟩ := inner.derives
      refine ⟨_ :: taken, rfl, .node (.returnValue isKeyword (fun next isNext => ?_) derives) rfl⟩
      refine startsValueOf_of_valueFollows hasValue next ?_
      rw [List.head?_append, isNext, Option.some_or]
      exact rfl
  | .control isKeyword _ => ⟨[_], rfl, .node (.control isKeyword) rfl⟩

/-- A branch is derived from the keywords that lead it and the tokens that are taken to read it. -/
theorem ReadsBranch.derives
    {place : Place}
    {scope : Scope}
    {position : Position}
    {context : String}
    {tokens rest : List Token}
    {value : Branch} :
    ReadsBranch grammar place scope position context tokens value rest →
    ∀ leading, StartsAt leading position →
    ∃ taken, tokens = taken ++ rest ∧ DerivesBranch leading value (leading ++ taken)
  | .mk test body, leading, starts => by
      obtain ⟨testTaken, rfl, testDerives⟩ := test.derives
      obtain ⟨bodyTaken, rfl, bodyDerives⟩ := body.derives
      rw [← List.append_assoc]
      exact ⟨_, rfl, .node starts testDerives bodyDerives⟩

/-- Alternatives are derived from the tokens that they take. -/
theorem ReadsAlternatives.derives
    {place : Place}
    {scope : Scope}
    {tokens rest : List Token}
    {values : List Branch} :
    ReadsAlternatives grammar place scope tokens values rest →
    ∃ taken, tokens = taken ++ rest ∧ DerivesAlternatives values taken
  | .elseIf isKeyword next others => by
      obtain ⟨nextTaken, rfl, nextDerives⟩ := next.derives [_] rfl
      obtain ⟨taken, rfl, derives⟩ := others.derives
      rw [← List.append_assoc, ← List.cons_append]
      exact ⟨_, rfl, .elseIf isKeyword nextDerives derives⟩
  | .elseThenIf isElse isIf next others => by
      obtain ⟨nextTaken, rfl, nextDerives⟩ := next.derives [_, _] rfl
      obtain ⟨taken, rfl, derives⟩ := others.derives
      rw [← List.append_assoc]
      exact ⟨_ :: _ :: (nextTaken ++ taken), rfl, .elseThenIf isElse isIf nextDerives derives⟩
  | .otherwise isElse _ body => by
      obtain ⟨taken, rfl, derives⟩ := body.derives
      exact ⟨_ :: taken, rfl, .otherwise isElse derives⟩
  | .none _ _ => ⟨[], rfl, .nil⟩

/-- A block is derived from its braces and what they enclose. -/
theorem ReadsBlock.derives
    {place : Place}
    {scope : Scope}
    {tokens rest : List Token}
    {value : Block} :
    ReadsBlock grammar place scope tokens value rest →
    ∃ taken, tokens = taken ++ rest ∧ DerivesBlock value taken
  | .mk opens closes statements => by
      obtain ⟨taken, rfl, derives⟩ := statements.derives
      rw [List.append_cons, ← List.cons_append]
      exact ⟨_, rfl, .node opens closes derives⟩

/-- Statements are derived one by one; the token after them is the one that ends the block. -/
theorem ReadsStmts.derives
    {place : Place}
    {scope : Scope}
    {tokens rest : List Token}
    {values : List Stmt} :
    ReadsStmts grammar place scope tokens values rest →
    ∃ taken, tokens = taken ++ rest ∧ DerivesStmts rest.head? values taken
  | .nil _ => ⟨[], rfl, .nil⟩
  | .cons _ _ first others => by
      obtain ⟨firstTaken, rfl, firstDerives⟩ := first.derives
      obtain ⟨taken, rfl, derives⟩ := others.derives
      rw [List.head?_append] at firstDerives
      exact ⟨firstTaken ++ taken, by simp, .cons firstDerives derives⟩

end

/-- Parameters are derived from the tokens before the closing parenthesis. -/
theorem ReadsNames.derives
    {tokens rest : List Token}
    {names : List Identifier}
    (reads : ReadsNames tokens names rest) :
    ∃ taken closing, tokens = taken ++ closing :: rest ∧
      closing.kind = .separator .rightParen ∧ names ≠ [] ∧ DerivesNames names taken := by
  induction reads with
  | last closes =>
      exact ⟨[_], _, rfl, closes, by simp, .last⟩
  | more isComma _ inductionHypothesis =>
      obtain ⟨taken, closing, rfl, closes, notEmpty, derives⟩ := inductionHypothesis
      exact ⟨_ :: _ :: taken, closing, rfl, closes, by simp, .more isComma notEmpty derives⟩

/-- The parameters of a function are derived from their parentheses and the names in them. -/
theorem ReadsParameters.derives
    {tokens rest : List Token}
    {names : List Identifier}
    (reads : ReadsParameters tokens names rest) :
    ∃ taken, tokens = taken ++ rest ∧ DerivesParameters names taken := by
  cases reads with
  | empty opens closes =>
      exact ⟨[_, _], rfl, .parens opens closes .nil⟩
  | names opens inner =>
      obtain ⟨taken, closing, rfl, closes, -, derives⟩ := inner.derives
      rw [List.append_cons, ← List.cons_append]
      exact ⟨_, rfl, .parens opens closes derives⟩

/-- An item is derived from the tokens that it takes. -/
theorem ReadsItem.derives
    {known between : Declarations}
    {tokens rest : List Token}
    {value : Item}
    (reads : ReadsItem grammar known tokens value between rest) :
    ∃ taken, tokens = taken ++ rest ∧ DerivesItem rest.head? value taken := by
  cases reads with
  | function isKeyword _ _ parameters body =>
      obtain ⟨parametersTaken, rfl, parametersDerive⟩ := parameters.derives
      obtain ⟨bodyTaken, rfl, bodyDerives⟩ := body.derives
      rw [← List.append_assoc]
      exact ⟨_ :: _ :: (parametersTaken ++ bodyTaken), rfl,
        .function isKeyword parametersDerive bodyDerives⟩
  | type isKeyword _ =>
      exact ⟨[_, _], rfl, .type isKeyword⟩
  | statement inner =>
      obtain ⟨taken, shape, derives⟩ := inner.derives
      exact ⟨taken, shape, .statement derives⟩

/-- Items are derived from all the tokens of a file. -/
theorem ReadsItems.derives
    {known final : Declarations}
    {tokens : List Token}
    {values : List Item}
    (reads : ReadsItems grammar known tokens values final) :
    DerivesItems none values tokens := by
  induction reads with
  | nil =>
      exact .nil
  | @cons known tokens first between rest others final firstReads _ inductionHypothesis =>
      obtain ⟨taken, rfl, derives⟩ := firstReads.derives
      refine .cons ?_ inductionHypothesis
      rwa [tokenAfter, Option.or_none]

end Parser

/-- A file that is accepted is at the position of its first token. -/
theorem position_of_accepted
    {grammar : Grammar}
    {known : Declarations}
    {tokens : List Token}
    {file : File}
    (accepted : (parseTokens grammar known tokens).outcome = .ok file) :
    file.position = (tokens.head?.map Token.position).getD .none := by
  obtain ⟨final, reads, -, -, resolved⟩ := parseTokens_eq_ok accepted
  rw [parseTokens_of_reads reads resolved] at accepted
  rw [← Except.ok.inj accepted]
  cases tokens <;> rfl

/-- The parser accounts for every token: a file that it accepts is derived from all tokens, each
taken once and in order, and every node of it is where the first of its tokens is. -/
theorem accepted_file_derives_tokens
    {grammar : Grammar}
    {known : Declarations}
    {tokens : List Token}
    {file : File}
    (accepted : (parseTokens grammar known tokens).outcome = .ok file) :
    DerivesFile file tokens := by
  obtain ⟨final, reads, -⟩ := parseTokens_eq_ok accepted
  exact ⟨reads.derives, position_of_accepted accepted⟩

/-- A script with both forms of `return`, two ways to go on after a branch, and a template. -/
def doublingScript : String :=
  "fun double(n) \x7b\n if (n < 0) \x7b return \x7d else if (n == 0) \x7b return n \x7d\n" ++
    "return\n double(n) \x7d\nx = \"<\x7b1 + 2\x7d>\""

theorem doublingScript_derives :
    ∃ tokens file, scan "main" doublingScript = .ok tokens ∧
      (parseTokens ⟨true, false⟩ .empty tokens).outcome = .ok file ∧
      DerivesFile file tokens := by
  have isOk : (parse ⟨true, false⟩ .empty "main" doublingScript).outcome.isOk = true := by
    decide +kernel
  obtain ⟨tokens, file, scanned, accepted⟩ := exists_of_isOk isOk
  exact ⟨tokens, file, scanned, accepted, accepted_file_derives_tokens accepted⟩

end Scripting
