import Scripting.Parser.File

namespace Scripting.Parser

/-!
# Reading rules

What a parser accepts, as rules without a budget.  A rule relates the tokens before a construct,
its tree and the tokens after it; a rule for statements also relates the scopes before and after.
Where the parser looks at a token without taking it, the rule has a condition on what comes next.
-/

/-- The kind of the first of some tokens. -/
def nextKind : List Token → TokenKind
  | token :: _ => token.kind
  | [] => .endOfInput

/-- Whether `return` is followed by a value: by a token on the same line that does not close the
body. -/
def valueFollows (keyword : Token) : List Token → Bool
  | next :: _ =>
      next.kind ≠ .separator .rightBrace && next.position.line = keyword.position.line
  | [] => false

mutual

/-- Tokens start with an expression. -/
inductive ReadsExpr (grammar : Grammar) (scope : Scope) :
    List Token → Expr → List Token → Prop where
  | chain :
      ReadsOperand grammar scope tokens left rest →
      ReadsOperation grammar scope 0 left rest value after →
      ReadsExpr grammar scope tokens value after

/-- Tokens continue an expression with operators that bind more tightly than a rank. -/
inductive ReadsOperation (grammar : Grammar) (scope : Scope) :
    Nat → Expr → List Token → Expr → List Token → Prop where
  | stop
      (loose :
        ∀ operator, nextKind tokens = .operator operator → rank grammar operator ≤ bound) :
      ReadsOperation grammar scope bound left tokens left tokens
  | extend
      (isOperator : token.kind = .operator operator)
      (tighter : bound < rank grammar operator) :
      ReadsOperand grammar scope tokens first rest →
      ReadsOperation grammar scope (rank grammar operator) first rest right afterRight →
      ReadsOperation grammar scope bound (.binary operator left right) afterRight value after →
      ReadsOperation grammar scope bound left (token :: tokens) value after

/-- Tokens start with an operand. -/
inductive ReadsOperand (grammar : Grammar) (scope : Scope) :
    List Token → Expr → List Token → Prop where
  | literal :
      ReadsOperand grammar scope
        (.literal text value position :: rest) (.literal text value position) rest
  | template :
      ReadsParts grammar scope position parts expressions →
      ReadsOperand grammar scope
        (.template parts position :: rest) (.template expressions position) rest
  | null :
      ReadsOperand grammar scope
        (.mark (.keyword .nullWord) spelling position :: rest) (.null position) rest
  | name
      (noCall : nextKind rest ≠ .separator .leftParen)
      (visible : (scope.find? text).isSome) :
      ReadsOperand grammar scope (.name text position :: rest) (.name ⟨text, position⟩) rest
  | call
      (opens : nextKind rest = .separator .leftParen) :
      ReadsCall grammar scope ⟨text, position⟩ rest value after →
      ReadsOperand grammar scope (.name text position :: rest) value after
  | paren
      (closes : closing.kind = .separator .rightParen) :
      ReadsExpr grammar scope tokens content (closing :: after) →
      ReadsOperand grammar scope
        (.mark (.separator .leftParen) spelling position :: tokens) (.paren content position) after
  | emptyList
      (closes : closing.kind = .separator .rightBracket) :
      ReadsOperand grammar scope
        (.mark (.separator .leftBracket) spelling position :: closing :: after)
        (.list [] position) after
  | list
      (notEmpty : nextKind tokens ≠ .separator .rightBracket) :
      ReadsExprList grammar scope .rightBracket tokens elements after →
      ReadsOperand grammar scope
        (.mark (.separator .leftBracket) spelling position :: tokens)
        (.list elements position) after

/-- Tokens start with the arguments of a call. -/
inductive ReadsCall (grammar : Grammar) (scope : Scope) :
    Identifier → List Token → Expr → List Token → Prop where
  | empty
      (opens : opening.kind = .separator .leftParen)
      (closes : closing.kind = .separator .rightParen) :
      ReadsCall grammar scope function (opening :: closing :: after) (.call function []) after
  | arguments
      (opens : opening.kind = .separator .leftParen)
      (notEmpty : nextKind tokens ≠ .separator .rightParen) :
      ReadsExprList grammar scope .rightParen tokens arguments after →
      ReadsCall grammar scope function (opening :: tokens) (.call function arguments) after

/-- Tokens start with expressions up to a closing separator. -/
inductive ReadsExprList (grammar : Grammar) (scope : Scope) :
    Separator → List Token → List Expr → List Token → Prop where
  | last
      (noComma : last.kind ≠ .separator .comma)
      (closes : last.kind = .separator closing) :
      ReadsExpr grammar scope tokens first (last :: after) →
      ReadsExprList grammar scope closing tokens [first] after
  | more
      (isComma : comma.kind = .separator .comma) :
      ReadsExpr grammar scope tokens first (comma :: rest) →
      ReadsExprList grammar scope closing rest others after →
      ReadsExprList grammar scope closing tokens (first :: others) after

/-- The parts of a template at a position are expressions. -/
inductive ReadsParts (grammar : Grammar) (scope : Scope) :
    Position → List Part → List Expr → Prop where
  | nil :
      ReadsParts grammar scope position [] []
  | fragment :
      ReadsParts grammar scope position others expressions →
      ReadsParts grammar scope position (.fragment text :: others)
        (.literal text (.string text) position :: expressions)
  | interpolation :
      ReadsExpr grammar scope (token :: tokens) first [] →
      ReadsParts grammar scope position others expressions →
      ReadsParts grammar scope position (.interpolation (token :: tokens) :: others)
        (first :: expressions)

end

/-- Tokens start with an expression in parentheses. -/
inductive ReadsCondition (grammar : Grammar) (scope : Scope) :
    List Token → Expr → List Token → Prop where
  | mk
      (opens : opening.kind = .separator .leftParen)
      (closes : closing.kind = .separator .rightParen) :
      ReadsExpr grammar scope tokens content (closing :: after) →
      ReadsCondition grammar scope (opening :: tokens) content after

mutual

/-- Tokens start with a statement; the scopes are those before and after it. -/
inductive ReadsStmt (grammar : Grammar) :
    Place → Scope → List Token → Stmt → Scope → List Token → Prop where
  | declare
      (isKeyword :
        keyword.kind = .keyword (if mutable then .mutableVarWord else .varWord))
      (isSign : sign.kind = .assign)
      (new : scope.current.find? text = none) :
      ReadsExpr grammar scope tokens value after →
      ReadsStmt grammar place scope (keyword :: .name text position :: sign :: tokens)
        (.declare mutable ⟨text, position⟩ value keyword.position)
        (scope.define text ⟨mutable, position⟩) after
  | assignNew
      (isSign : sign.kind = .assign)
      (lenient : grammar.strict = false)
      (new : scope.find? text = none) :
      ReadsExpr grammar scope tokens value after →
      ReadsStmt grammar place scope (.name text position :: sign :: tokens)
        (.assign true ⟨text, position⟩ value) (scope.define text ⟨true, position⟩) after
  | assignOld
      (isSign : sign.kind = .assign)
      (known : scope.find? text = some binding)
      (mutable : binding.mutable = true) :
      ReadsExpr grammar scope tokens value after →
      ReadsStmt grammar place scope (.name text position :: sign :: tokens)
        (.assign false ⟨text, position⟩ value) scope after
  | call
      (opens : nextKind tokens = .separator .leftParen) :
      ReadsCall grammar scope ⟨text, position⟩ tokens left rest →
      ReadsOperation grammar scope 0 left rest value after →
      ReadsStmt grammar place scope (.name text position :: tokens) (.expr value) scope after
  | operate
      (isOperator : nextKind tokens = .operator operator)
      (visible : (scope.find? text).isSome) :
      ReadsOperation grammar scope 0 (.name ⟨text, position⟩) tokens value after →
      ReadsStmt grammar place scope (.name text position :: tokens) (.expr value) scope after
  | choice
      (isKeyword : keyword.kind = .keyword .ifWord) :
      ReadsBranch grammar place scope keyword.position "if statement" tokens first rest →
      ReadsAlternatives grammar place scope rest others after →
      ReadsStmt grammar place scope (keyword :: tokens)
        (.choice (first :: others) keyword.position) scope after
  | forEach
      (isKeyword : keyword.kind = .keyword .forWord)
      (iterable : checkBound bound = .ok ()) :
      ReadsCondition grammar scope tokens bound rest →
      ReadsBlock grammar { place with inLoop := true }
        ((scope.push "for loop").define key ⟨false, keyPosition⟩) rest body after →
      ReadsStmt grammar place scope
        (keyword :: .name key keyPosition :: .name "in" linkPosition :: tokens)
        (.forEach ⟨key, keyPosition⟩ bound body keyword.position) scope after
  | whileLoop
      (isKeyword : keyword.kind = .keyword .whileWord) :
      ReadsCondition grammar scope tokens test rest →
      ReadsBlock grammar { place with inLoop := true } (scope.push "while loop") rest body after →
      ReadsStmt grammar place scope (keyword :: tokens)
        (.whileLoop test body keyword.position) scope after
  | returnNothing
      (isKeyword : keyword.kind = .keyword .returnWord)
      (allowed : place.inFunction = true)
      (noValue : valueFollows keyword tokens = false) :
      ReadsStmt grammar place scope (keyword :: tokens) (.return none keyword.position)
        scope tokens
  | returnValue
      (isKeyword : keyword.kind = .keyword .returnWord)
      (allowed : place.inFunction = true)
      (hasValue : valueFollows keyword tokens = true) :
      ReadsExpr grammar scope tokens value after →
      ReadsStmt grammar place scope (keyword :: tokens) (.return (some value) keyword.position)
        scope after
  | control
      (isKeyword : keyword.kind = .keyword kind.keyword)
      (allowed : place.inLoop = true) :
      ReadsStmt grammar place scope (keyword :: tokens) (.control kind keyword.position)
        scope tokens

/-- Tokens start with a condition and a body. -/
inductive ReadsBranch (grammar : Grammar) :
    Place → Scope → Position → String → List Token → Branch → List Token → Prop where
  | mk :
      ReadsCondition grammar scope tokens test rest →
      ReadsBlock grammar place (scope.push context) rest body after →
      ReadsBranch grammar place scope position context tokens (.mk test body position) after

/-- Tokens start with the branches after the first. -/
inductive ReadsAlternatives (grammar : Grammar) :
    Place → Scope → List Token → List Branch → List Token → Prop where
  | elseIf
      (isKeyword : keyword.kind = .keyword .elseIfWord) :
      ReadsBranch grammar place scope keyword.position "elseif branch" tokens next rest →
      ReadsAlternatives grammar place scope rest others after →
      ReadsAlternatives grammar place scope (keyword :: tokens) (next :: others) after
  | elseThenIf
      (isElse : keyword.kind = .keyword .elseWord)
      (isIf : second.kind = .keyword .ifWord) :
      ReadsBranch grammar place scope keyword.position "elseif branch" tokens next rest →
      ReadsAlternatives grammar place scope rest others after →
      ReadsAlternatives grammar place scope (keyword :: second :: tokens) (next :: others) after
  | otherwise
      (isElse : keyword.kind = .keyword .elseWord)
      (noIf : nextKind tokens ≠ .keyword .ifWord) :
      ReadsBlock grammar place (scope.push "else branch") tokens body after →
      ReadsAlternatives grammar place scope (keyword :: tokens)
        [.mk (.literal "true" (.boolean true) keyword.position) body keyword.position] after
  | none
      (noElseIf : nextKind tokens ≠ .keyword .elseIfWord)
      (noElse : nextKind tokens ≠ .keyword .elseWord) :
      ReadsAlternatives grammar place scope tokens [] tokens

/-- Tokens start with statements between braces. -/
inductive ReadsBlock (grammar : Grammar) :
    Place → Scope → List Token → Block → List Token → Prop where
  | mk
      (opens : opening.kind = .separator .leftBrace)
      (closes : closing.kind = .separator .rightBrace) :
      ReadsStmts grammar place scope tokens statements (closing :: after) →
      ReadsBlock grammar place scope (opening :: tokens)
        (.mk statements opening.position closing.position) after

/-- Tokens start with statements up to a closing brace or the end. -/
inductive ReadsStmts (grammar : Grammar) :
    Place → Scope → List Token → List Stmt → List Token → Prop where
  | nil
      (ends : nextKind tokens = .separator .rightBrace ∨ tokens = []) :
      ReadsStmts grammar place scope tokens [] tokens
  | cons
      (starts : nextKind tokens ≠ .separator .rightBrace)
      (notEmpty : tokens ≠ []) :
      ReadsStmt grammar place scope tokens first inside rest →
      ReadsStmts grammar place inside rest others after →
      ReadsStmts grammar place scope tokens (first :: others) after

end

/-- Tokens start with names up to a closing parenthesis. -/
inductive ReadsNames : List Token → List Identifier → List Token → Prop where
  | last
      (closes : closing.kind = .separator .rightParen) :
      ReadsNames (.name text position :: closing :: after) [⟨text, position⟩] after
  | more
      (isComma : comma.kind = .separator .comma) :
      ReadsNames tokens others after →
      ReadsNames (.name text position :: comma :: tokens) (⟨text, position⟩ :: others) after

/-- Tokens start with the parameters of a function. -/
inductive ReadsParameters : List Token → List Identifier → List Token → Prop where
  | empty
      (opens : opening.kind = .separator .leftParen)
      (closes : closing.kind = .separator .rightParen) :
      ReadsParameters (opening :: closing :: after) [] after
  | names
      (opens : opening.kind = .separator .leftParen) :
      ReadsNames tokens names after →
      ReadsParameters (opening :: tokens) names after

/-- Tokens start with an item; the declarations are those before and after it. -/
inductive ReadsItem (grammar : Grammar) :
    Declarations → List Token → Item → Declarations → List Token → Prop where
  | function
      (isKeyword : keyword.kind = .keyword .funWord)
      (new : known.functions[text]? = none)
      (declares :
        declareAll (known.scope.push ("function " ++ text)) names = .ok inside) :
      ReadsParameters tokens names rest →
      ReadsBlock grammar ⟨true, false⟩ inside rest body after →
      ReadsItem grammar known (keyword :: .name text position :: tokens)
        (.function ⟨⟨text, position⟩, names, body, keyword.position⟩)
        { known with
          functions := known.functions.insert text ⟨some names.length, false⟩ } after
  | type
      (isKeyword : keyword.kind = .keyword .typeWord)
      (new : known.scope.current.find? text = none) :
      ReadsItem grammar known (keyword :: .name text position :: after)
        (.type ⟨⟨text, position⟩, keyword.position⟩)
        { known with scope := known.scope.define text ⟨false, position⟩ } after
  | statement :
      ReadsStmt grammar ⟨false, false⟩ known.scope tokens content scope after →
      ReadsItem grammar known tokens (.statement content) { known with scope } after

/-- Tokens are items, all of them. -/
inductive ReadsItems (grammar : Grammar) :
    Declarations → List Token → List Item → Declarations → Prop where
  | nil :
      ReadsItems grammar known [] [] known
  | cons :
      ReadsItem grammar known tokens first between rest →
      ReadsItems grammar between rest others final →
      ReadsItems grammar known tokens (first :: others) final

end Scripting.Parser
