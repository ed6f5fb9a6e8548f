import Scripting.Token.Basic
import Scripting.Tree.Basic

namespace Scripting

/-!
# The grammar

Which tokens a tree is written with.  A derivation takes every token of a sequence once and in
order, and puts every node of the tree where the first of its tokens is.  Scopes, precedence and
the way in which a parser proceeds play no part.

Only `return` depends on what comes after it, so derivations of statements know the token that
follows the statement, if there is one.
-/

/-- The first of some tokens is at a position. -/
def StartsAt (tokens : List Token) (position : Position) : Prop :=
  tokens.head?.map Token.position = some position

/-- The token that a name is written with. -/
def Identifier.token (identifier : Identifier) : Token :=
  .name identifier.text identifier.position

/-- A token after `return` starts its value: it is on the same line and does not close the
body. -/
def Token.StartsValueOf (next keyword : Token) : Prop :=
  next.kind ≠ .separator .rightBrace ∧ next.position.line = keyword.position.line

mutual

/-- An expression is written with tokens, and is where the first of them is. -/
inductive DerivesExpr : Expr → List Token → Prop where
  | node :
      ExprForm value tokens →
      StartsAt tokens value.position →
      DerivesExpr value tokens

/-- The forms of expressions. -/
inductive ExprForm : Expr → List Token → Prop where
  | name :
      ExprForm (.name identifier) [identifier.token]
  | literal :
      ExprForm (.literal text value place) [.literal text value position]
  | null
      (isNull : token.kind = .keyword .nullWord) :
      ExprForm (.null place) [token]
  | template :
      DerivesParts position expressions parts →
      ExprForm (.template expressions place) [.template parts position]
  | binary
      (isOperator : token.kind = .operator operator) :
      DerivesExpr left leftTokens →
      DerivesExpr right rightTokens →
      ExprForm (.binary operator left right) (leftTokens ++ token :: rightTokens)
  | call
      (opens : opening.kind = .separator .leftParen)
      (closes : closing.kind = .separator .rightParen) :
      DerivesExprs arguments tokens →
      ExprForm (.call function arguments) (function.token :: opening :: (tokens ++ [closing]))
  | list
      (opens : opening.kind = .separator .leftBracket)
      (closes : closing.kind = .separator .rightBracket) :
      DerivesExprs elements tokens →
      ExprForm (.list elements place) (opening :: (tokens ++ [closing]))
  | paren
      (opens : opening.kind = .separator .leftParen)
      (closes : closing.kind = .separator .rightParen) :
      DerivesExpr content tokens →
      ExprForm (.paren content place) (opening :: (tokens ++ [closing]))

/-- Expressions are written with commas between them. -/
inductive DerivesExprs : List Expr → List Token → Prop where
  | nil :
      DerivesExprs [] []
  | last :
      DerivesExpr value tokens →
      DerivesExprs [value] tokens
  | more
      (isComma : comma.kind = .separator .comma)
      (notLast : others ≠ []) :
      DerivesExpr first firstTokens →
      DerivesExprs others othersTokens →
      DerivesExprs (first :: others) (firstTokens ++ comma :: othersTokens)

/-- The parts of a template at a position are text or expressions with tokens of their own. -/
inductive DerivesParts : Position → List Expr → List Part → Prop where
  | nil :
      DerivesParts position [] []
  | fragment :
      DerivesParts position others parts →
      DerivesParts position (.literal text (.string text) position :: others)
        (.fragment text :: parts)
  | interpolation :
      DerivesExpr first tokens →
      DerivesParts position others parts →
      DerivesParts position (first :: others) (.interpolation tokens :: parts)

end

/-- A condition is written in parentheses. -/
inductive DerivesCondition : Expr → List Token → Prop where
  | parens
      (opens : opening.kind = .separator .leftParen)
      (closes : closing.kind = .separator .rightParen) :
      DerivesExpr test tokens →
      DerivesCondition test (opening :: (tokens ++ [closing]))

/-- The token that comes next where some tokens follow, and then perhaps one more. -/
def tokenAfter (tokens : List Token) (following : Option Token) : Option Token :=
  tokens.head?.or following

mutual

/-- A statement before a token is written with tokens, and is where the first of them is. -/
inductive DerivesStmt : Option Token → Stmt → List Token → Prop where
  | node :
      StmtForm following statement tokens →
      StartsAt tokens statement.position →
      DerivesStmt following statement tokens

/-- The forms of statements. -/
inductive StmtForm : Option Token → Stmt → List Token → Prop where
  | expr
      (startsWithName : tokens.head?.map Token.kind = some .name)
      (notBare : ∀ identifier, value ≠ .name identifier) :
      DerivesExpr value tokens →
      StmtForm following (.expr value) tokens
  | declare
      (isKeyword :
        keyword.kind = .keyword (if mutable then .mutableVarWord else .varWord))
      (isSign : sign.kind = .assign) :
      DerivesExpr value tokens →
      StmtForm following (.declare mutable name value place)
        (keyword :: name.token :: sign :: tokens)
  | assign
      (isSign : sign.kind = .assign) :
      DerivesExpr value tokens →
      StmtForm following (.assign defines name value) (name.token :: sign :: tokens)
  | choice
      (isKeyword : keyword.kind = .keyword .ifWord) :
      DerivesBranch [keyword] first firstTokens →
      DerivesAlternatives others othersTokens →
      StmtForm following (.choice (first :: others) place) (firstTokens ++ othersTokens)
  | forEach
      {link : Identifier}
      (isKeyword : keyword.kind = .keyword .forWord)
      (isIn : link.text = "in") :
      DerivesCondition bound boundTokens →
      DerivesBlock body bodyTokens →
      StmtForm following (.forEach key bound body place)
        (keyword :: key.token :: link.token :: (boundTokens ++ bodyTokens))
  | whileLoop
      (isKeyword : keyword.kind = .keyword .whileWord) :
      DerivesCondition test testTokens →
      DerivesBlock body bodyTokens →
      StmtForm following (.whileLoop test body place) (keyword :: (testTokens ++ bodyTokens))
  | returnNothing
      (isKeyword : keyword.kind = .keyword .returnWord)
      (noValue : ∀ next ∈ following, ¬next.StartsValueOf keyword) :
      StmtForm following (.return none place) [keyword]
  | returnValue
      (isKeyword : keyword.kind = .keyword .returnWord)
      (startsValue : ∀ next ∈ tokens.head?, next.StartsValueOf keyword) :
      DerivesExpr value tokens →
      StmtForm following (.return (some value) place) (keyword :: tokens)
  | control
      (isKeyword : keyword.kind = .keyword kind.keyword) :
      StmtForm following (.control kind place) [keyword]

/-- A branch with a condition is written with the keywords that lead it, and is where the first of
them is. -/
inductive DerivesBranch : List Token → Branch → List Token → Prop where
  | node
      (starts : StartsAt leading place) :
      DerivesCondition test testTokens →
      DerivesBlock body bodyTokens →
      DerivesBranch leading (.mk test body place) (leading ++ (testTokens ++ bodyTokens))

/-- The branches after the first.  A branch without a condition is the last, and the condition
that it stands for is where its keyword is. -/
inductive DerivesAlternatives : List Branch → List Token → Prop where
  | nil :
      DerivesAlternatives [] []
  | elseIf
      (isKeyword : keyword.kind = .keyword .elseIfWord) :
      DerivesBranch [keyword] next nextTokens →
      DerivesAlternatives others othersTokens →
      DerivesAlternatives (next :: others) (nextTokens ++ othersTokens)
  | elseThenIf
      (isElse : keyword.kind = .keyword .elseWord)
      (isIf : second.kind = .keyword .ifWord) :
      DerivesBranch [keyword, second] next nextTokens →
      DerivesAlternatives others othersTokens →
      DerivesAlternatives (next :: others) (nextTokens ++ othersTokens)
  | otherwise
      (isElse : keyword.kind = .keyword .elseWord) :
      DerivesBlock body bodyTokens →
      DerivesAlternatives
        [.mk (.literal "true" (.boolean true) keyword.position) body keyword.position]
        (keyword :: bodyTokens)

/-- A block is written with its statements between braces, and is where the first brace is. -/
inductive DerivesBlock : Block → List Token → Prop where
  | node
      (opens : opening.kind = .separator .leftBrace)
      (closes : closing.kind = .separator .rightBrace) :
      DerivesStmts (some closing) statements tokens →
      DerivesBlock (.mk statements opening.position closing.position)
        (opening :: (tokens ++ [closing]))

/-- Statements before a token are written one after another. -/
inductive DerivesStmts : Option Token → List Stmt → List Token → Prop where
  | nil :
      DerivesStmts following [] []
  | cons :
      DerivesStmt (tokenAfter othersTokens following) first firstTokens →
      DerivesStmts following others othersTokens →
      DerivesStmts following (first :: others) (firstTokens ++ othersTokens)

end

/-- Names are written with commas between them. -/
inductive DerivesNames : List Identifier → List Token → Prop where
  | nil :
      DerivesNames [] []
  | last :
      DerivesNames [identifier] [identifier.token]
  | more
      (isComma : comma.kind = .separator .comma)
      (notLast : others ≠ []) :
      DerivesNames others tokens →
      DerivesNames (first :: others) (first.token :: comma :: tokens)

/-- Parameters are written in parentheses. -/
inductive DerivesParameters : List Identifier → List Token → Prop where
  | parens
      (opens : opening.kind = .separator .leftParen)
      (closes : closing.kind = .separator .rightParen) :
      DerivesNames names tokens →
      DerivesParameters names (opening :: (tokens ++ [closing]))

/-- An item before a token is written with tokens, and is where the first of them is. -/
inductive DerivesItem : Option Token → Item → List Token → Prop where
  | function
      (isKeyword : keyword.kind = .keyword .funWord) :
      DerivesParameters parameters parametersTokens →
      DerivesBlock body bodyTokens →
      DerivesItem following (.function ⟨name, parameters, body, keyword.position⟩)
        (keyword :: name.token :: (parametersTokens ++ bodyTokens))
  | type
      (isKeyword : keyword.kind = .keyword .typeWord) :
      DerivesItem following (.type ⟨name, keyword.position⟩) [keyword, name.token]
  | statement :
      DerivesStmt following content tokens →
      DerivesItem following (.statement content) tokens

/-- Items before a token are written one after another. -/
inductive DerivesItems : Option Token → List Item → List Token → Prop where
  | nil :
      DerivesItems following [] []
  | cons :
      DerivesItem (tokenAfter othersTokens following) first firstTokens →
      DerivesItems following others othersTokens →
      DerivesItems following (first :: others) (firstTokens ++ othersTokens)

/-- A file is written with all of some tokens, and is where the first of them is, or nowhere if
there is none. -/
structure DerivesFile (file : File) (tokens : List Token) : Prop where
  items : DerivesItems none file.items tokens
  position : file.position = (tokens.head?.map Token.position).getD .none

end Scripting
