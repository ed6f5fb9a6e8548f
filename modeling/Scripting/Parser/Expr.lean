import Scripting.Parser.Declarations
import Scripting.Token.Cursor
import Scripting.Tree.Basic

namespace Scripting.Parser

/-!
# Parsing expressions

Operators are left associative; a chain of operators is cut by precedence climbing.  Every
interpolation of a template is parsed as an expression of its own.

The functions take a budget of steps.  Each one reads a token before it comes back to itself, so a
multiple of the number of tokens is enough; an empty budget means the end of the tokens.
-/

/-- What is said when tokens run out in an expression. -/
def tokensEnded (cursor : TokenCursor) : SyntaxError :=
  .unexpected cursor.position .anyToken none "value"

/-- The binding strength of an operator in a grammar. -/
def rank (grammar : Grammar) (operator : Operator) : Nat :=
  if grammar.tiered then operator.tier else 1

/-- The next token if it is an operator that binds more tightly than a rank. -/
def tighterOperator? (grammar : Grammar) (bound : Nat) (cursor : TokenCursor) :
    Option Operator :=
  cursor.kind.operator?.filter fun operator => bound < rank grammar operator

/-- A variable that has to be visible. -/
def visibleName (scope : Scope) (identifier : Identifier) : Except SyntaxError Expr :=
  match scope.find? identifier.text with
  | some _ => .ok (.name identifier)
  | none => .error (.rule identifier.position (.undefinedVariable identifier.text))

/-- The interpolation of a template has to end with its expression. -/
def endOfInterpolation (cursor : TokenCursor) : Except SyntaxError Unit :=
  match cursor.ahead with
  | [] => .ok ()
  | token :: _ => .error (.unexpected token.position .endOfInterpolation (some token) "")

/-- An error of an interpolation is one of the template at a position. -/
def inTemplate (position : Position) (reading : Except SyntaxError Result) :
    Except SyntaxError Result :=
  reading.mapError (.inside position .template)

mutual

/-- Parse an expression. -/
def expr (budget : Nat) (grammar : Grammar) (scope : Scope) (cursor : TokenCursor) :
    Except SyntaxError (Expr × TokenCursor) :=
  match budget with
  | 0 => .error (tokensEnded cursor)
  | budget + 1 => do
      let (left, rest) ← operand budget grammar scope cursor
      operation budget grammar scope 0 left rest

/-- Continue an expression whose left operand has been parsed, as long as operators bind more
tightly than a rank. -/
def operation (budget : Nat) (grammar : Grammar) (scope : Scope) (bound : Nat) (left : Expr)
    (cursor : TokenCursor) : Except SyntaxError (Expr × TokenCursor) :=
  match budget with
  | 0 => .error (tokensEnded cursor)
  | budget + 1 =>
      match tighterOperator? grammar bound cursor with
      | none => .ok (left, cursor)
      | some operator => do
          let (first, rest) ← operand budget grammar scope cursor.skip
          let (right, rest) ← operation budget grammar scope (rank grammar operator) first rest
          operation budget grammar scope bound (.binary operator left right) rest

/-- Parse a constant, a template, a variable, a call, a list or an expression in parentheses. -/
def operand (budget : Nat) (grammar : Grammar) (scope : Scope) (cursor : TokenCursor) :
    Except SyntaxError (Expr × TokenCursor) :=
  match budget with
  | 0 => .error (tokensEnded cursor)
  | budget + 1 => do
      let (token, rest) ← cursor.next "value"
      match token with
      | .literal text value position => .ok (.literal text value position, rest)
      | .template parts position => do
          let expressions ← templateParts budget grammar scope position parts
          .ok (.template expressions position, rest)
      | .mark (.keyword .nullWord) _ position => .ok (.null position, rest)
      | .name text position =>
          if rest.kind = .separator .leftParen then
            call budget grammar scope ⟨text, position⟩ rest
          else do
            let name ← visibleName scope ⟨text, position⟩
            .ok (name, rest)
      | .mark (.separator .leftParen) _ position => do
          let (inner, rest) ← expr budget grammar scope rest
          let (_, rest) ← rest.want (.separator .rightParen) "parenthesized expression"
          .ok (.paren inner position, rest)
      | .mark (.separator .leftBracket) _ position =>
          match rest.accept? (.separator .rightBracket) with
          | some rest => .ok (.list [] position, rest)
          | none => do
              let (elements, rest) ← exprList budget grammar scope .rightBracket "list" rest
              .ok (.list elements position, rest)
      | .mark .. => .error (.rule token.position (.notValue token))

/-- Parse the arguments of a call in parentheses after the name of the function. -/
def call (budget : Nat) (grammar : Grammar) (scope : Scope) (function : Identifier)
    (cursor : TokenCursor) : Except SyntaxError (Expr × TokenCursor) :=
  match budget with
  | 0 => .error (tokensEnded cursor)
  | budget + 1 => do
      let context := "arguments of " ++ function.text
      let (_, rest) ← cursor.want (.separator .leftParen) context
      match rest.accept? (.separator .rightParen) with
      | some rest => .ok (.call function [], rest)
      | none => do
          let (arguments, rest) ← exprList budget grammar scope .rightParen context rest
          .ok (.call function arguments, rest)

/-- Parse expressions with commas between them, up to and with a closing separator. -/
def exprList (budget : Nat) (grammar : Grammar) (scope : Scope) (closing : Separator)
    (context : String) (cursor : TokenCursor) : Except SyntaxError (List Expr × TokenCursor) :=
  match budget with
  | 0 => .error (tokensEnded cursor)
  | budget + 1 => do
      let (first, rest) ← expr budget grammar scope cursor
      match rest.accept? (.separator .comma) with
      | some rest => do
          let (others, rest) ← exprList budget grammar scope closing context rest
          .ok (first :: others, rest)
      | none => do
          let (_, rest) ← rest.want (.separator closing) context
          .ok ([first], rest)

/-- Parse the parts of a template at a position. -/
def templateParts (budget : Nat) (grammar : Grammar) (scope : Scope) (position : Position)
    (parts : List Part) : Except SyntaxError (List Expr) :=
  match budget with
  | 0 => .error (tokensEnded (.ofTokens []))
  | budget + 1 =>
      match parts with
      | [] => .ok []
      | .fragment text :: others => do
          let expressions ← templateParts budget grammar scope position others
          .ok (.literal text (.string text) position :: expressions)
      | .interpolation [] :: _ => .error (.rule position .emptyInterpolation)
      | .interpolation tokens :: others => do
          let first ← inTemplate position (interpolation budget grammar scope tokens)
          let expressions ← templateParts budget grammar scope position others
          .ok (first :: expressions)

/-- Parse the tokens of an interpolation, all of them. -/
def interpolation (budget : Nat) (grammar : Grammar) (scope : Scope) (tokens : List Token) :
    Except SyntaxError Expr :=
  match budget with
  | 0 => .error (tokensEnded (.ofTokens tokens))
  | budget + 1 => do
      let (first, rest) ← expr budget grammar scope (.ofTokens tokens)
      endOfInterpolation rest
      .ok first

end

end Scripting.Parser
