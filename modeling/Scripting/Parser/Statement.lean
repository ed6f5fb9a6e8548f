import Scripting.Parser.Expr

namespace Scripting.Parser

/-!
# Parsing statements

A statement sees the variables that were declared before it, and may declare one more in the
innermost scope.  Every body has a scope of its own, which is forgotten when the body ends.
-/

/-- Which statements are allowed besides the ordinary ones. -/
structure Place where
  inFunction : Bool
  inLoop : Bool
  deriving Repr, DecidableEq

/-- The text and position of a name token. -/
def identifierOf (token : Token) : Identifier :=
  ⟨token.spelling, token.position⟩

/-- Take a name. -/
def name (cursor : TokenCursor) (context : String) :
    Except SyntaxError (Identifier × TokenCursor) := do
  let (token, rest) ← cursor.want .name context
  .ok (identifierOf token, rest)

/-- Declare a variable in the innermost scope, where it must be new. -/
def declare (scope : Scope) (identifier : Identifier) (mutable : Bool) :
    Except SyntaxError Scope :=
  match scope.current.find? identifier.text with
  | some previous =>
      .error (.rule identifier.position (.variableRedefined identifier.text previous.position))
  | none => .ok (scope.define identifier.text ⟨mutable, identifier.position⟩)

/-- Declare several immutable variables. -/
def declareAll (scope : Scope) : List Identifier → Except SyntaxError Scope
  | [] => .ok scope
  | first :: rest => do
      let scope ← declare scope first false
      declareAll scope rest

/-- Parse an expression in parentheses. -/
def condition (budget : Nat) (grammar : Grammar) (scope : Scope) (context : String)
    (cursor : TokenCursor) : Except SyntaxError (Expr × TokenCursor) := do
  let (_, rest) ← cursor.want (.separator .leftParen) context
  let (inner, rest) ← expr budget grammar scope rest
  let (_, rest) ← rest.want (.separator .rightParen) context
  .ok (inner, rest)

/-- A constant bound of a loop has to be a string. -/
def checkBound : Expr → Except SyntaxError Unit
  | .literal _ (.string _) _ => .ok ()
  | .literal text value place => .error (.rule place (.boundNotIterable text value.kind))
  | .null place => .error (.rule place .boundNull)
  | _ => .ok ()

/-- Parse `return` with a value if one follows on the same line. -/
def returnStatement (budget : Nat) (grammar : Grammar) (place : Place) (scope : Scope)
    (keyword : Token) (cursor : TokenCursor) : Except SyntaxError (Stmt × TokenCursor) :=
  let position := keyword.position
  if !place.inFunction then
    .error (.rule position .returnOutside)
  else
    match cursor.ahead with
    | [] => .ok (.return none position, cursor)
    | next :: _ =>
        if next.kind ≠ .separator .rightBrace && next.position.line = position.line then do
          let (value, rest) ← expr budget grammar scope cursor
          .ok (.return (some value) position, rest)
        else
          .ok (.return none position, cursor)

/-- A loop control, which has to be in a loop. -/
def loopControl (place : Place) (control : LoopControl) (position : Position)
    (cursor : TokenCursor) : Except SyntaxError (Stmt × TokenCursor) :=
  if place.inLoop then
    .ok (.control control position, cursor)
  else
    .error (.rule position (.controlOutside control.keyword))

/-- Parse the declaration of a variable after its keyword. -/
def declaration (budget : Nat) (grammar : Grammar) (scope : Scope) (mutable : Bool)
    (keyword : Token) (cursor : TokenCursor) : Except SyntaxError (Stmt × Scope × TokenCursor) := do
  let (identifier, rest) ← name cursor ("variable name after " ++ keyword.kind.text)
  let (_, rest) ← rest.want .assign ("variable definition " ++ identifier.text)
  let (value, rest) ← expr budget grammar scope rest
  let scope ← declare scope identifier mutable
  .ok (.declare mutable identifier value keyword.position, scope, rest)

/-- Parse an assignment after its sign.  A name that is not visible is declared by it, unless the
grammar is strict. -/
def assignment (budget : Nat) (grammar : Grammar) (scope : Scope) (identifier : Identifier)
    (cursor : TokenCursor) : Except SyntaxError (Stmt × Scope × TokenCursor) := do
  let (value, rest) ← expr budget grammar scope cursor
  match scope.find? identifier.text with
  | none =>
      if grammar.strict then
        .error (.rule identifier.position (.undeclaredAssignment identifier.text))
      else do
        let scope ← declare scope identifier true
        .ok (.assign true identifier value, scope, rest)
  | some binding =>
      if binding.mutable then
        .ok (.assign false identifier value, scope, rest)
      else
        .error (.rule identifier.position (.immutable identifier.text binding.position))

/-- Parse a statement that starts with a name: an assignment, a call or an operation. -/
def nameStatement (budget : Nat) (grammar : Grammar) (scope : Scope) (identifier : Identifier)
    (cursor : TokenCursor) : Except SyntaxError (Stmt × Scope × TokenCursor) :=
  match cursor.kind with
  | .assign => assignment budget grammar scope identifier cursor.skip
  | .separator .leftParen => do
      let (left, rest) ← call budget grammar scope identifier cursor
      let (value, rest) ← operation budget grammar scope 0 left rest
      .ok (.expr value, scope, rest)
  | .operator _ => do
      let left ← visibleName scope identifier
      let (value, rest) ← operation budget grammar scope 0 left cursor
      .ok (.expr value, scope, rest)
  | _ => .error (.rule identifier.position (.badContinuation identifier.text))

/-- Step over `elseif`, or `else` and `if`. -/
def conditionalElse? (cursor : TokenCursor) : Option TokenCursor :=
  match cursor.accept? (.keyword .elseIfWord) with
  | some rest => some rest
  | none =>
      if cursor.kind = .keyword .elseWord && cursor.secondKind = .keyword .ifWord then
        some cursor.skip.skip
      else
        none

mutual

/-- Parse a statement. -/
def statement (budget : Nat) (grammar : Grammar) (place : Place) (scope : Scope)
    (cursor : TokenCursor) : Except SyntaxError (Stmt × Scope × TokenCursor) :=
  match budget with
  | 0 => .error (tokensEnded cursor)
  | budget + 1 => do
      let (token, rest) ← cursor.next "start of statement"
      match token with
      | .name text position => nameStatement budget grammar scope ⟨text, position⟩ rest
      | .mark (.keyword .varWord) .. => declaration budget grammar scope false token rest
      | .mark (.keyword .mutableVarWord) .. => declaration budget grammar scope true token rest
      | .mark (.keyword .ifWord) _ position => do
          let (first, rest) ← branch budget grammar place scope position "if statement" rest
          let (others, rest) ← alternatives budget grammar place scope rest
          .ok (.choice (first :: others) position, scope, rest)
      | .mark (.keyword .forWord) _ position => do
          let (loop, rest) ← forLoop budget grammar place scope position rest
          .ok (loop, scope, rest)
      | .mark (.keyword .whileWord) _ position => do
          let (test, rest) ← condition budget grammar scope "while loop" rest
          let (body, rest) ←
            block budget grammar { place with inLoop := true } (scope.push "while loop") rest
          .ok (.whileLoop test body position, scope, rest)
      | .mark (.keyword .returnWord) .. => do
          let (result, rest) ← returnStatement budget grammar place scope token rest
          .ok (result, scope, rest)
      | .mark (.keyword .breakWord) _ position => do
          let (control, rest) ← loopControl place .leave position rest
          .ok (control, scope, rest)
      | .mark (.keyword .continueWord) _ position => do
          let (control, rest) ← loopControl place .next position rest
          .ok (control, scope, rest)
      | .mark (.keyword .funWord) _ position => .error (.rule position .nestedFunction)
      | .mark (.keyword .typeWord) _ position => .error (.rule position .nestedType)
      | _ => .error (.rule token.position (.badStart token))

/-- Parse a condition in parentheses and a body. -/
def branch (budget : Nat) (grammar : Grammar) (place : Place) (scope : Scope)
    (position : Position) (context : String) (cursor : TokenCursor) :
    Except SyntaxError (Branch × TokenCursor) :=
  match budget with
  | 0 => .error (tokensEnded cursor)
  | budget + 1 => do
      let (test, rest) ← condition budget grammar scope context cursor
      let (body, rest) ← block budget grammar place (scope.push context) rest
      .ok (.mk test body position, rest)

/-- Parse the branches after the first: any number with a condition, and one without at the
end. -/
def alternatives (budget : Nat) (grammar : Grammar) (place : Place) (scope : Scope)
    (cursor : TokenCursor) : Except SyntaxError (List Branch × TokenCursor) :=
  match budget with
  | 0 => .error (tokensEnded cursor)
  | budget + 1 =>
      match conditionalElse? cursor with
      | some rest => do
          let (next, rest) ←
            branch budget grammar place scope cursor.position "elseif branch" rest
          let (others, rest) ← alternatives budget grammar place scope rest
          .ok (next :: others, rest)
      | none =>
          match cursor.accept? (.keyword .elseWord) with
          | none => .ok ([], cursor)
          | some rest => do
              let (body, rest) ← block budget grammar place (scope.push "else branch") rest
              let test : Expr := .literal "true" (.boolean true) cursor.position
              .ok ([.mk test body cursor.position], rest)

/-- Parse a loop over elements after its keyword. -/
def forLoop (budget : Nat) (grammar : Grammar) (place : Place) (scope : Scope)
    (position : Position) (cursor : TokenCursor) : Except SyntaxError (Stmt × TokenCursor) :=
  match budget with
  | 0 => .error (tokensEnded cursor)
  | budget + 1 => do
      let (key, rest) ← name cursor "for loop variable"
      let (link, rest) ← name rest "'in' after for loop variable"
      if link.text ≠ "in" then
        .error (.rule link.position (.missingIn link.text))
      else do
        let (bound, rest) ← condition budget grammar scope "for loop bound" rest
        checkBound bound
        let inside ← declare (scope.push "for loop") key false
        let (body, rest) ← block budget grammar { place with inLoop := true } inside rest
        .ok (.forEach key bound body position, rest)

/-- Parse statements between braces in a scope of their own. -/
def block (budget : Nat) (grammar : Grammar) (place : Place) (scope : Scope)
    (cursor : TokenCursor) : Except SyntaxError (Block × TokenCursor) :=
  match budget with
  | 0 => .error (tokensEnded cursor)
  | budget + 1 => do
      let (opening, rest) ← cursor.want (.separator .leftBrace) "start of body"
      let (statements, rest) ← blockStatements budget grammar place scope rest
      let (closing, rest) ← rest.want (.separator .rightBrace) "end of body"
      .ok (.mk statements opening.position closing.position, rest)

/-- Parse statements up to a closing brace. -/
def blockStatements (budget : Nat) (grammar : Grammar) (place : Place) (scope : Scope)
    (cursor : TokenCursor) : Except SyntaxError (List Stmt × TokenCursor) :=
  match budget with
  | 0 => .error (tokensEnded cursor)
  | budget + 1 =>
      if cursor.kind = .separator .rightBrace || cursor.atEnd then
        .ok ([], cursor)
      else do
        let (first, scope, rest) ← statement budget grammar place scope cursor
        let (others, rest) ← blockStatements budget grammar place scope rest
        .ok (first :: others, rest)

end

end Scripting.Parser
