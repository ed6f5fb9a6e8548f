import Scripting.Parser.File
import Scripting.Proofs.Program

namespace Scripting.Parser.Unbounded

/-!
# The parser without a budget

The parser is a set of programs that move one index along a sequence of tokens.  Nothing checks the
index where a token that has been looked at is stepped over, and the error of the token that a
production starts with is discarded, because the production was chosen by that token.

Each program is the parser's function of the same name without a budget.  What comes back to itself
is a task: one that called itself without taking a token could go on for ever.
-/

/-- An index into a sequence of tokens, possibly beyond its end. -/
structure Pointer where
  tokens : List Token
  index : Nat

namespace Pointer

/-- The start of a sequence. -/
def ofTokens (tokens : List Token) : Pointer :=
  ⟨tokens, 0⟩

/-- What can be seen from an index. -/
def cursor (pointer : Pointer) : TokenCursor :=
  ⟨(pointer.tokens.take pointer.index).reverse, pointer.tokens.drop pointer.index⟩

end Pointer

/-- Why a program ends without a result.  An error that is discarded is no answer of the parser: it
would go on with no token at all. -/
inductive Halt where
  | refused (error : SyntaxError)
  | discarded (error : SyntaxError)

/-- An error that an enclosing construct answers for. -/
def Halt.inside (position : Position) (enclosure : Enclosure) : Halt → Halt
  | .refused error => .refused (.inside position enclosure error)
  | .discarded error => .discarded error

/-- What the parser does over and over; every loop is one that calls itself for what follows. -/
inductive Task where
  | expr (grammar : Grammar) (scope : Scope)
  | operation (grammar : Grammar) (scope : Scope) (bound : Nat) (left : Expr)
  | operand (grammar : Grammar) (scope : Scope)
  | call (grammar : Grammar) (scope : Scope) (function : Identifier)
  | exprList (grammar : Grammar) (scope : Scope) (closing : Separator) (context : String)
  | templateParts (grammar : Grammar) (scope : Scope) (position : Position) (parts : List Part)
  | statement (grammar : Grammar) (place : Place) (scope : Scope)
  | branch (grammar : Grammar) (place : Place) (scope : Scope) (position : Position)
      (context : String)
  | alternatives (grammar : Grammar) (place : Place) (scope : Scope)
  | forLoop (grammar : Grammar) (place : Place) (scope : Scope) (position : Position)
  | block (grammar : Grammar) (place : Place) (scope : Scope)
  | blockStatements (grammar : Grammar) (place : Place) (scope : Scope)
  | parameterList (function : String)
  | items (grammar : Grammar) (known : Declarations)

/-- What a task comes to. -/
abbrev Task.Answer : Task → Type
  | .expr .. | .operation .. | .operand .. | .call .. => Expr
  | .exprList .. | .templateParts .. => List Expr
  | .statement .. => Stmt × Scope
  | .branch .. => Branch
  | .alternatives .. => List Branch
  | .forLoop .. => Stmt
  | .block .. => Block
  | .blockStatements .. => List Stmt
  | .parameterList .. => List Identifier
  | .items .. => List Item × Declarations

/-- A program that moves along tokens. -/
abbrev Action :=
  Program Task Task.Answer Pointer Halt

/-- Look at the tokens. -/
def cursor : Action TokenCursor := do
  return (← get).cursor

/-- Step over tokens without a look at them. -/
def move (count : Nat) : Action Unit :=
  modify fun pointer => { pointer with index := pointer.index + count }

/-- Refuse what a reading that takes no tokens refuses. -/
def check {Result : Type} : Except SyntaxError Result → Action Result
  | .ok result => return result
  | .error error => .fail (.refused error)

/-- Take the next token if it is as expected. -/
def take (fault : SyntaxError → Halt) (expected : Expectation) (context : String) :
    Action Token := do
  match (← cursor).expect expected context with
  | .ok (token, _) =>
      move 1
      return token
  | .error error => .fail (fault error)

/-- Take the next token if it is of a kind, or refuse it. -/
def want (kind : TokenKind) (context : String) : Action Token :=
  take .refused (.kind kind) context

/-- Take the next token whatever it is, or refuse the end of input. -/
def next (context : String) : Action Token :=
  take .refused .anyToken context

/-- Take the first token of a production, whose error is discarded. -/
def leading (expected : Expectation) (context : String) : Action Token :=
  take .discarded expected context

/-- Step over the next token if it is of a kind, and tell whether it was. -/
def got (kind : TokenKind) : Action Bool := do
  match (← cursor).accept? kind with
  | some _ =>
      move 1
      return true
  | none => return false

/-- Take a name, as an identifier. -/
def name (context : String) : Action Identifier := do
  let token ← want .name context
  return identifierOf token

/-- What a template makes of the end of an interpolation. -/
def ofInterpolation (position : Position) (final : Pointer) :
    Except Halt Expr → Except Halt Expr
  | .ok value =>
      match endOfInterpolation final.cursor with
      | .ok () => .ok value
      | .error error => .error (Halt.inside position .template (.refused error))
  | .error halt => .error (halt.inside position .template)

section Expressions

variable (grammar : Grammar) (scope : Scope)

def expr : Action Expr :=
  .ask (Task.expr grammar scope)

def operation (bound : Nat) (left : Expr) : Action Expr :=
  .ask (Task.operation grammar scope bound left)

def operand : Action Expr :=
  .ask (Task.operand grammar scope)

def call (function : Identifier) : Action Expr :=
  .ask (Task.call grammar scope function)

def exprList (closing : Separator) (context : String) : Action (List Expr) :=
  .ask (Task.exprList grammar scope closing context)

def templateParts (position : Position) (parts : List Part) : Action (List Expr) :=
  .ask (Task.templateParts grammar scope position parts)

/-- A parser of its own for the tokens of an interpolation; the one around it does not move. -/
def interpolation (position : Position) (tokens : List Token) : Action Expr := do
  let around ← get
  set (Pointer.ofTokens tokens)
  let answer ← .attempt (Task.expr grammar scope)
  let final ← get
  set around
  .ofExcept (ofInterpolation position final answer)

/-- An operand and the operations after it. -/
def exprBody : Action Expr := do
  let left ← operand grammar scope
  operation grammar scope 0 left

/-- Operations that bind tighter than a bound, each with the right operand that is its own. -/
def operationBody (bound : Nat) (left : Expr) : Action Expr := do
  match tighterOperator? grammar bound (← cursor) with
  | none => return left
  | some operator =>
      move 1
      let first ← operand grammar scope
      let right ← operation grammar scope (rank grammar operator) first
      operation grammar scope bound (.binary operator left right)

/-- What an operand is, by its first token. -/
def operandBody : Action Expr := do
  let token ← next "value"
  match token with
  | .literal text value position => return .literal text value position
  | .template parts position =>
      let expressions ← templateParts grammar scope position parts
      return .template expressions position
  | .mark (.keyword .nullWord) _ position => return .null position
  | .name text position =>
      if (← cursor).kind = .separator .leftParen then
        call grammar scope ⟨text, position⟩
      else
        check (visibleName scope ⟨text, position⟩)
  | .mark (.separator .leftParen) _ position =>
      let inner ← expr grammar scope
      let _ ← want (.separator .rightParen) "parenthesized expression"
      return .paren inner position
  | .mark (.separator .leftBracket) _ position =>
      if ← got (.separator .rightBracket) then
        return .list [] position
      else
        let elements ← exprList grammar scope .rightBracket "list"
        return .list elements position
  | .mark .. => check (.error (.rule token.position (.notValue token)))

/-- The arguments of a call. -/
def callBody (function : Identifier) : Action Expr := do
  let context := "arguments of " ++ function.text
  let _ ← want (.separator .leftParen) context
  if ← got (.separator .rightParen) then
    return .call function []
  else
    let arguments ← exprList grammar scope .rightParen context
    return .call function arguments

/-- Expressions with commas between them, up to a closing mark. -/
def exprListBody (closing : Separator) (context : String) : Action (List Expr) := do
  let first ← expr grammar scope
  if ← got (.separator .comma) then
    let others ← exprList grammar scope closing context
    return first :: others
  else
    let _ ← want (.separator closing) context
    return [first]

/-- The parts of a template, fragments as constants. -/
def templatePartsBody (position : Position) (parts : List Part) : Action (List Expr) := do
  match parts with
  | [] => return []
  | .fragment text :: others =>
      let expressions ← templateParts grammar scope position others
      return .literal text (.string text) position :: expressions
  | .interpolation [] :: _ => check (.error (.rule position .emptyInterpolation))
  | .interpolation tokens :: others =>
      let first ← interpolation grammar scope position tokens
      let expressions ← templateParts grammar scope position others
      return first :: expressions

end Expressions

section Statements

variable (grammar : Grammar)

/-- A condition in its parentheses. -/
def condition (scope : Scope) (context : String) : Action Expr := do
  let _ ← want (.separator .leftParen) context
  let inner ← expr grammar scope
  let _ ← want (.separator .rightParen) context
  return inner

/-- A return, with a value where one follows on its line. -/
def returnStatement (place : Place) (scope : Scope) (keyword : Token) : Action Stmt := do
  let position := keyword.position
  if !place.inFunction then
    check (.error (.rule position .returnOutside))
  else
    match (← cursor).ahead with
    | [] => return .return none position
    | next :: _ =>
        if next.kind ≠ .separator .rightBrace && next.position.line = position.line then
          let value ← expr grammar scope
          return .return (some value) position
        else
          return .return none position

/-- A loop control does not move. -/
def loopControl (place : Place) (control : LoopControl) (position : Position) : Action Stmt :=
  if place.inLoop then
    return .control control position
  else
    check (.error (.rule position (.controlOutside control.keyword)))

/-- A declaration after its keyword, and the scope with the new variable. -/
def declaration (scope : Scope) (mutable : Bool) (keyword : Token) : Action (Stmt × Scope) := do
  let identifier ← name ("variable name after " ++ keyword.kind.text)
  let _ ← want .assign ("variable definition " ++ identifier.text)
  let value ← expr grammar scope
  let scope ← check (declare scope identifier mutable)
  return (.declare mutable identifier value keyword.position, scope)

/-- An assignment after its name, and the scope, which has a new variable if it declares one. -/
def assignment (scope : Scope) (identifier : Identifier) : Action (Stmt × Scope) := do
  let value ← expr grammar scope
  match scope.find? identifier.text with
  | none =>
      if grammar.strict then
        check (.error (.rule identifier.position (.undeclaredAssignment identifier.text)))
      else
        let scope ← check (declare scope identifier true)
        return (.assign true identifier value, scope)
  | some binding =>
      if binding.mutable then
        return (.assign false identifier value, scope)
      else
        check (.error (.rule identifier.position (.immutable identifier.text binding.position)))

/-- A statement that starts with a name: an assignment or an expression. -/
def nameStatement (scope : Scope) (identifier : Identifier) : Action (Stmt × Scope) := do
  match (← cursor).kind with
  | .assign =>
      move 1
      assignment grammar scope identifier
  | .separator .leftParen =>
      let left ← call grammar scope identifier
      let value ← operation grammar scope 0 left
      return (.expr value, scope)
  | .operator _ =>
      let left ← check (visibleName scope identifier)
      let value ← operation grammar scope 0 left
      return (.expr value, scope)
  | _ => check (.error (.rule identifier.position (.badContinuation identifier.text)))

/-- Step over `elseif`, or `else` and `if`, and tell whether they were there. -/
def conditionalElse : Action Bool := do
  if ← got (.keyword .elseIfWord) then
    return true
  else
    let here ← cursor
    if here.kind = .keyword .elseWord && here.secondKind = .keyword .ifWord then
      move 2
      return true
    else
      return false

def statement (place : Place) (scope : Scope) : Action (Stmt × Scope) :=
  .ask (Task.statement grammar place scope)

def branch (place : Place) (scope : Scope) (position : Position) (context : String) :
    Action Branch :=
  .ask (Task.branch grammar place scope position context)

def alternatives (place : Place) (scope : Scope) : Action (List Branch) :=
  .ask (Task.alternatives grammar place scope)

def forLoop (place : Place) (scope : Scope) (position : Position) : Action Stmt :=
  .ask (Task.forLoop grammar place scope position)

def block (place : Place) (scope : Scope) : Action Block :=
  .ask (Task.block grammar place scope)

def blockStatements (place : Place) (scope : Scope) : Action (List Stmt) :=
  .ask (Task.blockStatements grammar place scope)

/-- The next token chooses the production, which takes it. -/
def statementBody (place : Place) (scope : Scope) : Action (Stmt × Scope) := do
  match (← cursor).kind with
  | .keyword .funWord =>
      let keyword ← leading (.kind (.keyword .funWord)) "function definition"
      check (.error (.rule keyword.position .nestedFunction))
  | .keyword .typeWord =>
      let keyword ← leading (.kind (.keyword .typeWord)) "type definition"
      check (.error (.rule keyword.position .nestedType))
  | .keyword .returnWord =>
      let keyword ← leading (.kind (.keyword .returnWord)) "return statement"
      let result ← returnStatement grammar place scope keyword
      return (result, scope)
  | .keyword .ifWord =>
      let keyword ← leading (.kind (.keyword .ifWord)) "if statement"
      let first ← branch grammar place scope keyword.position "if statement"
      let others ← alternatives grammar place scope
      return (.choice (first :: others) keyword.position, scope)
  | .keyword .forWord =>
      let keyword ← leading (.kind (.keyword .forWord)) "for loop"
      let loop ← forLoop grammar place scope keyword.position
      return (loop, scope)
  | .keyword .whileWord =>
      let keyword ← leading (.kind (.keyword .whileWord)) "while loop"
      let test ← condition grammar scope "while loop"
      let body ← block grammar { place with inLoop := true } (scope.push "while loop")
      return (.whileLoop test body keyword.position, scope)
  | .keyword .breakWord =>
      let keyword ← leading .anyToken "loop control"
      let control ← loopControl place .leave keyword.position
      return (control, scope)
  | .keyword .continueWord =>
      let keyword ← leading .anyToken "loop control"
      let control ← loopControl place .next keyword.position
      return (control, scope)
  | .keyword .varWord =>
      let keyword ← leading .anyToken "variable definition"
      declaration grammar scope false keyword
  | .keyword .mutableVarWord =>
      let keyword ← leading .anyToken "variable definition"
      declaration grammar scope true keyword
  | .name =>
      let token ← leading (.kind .name) "statement"
      nameStatement grammar scope (identifierOf token)
  | _ =>
      let token ← next "start of statement"
      check (.error (.rule token.position (.badStart token)))

/-- A condition and the block it guards. -/
def branchBody (place : Place) (scope : Scope) (position : Position)
    (context : String) : Action Branch := do
  let test ← condition grammar scope context
  let body ← block grammar place (scope.push context)
  return .mk test body position

/-- The branches after the first one, as far as there are some. -/
def alternativesBody (place : Place) (scope : Scope) : Action (List Branch) := do
  let here ← cursor
  if ← conditionalElse then
    let next ← branch grammar place scope here.position "elseif branch"
    let others ← alternatives grammar place scope
    return next :: others
  else
    let plain ← got (.keyword .elseWord)
    if plain then
      let body ← block grammar place (scope.push "else branch")
      let test : Expr := .literal "true" (.boolean true) here.position
      return [.mk test body here.position]
    else
      return []

/-- A loop over an expression, in a scope with its variable. -/
def forLoopBody (place : Place) (scope : Scope) (position : Position) :
    Action Stmt := do
  let key ← name "for loop variable"
  let link ← name "'in' after for loop variable"
  if link.text ≠ "in" then
    check (.error (.rule link.position (.missingIn link.text)))
  else
    let bound ← condition grammar scope "for loop bound"
    check (checkBound bound)
    let inside ← check (declare (scope.push "for loop") key false)
    let body ← block grammar { place with inLoop := true } inside
    return .forEach key bound body position

/-- Statements between braces. -/
def blockBody (place : Place) (scope : Scope) : Action Block := do
  let opening ← want (.separator .leftBrace) "start of body"
  let statements ← blockStatements grammar place scope
  let closing ← want (.separator .rightBrace) "end of body"
  return .mk statements opening.position closing.position

/-- The statements of a block, each in the scope that the ones before it left. -/
def blockStatementsBody (place : Place) (scope : Scope) :
    Action (List Stmt) := do
  let here ← cursor
  if here.kind = .separator .rightBrace || here.atEnd then
    return []
  else
    let (first, scope) ← statement grammar place scope
    let others ← blockStatements grammar place scope
    return first :: others

end Statements

section Files

/-- Call for the parameters after the first parenthesis. -/
def parameterList (function : String) : Action (List Identifier) :=
  .ask (Task.parameterList function)

/-- A parameter, and more of them after a comma. -/
def parameterListBody (function : String) : Action (List Identifier) := do
  let first ← name ("parameter of function " ++ function)
  if ← got (.separator .comma) then
    let others ← parameterList function
    return first :: others
  else
    let _ ← want (.separator .rightParen) ("parameters of function " ++ function)
    return [first]

/-- The parameters of a function, none included. -/
def parameters (function : String) : Action (List Identifier) := do
  let _ ← want (.separator .leftParen) ("parameters of function " ++ function)
  if ← got (.separator .rightParen) then
    return []
  else
    parameterList function

variable (grammar : Grammar)

/-- The block of a function, in a scope of its parameters only. -/
def functionBody (scope : Scope) (function : String) (names : List Identifier) :
    Action Block := do
  let inside ← check (declareAll (scope.push ("function " ++ function)) names)
  block grammar ⟨true, false⟩ inside

/-- A function after its keyword. -/
def functionDefinition (known : Declarations) (position : Position) : Action FunctionDecl := do
  let identifier ← name "function name"
  check (newFunction known.functions identifier)
  let names ← parameters identifier.text
  let body ←
    (functionBody grammar known.scope identifier.text names).mapFault
      (.inside position (.function identifier.text))
  return ⟨identifier, names, body, position⟩

/-- A function or a statement, and the declarations after it. -/
def item (known : Declarations) : Action (Item × Declarations) := do
  match (← cursor).kind with
  | .keyword .funWord =>
      let keyword ← leading (.kind (.keyword .funWord)) "function definition"
      let definition ← functionDefinition grammar known keyword.position
      let signature : Signature := ⟨some definition.parameters.length, false⟩
      return (.function definition,
        { known with functions := known.functions.insert definition.name.text signature })
  | .keyword .typeWord =>
      let keyword ← leading (.kind (.keyword .typeWord)) "type definition"
      let identifier ← name "type name"
      let scope ← check (declare known.scope identifier false)
      return (.type ⟨identifier, keyword.position⟩, { known with scope })
  | _ =>
      let (inner, scope) ← statement grammar ⟨false, false⟩ known.scope
      return (.statement inner, { known with scope })

/-- Call for the items up to the end of input. -/
def items (known : Declarations) : Action (List Item × Declarations) :=
  .ask (Task.items grammar known)

/-- An item, and those after it. -/
def itemsBody (known : Declarations) : Action (List Item × Declarations) := do
  if (← cursor).atEnd then
    return ([], known)
  else
    let (first, known) ← item grammar known
    let (others, known) ← items grammar known
    return (first :: others, known)

/-- A file: all its items, with what they declare. -/
def file (known : Declarations) : Action File := do
  let start ← cursor
  let (items, after) ← items grammar known
  let file : File := ⟨items, start.position⟩
  check (checkCalls after.functions file.calls)
  return file

end Files

/-- What each task does. -/
def body : (task : Task) → Action task.Answer
  | .expr grammar scope => exprBody grammar scope
  | .operation grammar scope bound left => operationBody grammar scope bound left
  | .operand grammar scope => operandBody grammar scope
  | .call grammar scope function => callBody grammar scope function
  | .exprList grammar scope closing context => exprListBody grammar scope closing context
  | .templateParts grammar scope position parts => templatePartsBody grammar scope position parts
  | .statement grammar place scope => statementBody grammar place scope
  | .branch grammar place scope position context => branchBody grammar place scope position context
  | .alternatives grammar place scope => alternativesBody grammar place scope
  | .forLoop grammar place scope position => forLoopBody grammar place scope position
  | .block grammar place scope => blockBody grammar place scope
  | .blockStatements grammar place scope => blockStatementsBody grammar place scope
  | .parameterList function => parameterListBody function
  | .items grammar known => itemsBody grammar known

end Scripting.Parser.Unbounded
