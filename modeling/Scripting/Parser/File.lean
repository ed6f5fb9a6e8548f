import Scripting.Parser.Statement
import Scripting.Tree.Calls

namespace Scripting

/-!
# Parsing files

A file is parsed item by item.  Calls are checked after the last item, so that a function may be
called before it is defined.  When a file is refused, the top-level variables of the items before
the error stay declared, but its functions do not.
-/

namespace Parser

/-- An error in the body of a function is one of its definition at a position. -/
def inFunction (position : Position) (name : String) (reading : Except SyntaxError Result) :
    Except SyntaxError Result :=
  reading.mapError (.inside position (.function name))

/-- A name for a function, which must be new. -/
def newFunction (functions : Signatures) (identifier : Identifier) : Except SyntaxError Unit :=
  match functions[identifier.text]? with
  | none => .ok ()
  | some signature =>
      if signature.builtin then
        .error (.rule identifier.position (.builtinRedefined identifier.text))
      else
        .error (.rule identifier.position (.functionRedefined identifier.text))

/-- Parse names with commas between them, up to and with a closing parenthesis. -/
def parameterList (budget : Nat) (function : String) (cursor : TokenCursor) :
    Except SyntaxError (List Identifier × TokenCursor) :=
  match budget with
  | 0 => .error (tokensEnded cursor)
  | budget + 1 => do
      let (first, rest) ← name cursor ("parameter of function " ++ function)
      match rest.accept? (.separator .comma) with
      | some rest => do
          let (others, rest) ← parameterList budget function rest
          .ok (first :: others, rest)
      | none => do
          let (_, rest) ←
            rest.want (.separator .rightParen) ("parameters of function " ++ function)
          .ok ([first], rest)

/-- Parse the parameters of a function in parentheses. -/
def parameters (budget : Nat) (function : String) (cursor : TokenCursor) :
    Except SyntaxError (List Identifier × TokenCursor) := do
  let (_, rest) ← cursor.want (.separator .leftParen) ("parameters of function " ++ function)
  match rest.accept? (.separator .rightParen) with
  | some rest => .ok ([], rest)
  | none => parameterList budget function rest

/-- Parse the body of a function, in which its parameters are visible. -/
def functionBody (budget : Nat) (grammar : Grammar) (scope : Scope) (function : String)
    (names : List Identifier) (cursor : TokenCursor) :
    Except SyntaxError (Block × TokenCursor) := do
  let inside ← declareAll (scope.push ("function " ++ function)) names
  block budget grammar ⟨true, false⟩ inside cursor

/-- Parse the definition of a function after its keyword. -/
def functionDefinition (budget : Nat) (grammar : Grammar) (known : Declarations)
    (position : Position) (cursor : TokenCursor) :
    Except SyntaxError (FunctionDecl × TokenCursor) := do
  let (identifier, rest) ← name cursor "function name"
  newFunction known.functions identifier
  let (names, rest) ← parameters budget identifier.text rest
  let (body, rest) ←
    inFunction position identifier.text
      (functionBody budget grammar known.scope identifier.text names rest)
  .ok (⟨identifier, names, body, position⟩, rest)

/-- Parse an item: what it is, what is known after it and where the parser stands. -/
def item (budget : Nat) (grammar : Grammar) (known : Declarations) (cursor : TokenCursor) :
    Except SyntaxError (Item × Declarations × TokenCursor) :=
  match cursor.kind with
  | .keyword .funWord => do
      let (definition, rest) ←
        functionDefinition budget grammar known cursor.position cursor.skip
      let signature : Signature := ⟨some definition.parameters.length, false⟩
      .ok (.function definition,
        { known with functions := known.functions.insert definition.name.text signature }, rest)
  | .keyword .typeWord => do
      let (identifier, rest) ← name cursor.skip "type name"
      let scope ← declare known.scope identifier false
      .ok (.type ⟨identifier, cursor.position⟩, { known with scope }, rest)
  | _ => do
      let (inner, scope, rest) ← statement budget grammar ⟨false, false⟩ known.scope cursor
      .ok (.statement inner, { known with scope }, rest)

/-- Parse all items: what was known when the parser stopped, and the items unless there was an
error. -/
def items (budget : Nat) (grammar : Grammar) (known : Declarations) (cursor : TokenCursor) :
    Declarations × Except SyntaxError (List Item) :=
  match budget with
  | 0 => (known, .error (tokensEnded cursor))
  | budget + 1 =>
      if cursor.atEnd then
        (known, .ok [])
      else
        match item budget grammar known cursor with
        | .error error => (known, .error error)
        | .ok (first, known, rest) =>
            match items budget grammar known rest with
            | (known, .error error) => (known, .error error)
            | (known, .ok others) => (known, .ok (first :: others))

/-- Check one call against the known functions. -/
def checkCall (functions : Signatures) (call : CallSite) : Except SyntaxError Unit :=
  match functions[call.function.text]? with
  | none => .error (.rule call.function.position (.undefinedFunction call.function.text))
  | some signature =>
      match signature.arity with
      | none => .ok ()
      | some arity =>
          if arity = call.argumentCount then
            .ok ()
          else
            .error (.rule call.function.position
              (.wrongArity call.function.text arity call.argumentCount))

/-- Check calls against the known functions, in order. -/
def checkCalls (functions : Signatures) : List CallSite → Except SyntaxError Unit
  | [] => .ok ()
  | first :: rest => do
      checkCall functions first
      checkCalls functions rest

/-- A number of steps that is enough for every token sequence. -/
def budgetFor (tokens : List Token) : Nat :=
  8 * (Token.sizeAll tokens + 1)

end Parser

/-- What parsing a script has led to. -/
structure Parsed where
  /-- The top-level variables, those before an error too. -/
  scope : Scope
  /-- The functions, which an error leaves as they were. -/
  functions : Signatures
  outcome : Except SyntaxError File

/-- Parse a token sequence. -/
def parseTokens (grammar : Grammar) (known : Declarations) (tokens : List Token) : Parsed :=
  let cursor := TokenCursor.ofTokens tokens
  match Parser.items (Parser.budgetFor tokens) grammar known cursor with
  | (after, .error error) => ⟨after.scope, known.functions, .error error⟩
  | (after, .ok items) =>
      let file : File := ⟨items, cursor.position⟩
      match Parser.checkCalls after.functions file.calls with
      | .error error => ⟨after.scope, known.functions, .error error⟩
      | .ok () => ⟨after.scope, after.functions, .ok file⟩

/-- Parse the text of a script. -/
def parse (grammar : Grammar) (known : Declarations) (file text : String) : Parsed :=
  match scan file text with
  | .error error => ⟨known.scope, known.functions, .error (.lexical error)⟩
  | .ok tokens => parseTokens grammar known tokens

end Scripting
