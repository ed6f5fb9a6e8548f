import Scripting.SyntaxError

namespace Scripting

/-!
# Reading tokens

A `TokenCursor` stands between two tokens of a sequence.  A parser looks at the tokens ahead and
takes one if it is of the wanted kind.
-/

/-- A place between tokens; the nearest token comes first on both sides. -/
structure TokenCursor where
  behind : List Token
  ahead : List Token

namespace TokenCursor

/-- The start of a sequence. -/
def ofTokens (tokens : List Token) : TokenCursor :=
  ⟨[], tokens⟩

/-- Whether no token is left. -/
def atEnd (cursor : TokenCursor) : Bool :=
  cursor.ahead.isEmpty

/-- The token at a distance from the next one; negative distances look behind. -/
def peek (cursor : TokenCursor) (distance : Int) : Option Token :=
  match distance with
  | .ofNat ahead => cursor.ahead[ahead]?
  | .negSucc behind => cursor.behind[behind]?

/-- The kind of the next token. -/
def kind (cursor : TokenCursor) : TokenKind :=
  match cursor.ahead with
  | token :: _ => token.kind
  | [] => .endOfInput

/-- The kind of the token after the next one. -/
def secondKind (cursor : TokenCursor) : TokenKind :=
  match cursor.ahead with
  | _ :: token :: _ => token.kind
  | _ => .endOfInput

/-- The position of the next token, or of the last one at the end. -/
def position (cursor : TokenCursor) : Position :=
  match cursor.ahead, cursor.behind with
  | token :: _, _ => token.position
  | [], token :: _ => token.position
  | [], [] => .none

/-- Step over the next token, if there is one. -/
def skip (cursor : TokenCursor) : TokenCursor :=
  match cursor.ahead with
  | token :: rest => ⟨token :: cursor.behind, rest⟩
  | [] => cursor

/-- Step over the next token if it is of a kind. -/
def accept? (cursor : TokenCursor) (kind : TokenKind) : Option TokenCursor :=
  match cursor.ahead with
  | token :: rest => if token.kind = kind then some ⟨token :: cursor.behind, rest⟩ else none
  | [] => none

/-- Take the next token if it is as expected; the context says what was being read. -/
def expect (cursor : TokenCursor) (expected : Expectation) (context : String) :
    Except SyntaxError (Token × TokenCursor) :=
  match cursor.ahead with
  | token :: rest =>
      if expected.accepts token.kind then
        .ok (token, ⟨token :: cursor.behind, rest⟩)
      else
        .error (.unexpected token.position expected (some token) context)
  | [] => .error (.unexpected cursor.position expected none context)

/-- Take a token of a kind. -/
def want (cursor : TokenCursor) (kind : TokenKind) (context : String) :
    Except SyntaxError (Token × TokenCursor) :=
  cursor.expect (.kind kind) context

/-- Take any token. -/
def next (cursor : TokenCursor) (context : String) : Except SyntaxError (Token × TokenCursor) :=
  cursor.expect .anyToken context

end TokenCursor

end Scripting
