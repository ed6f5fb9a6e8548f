import Scripting.Literal
import Scripting.Position
import Scripting.Text.Quoted
import Scripting.Token.Kind

namespace Scripting

/-!
# Tokens

A token keeps the text it was written with and the position of its first character.  A string
template holds the token sequences of its interpolations.
-/

mutual

/-- One token of a script. -/
inductive Token where
  | name (text : String) (position : Position)
  | literal (text : String) (value : Literal) (position : Position)
  | template (parts : List Part) (position : Position)
  | mark (fixed : Mark) (spelling : String) (position : Position)

/-- One part of a string template: text between interpolations, or an interpolation. -/
inductive Part where
  | fragment (text : String)
  | interpolation (tokens : List Token)

end

namespace Token

/-- The position of the first character of a token. -/
def position : Token → Position
  | .name _ place => place
  | .literal _ _ place => place
  | .template _ place => place
  | .mark _ _ place => place

/-- The kind of a token. -/
def kind : Token → TokenKind
  | .name .. => .name
  | .literal .. => .literal
  | .template .. => .template
  | .mark fixed .. => .mark fixed

/-- The text a token was written with: the content of a string constant, and nothing for a
template. -/
def spelling : Token → String
  | .name text _ => text
  | .literal text _ _ => text
  | .template _ _ => ""
  | .mark _ text _ => text

/-- Whether a token can end an operand, so that a minus after it subtracts. -/
def endsOperand (token : Token) : Bool :=
  match token.kind with
  | .name | .literal | .template => true
  | .keyword .nullWord | .separator .rightParen | .separator .rightBracket => true
  | _ => false

end Token

/-- How a constant is shown: a string in quotes, all else as written. -/
def Literal.shown (value : Literal) (text : String) : String :=
  match value with
  | .string content => Text.quoted content
  | _ => text

mutual

/-- How a token is shown in dumps and messages. -/
def Token.shown : Token → String
  | .name text _ => "|" ++ text ++ "|"
  | .literal text value _ => value.shown text
  | .template parts _ => "template[" ++ " ".intercalate (Part.shownAll parts) ++ "]"
  | .mark fixed _ _ => fixed.text

/-- How the parts of a template are shown. -/
def Part.shownAll : List Part → List String
  | [] => []
  | part :: rest => part.shown :: Part.shownAll rest

/-- How a part of a template is shown. -/
def Part.shown : Part → String
  | .fragment text => Text.quoted text
  | .interpolation tokens => "\x7b" ++ " ".intercalate (Token.shownAll tokens) ++ "\x7d"

/-- How the tokens of a sequence are shown. -/
def Token.shownAll : List Token → List String
  | [] => []
  | token :: rest => token.shown :: Token.shownAll rest

end

mutual

/-- The number of tokens in a token, those of its interpolations included. -/
def Token.size : Token → Nat
  | .template parts _ => Part.sizeAll parts + 1
  | _ => 1

/-- The number of tokens in the parts of a template; every part counts as one more. -/
def Part.sizeAll : List Part → Nat
  | [] => 0
  | part :: rest => part.size + Part.sizeAll rest

/-- The number of tokens in a part of a template, and one for the part. -/
def Part.size : Part → Nat
  | .fragment _ => 1
  | .interpolation tokens => Token.sizeAll tokens + 1

/-- The number of tokens in a sequence, those of interpolations included. -/
def Token.sizeAll : List Token → Nat
  | [] => 0
  | token :: rest => token.size + Token.sizeAll rest

end

end Scripting
