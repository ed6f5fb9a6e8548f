import Scripting.Token.Scanner
import Scripting.Token.Written
import Scripting.SyntaxError

namespace Scripting

/-!
# Token tables

The tokens of a script in three columns: where they stand, what they are and what they hold.  The
parts of a template are listed below it, indented.
-/

namespace TokenTable

/-- A text filled up with spaces to a width. -/
def padded (width : Nat) (text : String) : String :=
  text ++ String.ofList (List.replicate (width - text.length) ' ')

/-- A row of the table. -/
def row (place kind detail : String) : String :=
  padded 20 place ++ " " ++ padded 12 kind ++ " " ++ detail ++ "\n"

/-- A sequence of dashes. -/
def rule (width : Nat) : String :=
  String.ofList (List.replicate width '-')

/-- The rows above the tokens. -/
def header : String :=
  row "POSITION" "TOKEN" "LITERAL" ++ row (rule 20) (rule 12) (rule 20)

/-- What a token holds: of a constant its kind too. -/
def detail : Token → String
  | .literal _ (.string content) _ => LiteralKind.text .string ++ " " ++ writtenString content
  | .literal text value _ => value.kind.text ++ " " ++ text
  | token => token.spelling

mutual

/-- The rows of a token. -/
def ofToken (indent : String) : Token → String
  | .template parts position =>
      row (indent ++ position.text) TokenKind.template.text ""
        ++ ofParts (indent ++ "  ") parts
  | token => row (indent ++ token.position.text) token.kind.text (detail token)

/-- The rows of the parts of a template. -/
def ofParts (indent : String) : List Part → String
  | [] => ""
  | part :: rest => ofPart indent part ++ ofParts indent rest

/-- The rows of a part of a template. -/
def ofPart (indent : String) : Part → String
  | .fragment text => row indent "TEXT" (writtenString text)
  | .interpolation tokens => ofTokens indent tokens

/-- The rows of a sequence of tokens. -/
def ofTokens (indent : String) : List Token → String
  | [] => ""
  | token :: rest => ofToken indent token ++ ofTokens indent rest

end

/-- The table of a script, or its header and the error that it has. -/
def ofScript (name text : String) : Except String String :=
  match scan name text with
  | .ok tokens => .ok (header ++ ofTokens "" tokens)
  | .error error =>
      .error (header ++ "\nErrors:\n  " ++ (SyntaxError.lexical error).message ++ "\n")

end TokenTable

end Scripting
