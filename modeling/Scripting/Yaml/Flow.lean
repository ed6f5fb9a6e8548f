import Scripting.Yaml.Node

namespace Scripting.Yaml

/-!
# Values on one line

Scalars with and without quotes, lists in brackets and mappings in braces.  Each reader returns
the characters that it leaves.
-/

/-- Whether a character separates words on a line. -/
def isGap (character : Char) : Bool :=
  character = ' ' || character = '\t'

/-- The characters after the gap at the start. -/
def skipGap (characters : List Char) : List Char :=
  characters.dropWhile isGap

/-- The characters without the gap at the end. -/
def dropGapAtEnd (characters : List Char) : List Char :=
  (characters.reverse.dropWhile isGap).reverse

/-- Whether nothing is left on a line but a gap or a comment. -/
def isIdle (characters : List Char) : Bool :=
  match skipGap characters with
  | [] => true
  | first :: _ => first = '#'

/-- Whether the characters after a colon make it the mark of a value. -/
def endsKey (characters : List Char) : Bool :=
  match characters with
  | [] => true
  | first :: _ => isGap first

/-- The content of a text in single quotes, after the first of them: a quote is written twice. -/
def singleQuoted : List Char → Option (List Char × List Char)
  | [] => none
  | '\'' :: '\'' :: rest => (singleQuoted rest).map fun (text, left) => ('\'' :: text, left)
  | '\'' :: rest => some ([], rest)
  | character :: rest => (singleQuoted rest).map fun (text, left) => (character :: text, left)

/-- The character that stands after a backslash as one letter. -/
def shortEscape? : Char → Option Char
  | '0' => some '\x00'
  | 'a' => some '\x07'
  | 'b' => some '\x08'
  | 't' | '\t' => some '\t'
  | 'n' => some '\n'
  | 'v' => some '\x0b'
  | 'f' => some '\x0c'
  | 'r' => some '\r'
  | 'e' => some '\x1b'
  | ' ' => some ' '
  | '"' => some '"'
  | '\'' => some '\''
  | '/' => some '/'
  | '\\' => some '\\'
  | 'N' => some '\u0085'
  | '_' => some '\u00a0'
  | 'L' => some '\u2028'
  | 'P' => some '\u2029'
  | _ => none

/-- The character with a code in hexadecimal digits. -/
def codedChar? (digits : List Char) : Option Char :=
  (natural? 16 digits).bind fun code => if code.isValidChar then some (Char.ofNat code) else none

/-- The content of a text in double quotes, after the first of them. -/
def doubleQuoted : List Char → Option (List Char × List Char)
  | [] => none
  | '"' :: rest => some ([], rest)
  | '\\' :: 'x' :: a :: b :: rest => do
      let character ← codedChar? [a, b]
      let (text, left) ← doubleQuoted rest
      some (character :: text, left)
  | '\\' :: 'u' :: a :: b :: c :: d :: rest => do
      let character ← codedChar? [a, b, c, d]
      let (text, left) ← doubleQuoted rest
      some (character :: text, left)
  | '\\' :: 'U' :: a :: b :: c :: d :: e :: f :: g :: h :: rest => do
      let character ← codedChar? [a, b, c, d, e, f, g, h]
      let (text, left) ← doubleQuoted rest
      some (character :: text, left)
  | '\\' :: letter :: rest => do
      let character ← shortEscape? letter
      let (text, left) ← doubleQuoted rest
      some (character :: text, left)
  | character :: rest => do
      let (text, left) ← doubleQuoted rest
      some (character :: text, left)

/-- Whether a character has a meaning inside brackets and braces. -/
def isFlowMark (character : Char) : Bool :=
  character = ',' || character = '[' || character = ']' || character = '{' || character = '}'

/-- A text without quotes: it ends before a comment, before the mark of a value and, inside
brackets and braces, before one of their marks. -/
def plainText (nested : Bool) : List Char → List Char × List Char
  | [] => ([], [])
  | character :: rest =>
      if (character = ':' && endsKey rest) || (isGap character && rest.head? = some '#')
          || (nested && isFlowMark character) then
        ([], character :: rest)
      else
        let (text, left) := plainText nested rest
        (character :: text, left)

/-- A scalar on a line; without quotes it is not empty. -/
def scalar? (nested : Bool) (line : Nat) (characters : List Char) :
    Option (Scalar × List Char) :=
  match characters with
  | '\'' :: rest =>
      (singleQuoted rest).map fun (text, left) => (⟨line, true, String.ofList text⟩, left)
  | '"' :: rest =>
      (doubleQuoted rest).map fun (text, left) => (⟨line, true, String.ofList text⟩, left)
  | _ =>
      let (text, left) := plainText nested characters
      let text := dropGapAtEnd text
      if text.isEmpty then none else some (⟨line, false, String.ofList text⟩, left)

mutual

/-- A value on a line. -/
def flowNode (fuel line : Nat) (nested : Bool) (characters : List Char) :
    Option (Node × List Char) :=
  match fuel with
  | 0 => none
  | fuel + 1 =>
      match characters with
      | '[' :: rest =>
          (flowItems fuel line rest).map fun (items, left) => (.sequence line items, left)
      | '{' :: rest =>
          (flowEntries fuel line rest).map fun (entries, left) => (.mapping line entries, left)
      | _ => (scalar? nested line characters).map fun (content, left) => (.scalar content, left)

/-- The items of a list up to its closing bracket. -/
def flowItems (fuel line : Nat) (characters : List Char) : Option (List Node × List Char) :=
  match fuel with
  | 0 => none
  | fuel + 1 =>
      match skipGap characters with
      | ']' :: rest => some ([], rest)
      | start => do
          let (item, left) ← flowNode fuel line true start
          match skipGap left with
          | ',' :: rest =>
              let (items, left) ← flowItems fuel line rest
              some (item :: items, left)
          | ']' :: rest => some ([item], rest)
          | _ => none

/-- The entries of a mapping up to its closing brace. -/
def flowEntries (fuel line : Nat) (characters : List Char) : Option (List Entry × List Char) :=
  match fuel with
  | 0 => none
  | fuel + 1 =>
      match skipGap characters with
      | '}' :: rest => some ([], rest)
      | start => do
          let (key, left) ← scalar? true line start
          let (value, left) ←
            match skipGap left with
            | ':' :: rest => flowValue fuel line (skipGap rest)
            | rest => some (.nothing line, rest)
          match skipGap left with
          | ',' :: rest =>
              let (entries, left) ← flowEntries fuel line rest
              some (.mk key value :: entries, left)
          | '}' :: rest => some ([.mk key value], rest)
          | _ => none

/-- The value of an entry in braces, which may be missing. -/
def flowValue (fuel line : Nat) (characters : List Char) : Option (Node × List Char) :=
  match fuel with
  | 0 => none
  | fuel + 1 =>
      match characters with
      | ',' :: _ | '}' :: _ => some (.nothing line, characters)
      | _ => flowNode fuel line true characters

end

/-- The value that takes up the rest of a line, up to a comment. -/
def inlineNode? (line : Nat) (characters : List Char) : Option Node :=
  match flowNode (2 * characters.length + 1) line false characters with
  | some (node, left) => if isIdle left then some node else none
  | none => none

end Scripting.Yaml
