import Scripting.Source
import Scripting.Text.Blank
import Scripting.Text.DecimalDigit
import Scripting.Text.Letter
import Scripting.Token.Basic

namespace Scripting

/-!
# Scanning

`scan` splits the text of a script into tokens.  Blanks and line comments separate tokens.  Inside
a quoted text an open brace starts an interpolation, which is scanned as a token sequence of its
own up to the matching close brace.

The two mutually recursive functions take a budget of characters: both step over at least one
character before every recursive call, so a budget of all characters ahead is never used up before
the text ends, and an empty budget means the end of the text.
-/

/-- What is wrong with a sequence of characters. -/
inductive LexicalFault where
  | secondPoint (digits : String)
  | invalidNumber (kind : NumberKind) (text : String) (fault : NumberFault)
  | openText
  | openEscape
  | unknownEscape (character : Char)
  | openInterpolation
  | loneBang
  | lonePoint
  | strayCharacter (character : Char)
  deriving Repr, DecidableEq

namespace LexicalFault

/-- The wording of a fault. -/
def message : LexicalFault → String
  | .secondPoint digits => "two decimal points in number " ++ digits ++ "."
  | .invalidNumber kind text _ => "invalid " ++ kind.literalKind.text ++ " literal " ++ text
  | .openText => "string literal not terminated"
  | .openEscape => "escape sequence not terminated"
  | .unknownEscape character => "unknown escape sequence \\" ++ character.toString
  | .openInterpolation => "string template interpolation not terminated"
  | .loneBang => "unexpected '!' (only != is an operator)"
  | .lonePoint => "unexpected '.' (only ... is an operator)"
  | .strayCharacter character => "unexpected character " ++ Text.quotedChar character

/-- Whether more text could mend the fault. -/
def endsEarly : LexicalFault → Bool
  | .openText | .openEscape | .openInterpolation => true
  | _ => false

end LexicalFault

/-- A fault and where it is. -/
structure LexicalError where
  position : Position
  fault : LexicalFault
  deriving Repr, DecidableEq

namespace Scanner

/-- Whether a character can start a name. -/
def startsName (character : Char) : Bool :=
  character = '_' || Text.isLetter character

/-- Whether a character can continue a name; a dash can. -/
def continuesName (character : Char) : Bool :=
  startsName character || Text.isDecimalDigit character || character = '-'

/-- The token that a word is. -/
def wordToken (word : String) (position : Position) : Token :=
  if word = "true" then
    .literal word (.boolean true) position
  else if word = "false" then
    .literal word (.boolean false) position
  else
    match Keyword.ofWord? word with
    | some keyword => .mark (.keyword keyword) word position
    | none => .name word position

/-- Scan a word; `var` takes a star that follows it at once. -/
def scanWord (source : Source) : Token × Source :=
  let word := source.ahead.takeWhile continuesName
  let rest := Source.advance word.length source
  let text := String.ofList word
  if text = "var" && rest.next? = some '*' then
    (.mark (.keyword .mutableVarWord) "var*" source.position, rest.skip)
  else
    (wordToken text source.position, rest)

/-- The digits of a number with at most one point, and whether a second point follows.  Two points
in a row belong to what comes after the number. -/
def numberBody (pointSeen : Bool) : List Char → List Char × Bool
  | [] => ([], false)
  | character :: rest =>
      if character.isDigit then
        let (body, second) := numberBody pointSeen rest
        (character :: body, second)
      else if character = '.' && rest.head? ≠ some '.' then
        if pointSeen then
          ([], true)
        else
          let (body, second) := numberBody true rest
          (character :: body, second)
      else
        ([], false)

/-- The kind of a number, by its suffix or else by its point. -/
def numberKind (digits : List Char) (suffix : Option NumberKind) : NumberKind :=
  match suffix with
  | some kind => kind
  | none => if digits.contains '.' then .double else .integer

/-- Scan a number with an optional sign and an optional suffix. -/
def scanNumber (source : Source) : Except LexicalError (Token × Source) :=
  let sign := if source.next? = some '-' then ['-'] else []
  let (body, second) := numberBody false (source.ahead.drop sign.length)
  let digits := sign ++ body
  let afterDigits := Source.advance digits.length source
  if second then
    .error ⟨afterDigits.position, .secondPoint (String.ofList digits)⟩
  else
    let suffix := afterDigits.next?.bind NumberKind.ofSuffix?
    let kind := numberKind digits suffix
    let length := if suffix.isSome then 1 else 0
    let text := String.ofList (digits ++ afterDigits.ahead.take length)
    match kind.read digits with
    | .ok value =>
        .ok (.literal text value source.position, Source.advance length afterDigits)
    | .error fault => .error ⟨source.position, .invalidNumber kind text fault⟩

/-- Whether a number starts with a character.  After an operand a minus is no sign. -/
def startsNumber (tokens : List Token) (character : Char) (rest : List Char) : Bool :=
  character.isDigit ||
    (character = '-' && rest.head?.any Char.isDigit && !tokens.head?.any Token.endsOperand)

/-- The character that an escape letter stands for. -/
def unescape? : Char → Option Char
  | 'n' => some '\n'
  | 't' => some '\t'
  | 'r' => some '\r'
  | '0' => some '\x00'
  | '\\' => some '\\'
  | '\'' => some '\''
  | '"' => some '"'
  | '{' => some '{'
  | '}' => some '}'
  | _ => none

/-- The mark of a single character. -/
def singleMark? : Char → Option Mark
  | '(' => some (.separator .leftParen)
  | ')' => some (.separator .rightParen)
  | '{' => some (.separator .leftBrace)
  | '}' => some (.separator .rightBrace)
  | '[' => some (.separator .leftBracket)
  | ']' => some (.separator .rightBracket)
  | ',' => some (.separator .comma)
  | '+' => some (.operator (.arithmetic .add))
  | '-' => some (.operator (.arithmetic .subtract))
  | '*' => some (.operator (.arithmetic .multiply))
  | '/' => some (.operator (.arithmetic .divide))
  | '^' => some (.operator (.arithmetic .power))
  | '%' => some (.operator (.arithmetic .remainder))
  | '<' => some (.operator .less)
  | '>' => some (.operator .greater)
  | '=' => some .assign
  | _ => none

/-- The mark that a character starts. -/
def leadingMark (character : Char) (rest : List Char) : Except LexicalFault Mark :=
  match character, rest with
  | '=', '=' :: _ => .ok (.operator .equal)
  | '!', '=' :: _ => .ok (.operator .notEqual)
  | '!', _ => .error .loneBang
  | '.', '.' :: '.' :: _ => .ok (.operator .range)
  | '.', _ => .error .lonePoint
  | _, _ =>
      match singleMark? character with
      | some mark => .ok mark
      | none => .error (.strayCharacter character)

/-- Whether a line comment starts with a character. -/
def startsComment (character : Char) (rest : List Char) : Bool :=
  character = '/' && rest.head? = some '/'

/-- Step over the rest of the line. -/
def skipLine (source : Source) : Source :=
  Source.advance (source.ahead.takeWhile (· ≠ '\n')).length source

/-- The number of open braces of an interpolation after a mark. -/
def braceDepth (mark : Mark) (depth : Nat) : Nat :=
  match mark with
  | .separator .leftBrace => depth + 1
  | .separator .rightBrace => depth - 1
  | _ => depth

/-- The parts of a template with the text since the last interpolation, which is kept in reverse
order, as the parts are. -/
def flush (text : List Char) (parts : List Part) : List Part :=
  if text.isEmpty then parts else .fragment (String.ofList text.reverse) :: parts

/-- What ends at the end of the text: the script, or an interpolation too early. -/
def endOfText (braces : Option Nat) (tokens : List Token) (source : Source) :
    Except LexicalError (List Token × Source) :=
  match braces with
  | none => .ok (tokens.reverse, source)
  | some _ => .error ⟨source.position, .openInterpolation⟩

mutual

/-- Scan tokens up to the end of the text or, with a count of open braces, up to the brace that
closes an interpolation.  The tokens so far are in reverse order. -/
def scanTokens (budget : Nat) (braces : Option Nat) (tokens : List Token) (source : Source) :
    Except LexicalError (List Token × Source) :=
  match budget with
  | 0 => endOfText braces tokens source
  | budget + 1 =>
      match source.ahead with
      | [] => endOfText braces tokens source
      | character :: rest =>
          if Text.isBlank character then
            scanTokens budget braces tokens source.skip
          else if startsName character then
            let (token, after) := scanWord source
            scanTokens budget braces (token :: tokens) after
          else if startsNumber tokens character rest then
            match scanNumber source with
            | .ok (token, after) => scanTokens budget braces (token :: tokens) after
            | .error error => .error error
          else if character = '"' || character = '\'' then
            match scanText budget character source.position none [] source.skip with
            | .ok (token, after) => scanTokens budget braces (token :: tokens) after
            | .error error => .error error
          else if character = '}' && braces = some 0 then
            .ok (tokens.reverse, source.skip)
          else if startsComment character rest then
            scanTokens budget braces tokens (skipLine source)
          else
            match leadingMark character rest with
            | .ok mark =>
                scanTokens budget (braces.map (braceDepth mark))
                  (.mark mark mark.text source.position :: tokens)
                  (Source.advance mark.text.length source)
            | .error fault => .error ⟨source.position, fault⟩

/-- Scan a quoted text up to its closing quote.  The text since the last interpolation and the
parts before it are in reverse order; there are parts as soon as there is an interpolation. -/
def scanText (budget : Nat) (quote : Char) (opened : Position) (parts : Option (List Part))
    (text : List Char) (source : Source) : Except LexicalError (Token × Source) :=
  match budget with
  | 0 => .error ⟨opened, .openText⟩
  | budget + 1 =>
      match source.next? with
      | none => .error ⟨opened, .openText⟩
      | some character =>
          let inside := source.skip
          if character = quote then
            match parts with
            | none =>
                let content := String.ofList text.reverse
                .ok (.literal content (.string content) opened, inside)
            | some parts => .ok (.template (flush text parts).reverse opened, inside)
          else if character = '\\' then
            match inside.next? with
            | none => .error ⟨inside.position, .openEscape⟩
            | some letter =>
                match unescape? letter with
                | some meant =>
                    scanText budget quote opened parts (meant :: text) inside.skip
                | none => .error ⟨inside.position, .unknownEscape letter⟩
          else if character = '{' then
            match scanTokens budget (some 0) [] inside with
            | .ok (tokens, after) =>
                scanText budget quote opened
                  (some (.interpolation tokens :: flush text (parts.getD []))) [] after
            | .error error => .error error
          else
            scanText budget quote opened parts (character :: text) inside

end

end Scanner

/-- Scan the characters of a script. -/
def scanChars (file : String) (text : List Char) : Except LexicalError (List Token) :=
  match Scanner.scanTokens text.length none [] (Source.ofText file text) with
  | .ok (tokens, _) => .ok tokens
  | .error error => .error error

/-- Scan the text of a script. -/
def scan (file : String) (text : String) : Except LexicalError (List Token) :=
  scanChars file text.toList

end Scripting
