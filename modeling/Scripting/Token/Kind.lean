namespace Scripting

/-!
# Kinds of tokens

Operators, separators and keywords are the fixed marks of the language.  A token is such a mark, a
name, a constant or a string template.
-/

/-- The operations of arithmetic. -/
inductive Arithmetic where
  | add
  | subtract
  | multiply
  | divide
  | remainder
  | power
  deriving Repr, DecidableEq

namespace Arithmetic

/-- The spelling of an operation. -/
def text : Arithmetic → String
  | .add => "+"
  | .subtract => "-"
  | .multiply => "*"
  | .divide => "/"
  | .remainder => "%"
  | .power => "^"

/-- The binding strength of an operation where operators are tiered. -/
def tier : Arithmetic → Nat
  | .add | .subtract => 3
  | .multiply | .divide | .remainder => 4
  | .power => 5

end Arithmetic

/-- The binary operators. -/
inductive Operator where
  | equal
  | notEqual
  | less
  | greater
  | range
  | arithmetic (operation : Arithmetic)
  deriving Repr, DecidableEq

namespace Operator

/-- The spelling of an operator. -/
def text : Operator → String
  | .equal => "=="
  | .notEqual => "!="
  | .less => "<"
  | .greater => ">"
  | .range => "..."
  | .arithmetic operation => operation.text

/-- The binding strength of an operator where operators are tiered. -/
def tier : Operator → Nat
  | .range => 1
  | .equal | .notEqual | .less | .greater => 2
  | .arithmetic operation => operation.tier

end Operator

/-- Brackets and the comma. -/
inductive Separator where
  | leftParen
  | rightParen
  | leftBrace
  | rightBrace
  | leftBracket
  | rightBracket
  | comma
  deriving Repr, DecidableEq

namespace Separator

/-- The spelling of a separator. -/
def text : Separator → String
  | .leftParen => "("
  | .rightParen => ")"
  | .leftBrace => "\x7b"
  | .rightBrace => "\x7d"
  | .leftBracket => "["
  | .rightBracket => "]"
  | .comma => ","

end Separator

/-- The reserved words. -/
inductive Keyword where
  | ifWord
  | elseIfWord
  | elseWord
  | whileWord
  | doWord
  | returnWord
  | breakWord
  | forWord
  | continueWord
  | funWord
  | varWord
  | mutableVarWord
  | typeWord
  | nullWord
  deriving Repr, DecidableEq

namespace Keyword

/-- The name of a keyword, which is its main spelling. -/
def text : Keyword → String
  | .ifWord => "if"
  | .elseIfWord => "elseif"
  | .elseWord => "else"
  | .whileWord => "while"
  | .doWord => "do"
  | .returnWord => "return"
  | .breakWord => "break"
  | .forWord => "for"
  | .continueWord => "continue"
  | .funWord => "fun"
  | .varWord => "var"
  | .mutableVarWord => "var*"
  | .typeWord => "type"
  | .nullWord => "null"

/-- The keyword that a word spells.  `eif` is a second spelling of `elseif`, and `var*` is not a
word. -/
def ofWord? : String → Option Keyword
  | "if" => some .ifWord
  | "elseif" => some .elseIfWord
  | "eif" => some .elseIfWord
  | "else" => some .elseWord
  | "while" => some .whileWord
  | "do" => some .doWord
  | "return" => some .returnWord
  | "break" => some .breakWord
  | "for" => some .forWord
  | "continue" => some .continueWord
  | "fun" => some .funWord
  | "var" => some .varWord
  | "type" => some .typeWord
  | "null" => some .nullWord
  | _ => none

end Keyword

/-- A token with a fixed spelling. -/
inductive Mark where
  | assign
  | operator (op : Operator)
  | separator (sep : Separator)
  | keyword (word : Keyword)
  deriving Repr, DecidableEq

namespace Mark

/-- The name of a mark. -/
def text : Mark → String
  | .assign => "="
  | .operator op => op.text
  | .separator sep => sep.text
  | .keyword word => word.text

end Mark

/-- The kind of a token, or the end of a token sequence. -/
inductive TokenKind where
  | endOfInput
  | name
  | literal
  | template
  | mark (fixed : Mark)
  deriving Repr, DecidableEq

namespace TokenKind

/-- The kind of a separator. -/
@[match_pattern] abbrev separator (sep : Separator) : TokenKind :=
  .mark (.separator sep)

/-- The kind of a keyword. -/
@[match_pattern] abbrev keyword (word : Keyword) : TokenKind :=
  .mark (.keyword word)

/-- The kind of an operator. -/
@[match_pattern] abbrev operator (op : Operator) : TokenKind :=
  .mark (.operator op)

/-- The kind of the assignment sign. -/
@[match_pattern] abbrev assign : TokenKind :=
  .mark .assign

/-- The name of a kind. -/
def text : TokenKind → String
  | .endOfInput => "EOF"
  | .name => "NAME"
  | .literal => "LITERAL"
  | .template => "TEMPLATE"
  | .mark fixed => fixed.text

/-- The operator that a kind is, if any. -/
def operator? : TokenKind → Option Operator
  | .operator op => some op
  | _ => none

/-- Whether the kind is a binary operator; assignment is none. -/
def isOperator (kind : TokenKind) : Bool :=
  kind.operator?.isSome

/-- Whether the kind is a bracket or the comma. -/
def isSeparator : TokenKind → Bool
  | .separator _ => true
  | _ => false

/-- Whether the kind is a keyword. -/
def isKeyword : TokenKind → Bool
  | .keyword _ => true
  | _ => false

/-- The binding strength of a kind, zero for all that is no operator. -/
def tier (kind : TokenKind) : Nat :=
  match kind.operator? with
  | some op => op.tier
  | none => 0

/-- Every kind, in the order in which kinds are numbered. -/
def all : List TokenKind :=
  [.endOfInput, .name, .literal, .template, .assign,
    .operator .equal, .operator .notEqual, .operator .less, .operator .greater,
    .operator .range, .operator (.arithmetic .add), .operator (.arithmetic .subtract),
    .operator (.arithmetic .multiply), .operator (.arithmetic .divide),
    .operator (.arithmetic .remainder), .operator (.arithmetic .power),
    .separator .leftParen, .separator .rightParen, .separator .leftBrace,
    .separator .rightBrace, .separator .leftBracket, .separator .rightBracket,
    .separator .comma,
    .keyword .ifWord, .keyword .elseIfWord, .keyword .elseWord, .keyword .whileWord,
    .keyword .doWord, .keyword .returnWord, .keyword .breakWord, .keyword .forWord,
    .keyword .continueWord, .keyword .funWord, .keyword .varWord,
    .keyword .mutableVarWord, .keyword .typeWord, .keyword .nullWord]

/-- The kind with a number. -/
def ofNumber? (number : Nat) : Option TokenKind :=
  all[number]?

/-- The kind with a name. -/
def ofText? (name : String) : Option TokenKind :=
  all.find? fun kind => kind.text = name

/-- The name of the kind with a number, also where there is none. -/
def numberText (number : Nat) : String :=
  match ofNumber? number with
  | some kind => kind.text
  | none => "token(" ++ toString number ++ ")"

end TokenKind

end Scripting
