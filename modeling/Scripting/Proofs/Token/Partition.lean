import Scripting.Proofs.Token.Rendering

namespace Scripting

/-!
# How tokens lie in a script

The text of a script is its tokens with gaps around them.  A gap holds blanks and line comments, and
a quoted text may hold interpolations, which are partitioned in the same way.  The position of a
token counts the lines and the characters before it, and so it grows from token to token, through
the interpolations of a template as well.
-/

/-- A position is that of the character after some others: its line counts the line ends before it,
and its column the characters since the last of them. -/
structure Position.At (position : Position) (file : String) (before : List Char) : Prop where
  inFile : position.file = file
  onLine : position.line.toNat = 1 + before.count '\n'
  inColumn : position.column.toNat = 1 + (before.reverse.takeWhile (· ≠ '\n')).length

/-- A position is before another one: on an earlier line, or earlier on the same line. -/
def Position.Precedes (position other : Position) : Prop :=
  position.line < other.line ∨ (position.line = other.line ∧ position.column < other.column)

instance (position other : Position) : Decidable (position.Precedes other) :=
  inferInstanceAs (Decidable (_ ∨ _))

/-- Positions grow along a text. -/
theorem Position.At.precedes
    {file : String}
    {before more : List Char}
    {position other : Position}
    (first : position.At file before)
    (second : other.At file (before ++ more))
    (notEmpty : more ≠ []) :
    position.Precedes other := by
  have onLine := second.onLine
  have inColumn := second.inColumn
  rw [List.count_append] at onLine
  rw [List.reverse_append] at inColumn
  by_cases lineEnds : '\n' ∈ more
  · have counted := List.count_pos_iff.mpr lineEnds
    refine .inl (UInt32.lt_iff_toNat_lt.mpr ?_)
    rw [first.onLine, onLine]
    omega
  · have noneCounted := List.count_eq_zero.mpr lineEnds
    have sameLine : ∀ character ∈ more.reverse, decide (character ≠ '\n') = true := by
      intro character member
      rw [decide_eq_true_eq]
      rintro rfl
      exact lineEnds (List.mem_reverse.mp member)
    have someLeft := List.length_pos_iff.mpr notEmpty
    refine .inr ⟨UInt32.toNat_inj.mp ?_, UInt32.lt_iff_toNat_lt.mpr ?_⟩
    · rw [first.onLine, onLine, noneCounted]
      omega
    · rw [List.takeWhile_append_of_pos sameLine, List.length_append, List.length_reverse]
        at inColumn
      rw [first.inColumn, inColumn]
      omega

namespace Token

/-- The number of open braces after a token, unless it closes one that is not open. -/
def bracesPast (token : Token) (depth : Nat) : Option Nat :=
  match token.kind, depth with
  | .separator .leftBrace, depth => some (depth + 1)
  | .separator .rightBrace, depth + 1 => some depth
  | .separator .rightBrace, 0 => none
  | _, depth => some depth

/-- The number of open braces after some tokens, unless one of them closes one that is not open. -/
def bracesAfter (depth : Nat) (tokens : List Token) : Option Nat :=
  tokens.foldlM (fun depth token => token.bracesPast depth) depth

/-- Among some tokens every brace has its partner. -/
def Balanced (tokens : List Token) : Prop :=
  bracesAfter 0 tokens = some 0

end Token

namespace Scanner

/-- A blank, or a comment that runs to a line end or the end of the script; the second text is what
follows. -/
inductive Spacer : List Char → List Char → Prop
  | blank
      {character : Char}
      {after : List Char}
      (isBlank : Text.isBlank character = true) :
      Spacer [character] after
  | comment
      {line after : List Char}
      (oneLine : '\n' ∉ line)
      (ends : ∀ next ∈ after.head?, next = '\n') :
      Spacer ('/' :: '/' :: line) after

/-- A spacer has a character at least. -/
theorem Spacer.ne_nil
    {spacer after : List Char}
    (isSpacer : Spacer spacer after) :
    spacer ≠ [] := by
  cases isSpacer <;> exact List.cons_ne_nil _ _

/-- Blanks and comments one after another. -/
inductive Gap : List Char → List Char → Prop
  | nil
      {after : List Char} :
      Gap [] after
  | cons
      {spacer gap after : List Char}
      (first : Spacer spacer (gap ++ after))
      (rest : Gap gap after) :
      Gap (spacer ++ gap) after

/-- Nothing that follows a word goes on with it: no character of a name, and no star after `var`. -/
def EndsWord (text after : List Char) : Prop :=
  ∀ next ∈ after.head?, ¬IsWord (text ++ [next]) ∧ text ++ [next] ≠ "var*".toList

/-- Digits with at most one point among them, which is not the first. -/
def IsDigits (body : List Char) : Prop :=
  ∃ whole fraction,
    body = whole ++ fraction ∧
      whole ≠ [] ∧
      (∀ digit ∈ whole, digit.isDigit = true) ∧
      (fraction = [] ∨ ∃ more, fraction = '.' :: more ∧ ∀ digit ∈ more, digit.isDigit = true)

/-- How a token other than a quoted text is spelled; the second text is what follows. -/
inductive Lexeme : Token → List Char → List Char → Prop
  | name
      {text : String}
      {after : List Char}
      {position : Position}
      (isName : IsName text)
      (ends : EndsWord text.toList after) :
      Lexeme (.name text position) text.toList after
  | keyword
      {word : Keyword}
      {text : String}
      {after : List Char}
      {position : Position}
      (isKeyword : Keyword.ofWord? text = some word)
      (ends : EndsWord text.toList after) :
      Lexeme (.mark (.keyword word) text position) text.toList after
  | mutableVar
      {after : List Char}
      {position : Position}
      (ends : EndsWord "var*".toList after) :
      Lexeme (.mark (.keyword .mutableVarWord) "var*" position) "var*".toList after
  | boolean
      {value : Bool}
      {after : List Char}
      {position : Position}
      (ends : EndsWord (toString value).toList after) :
      Lexeme (.literal (toString value) (.boolean value) position) (toString value).toList after
  | number
      {sign body suffix after : List Char}
      {value : Literal}
      {position : Position}
      (writes : WritesNumber sign body suffix value)
      (digits : IsDigits body) :
      Lexeme (.literal (String.ofList (sign ++ body ++ suffix)) value position)
        (sign ++ body ++ suffix) after
  | mark
      {fixed : Mark}
      {after : List Char}
      {position : Position}
      (noKeyword : ∀ word, fixed ≠ .keyword word) :
      Lexeme (.mark fixed fixed.text position) fixed.text.toList after

/-- The part of a template that some characters are, if there are any. -/
def fragments (characters : List Char) : List Part :=
  if characters.isEmpty then [] else [.fragment (String.ofList characters)]

mutual

/-- How a token is spelled after some characters of a script and before others. -/
inductive Spells (file : String) : List Char → Token → List Char → List Char → Prop
  | lexeme
      {before text after : List Char}
      {token : Token}
      (stands : token.position.At file before)
      (spelled : Lexeme token text after) :
      Spells file before token text after
  | constant
      {quote : Char}
      {before characters content after : List Char}
      {position : Position}
      (stands : position.At file before)
      (quotes : quote = '"' ∨ quote = '\'')
      (quoted :
        SpellsContent file quote (before ++ [quote]) characters [] content (quote :: after)) :
      Spells file before
        (.literal (String.ofList characters) (.string (String.ofList characters)) position)
        (quote :: (content ++ [quote])) after
  | template
      {quote : Char}
      {before characters content after : List Char}
      {more : List Part}
      {position : Position}
      (stands : position.At file before)
      (quotes : quote = '"' ∨ quote = '\'')
      (interpolates : more ≠ [])
      (quoted :
        SpellsContent file quote (before ++ [quote]) characters more content (quote :: after)) :
      Spells file before (.template (fragments characters ++ more) position)
        (quote :: (content ++ [quote])) after

/-- How tokens partition a part of a script: each of them is spelled after a gap, and a last gap
follows. -/
inductive Partitions (file : String) : List Char → List Token → List Char → List Char → Prop
  | nil
      {before gap after : List Char}
      (isGap : Gap gap after) :
      Partitions file before [] gap after
  | cons
      {before gap text others after : List Char}
      {token : Token}
      {tokens : List Token}
      (isGap : Gap gap (text ++ (others ++ after)))
      (first : Spells file (before ++ gap) token text (others ++ after))
      (rest : Partitions file (before ++ gap ++ text) tokens others after) :
      Partitions file before (token :: tokens) (gap ++ (text ++ others)) after

/-- How the content of a quoted text is spelled: the characters up to the first interpolation, and
the parts from there on. -/
inductive SpellsContent (file : String) :
    Char → List Char → List Char → List Part → List Char → List Char → Prop
  | nil
      {quote : Char}
      {before after : List Char} :
      SpellsContent file quote before [] [] [] after
  | plain
      {quote character : Char}
      {before characters content after : List Char}
      {more : List Part}
      (isPlain : character ≠ quote ∧ character ≠ '\\' ∧ character ≠ '{')
      (rest : SpellsContent file quote (before ++ [character]) characters more content after) :
      SpellsContent file quote before (character :: characters) more (character :: content) after
  | escape
      {quote letter character : Char}
      {before characters content after : List Char}
      {more : List Part}
      (means : unescape? letter = some character)
      (rest : SpellsContent file quote (before ++ ['\\', letter]) characters more content after) :
      SpellsContent file quote before (character :: characters) more
        ('\\' :: letter :: content) after
  | interpolation
      {quote : Char}
      {before inside characters content after : List Char}
      {tokens : List Token}
      {more : List Part}
      (partitions :
        Partitions file (before ++ ['{']) tokens inside ('}' :: (content ++ after)))
      (balanced : Token.Balanced tokens)
      (rest :
        SpellsContent file quote (before ++ ['{'] ++ inside ++ ['}']) characters more content
          after) :
      SpellsContent file quote before [] (.interpolation tokens :: (fragments characters ++ more))
        ('{' :: (inside ++ '}' :: content)) after

end

/-- Tokens still partition a text with a blank or a comment before it. -/
theorem Partitions.spacer
    {file : String}
    {before spacer text after : List Char}
    {tokens : List Token}
    (isSpacer : Spacer spacer (text ++ after))
    (rest : Partitions file (before ++ spacer) tokens text after) :
    Partitions file before tokens (spacer ++ text) after := by
  cases rest with
  | nil isGap =>
      exact .nil (.cons isSpacer isGap)
  | cons isGap first rest =>
      rw [← List.append_assoc spacer]
      rw [List.append_assoc, List.append_assoc] at isSpacer
      rw [List.append_assoc before] at first rest
      exact .cons (.cons isSpacer isGap) first rest

/-- Tokens partition a text with another token directly before it. -/
theorem Partitions.token
    {file : String}
    {before text others after : List Char}
    {token : Token}
    {tokens : List Token}
    (first : Spells file before token text (others ++ after))
    (rest : Partitions file (before ++ text) tokens others after) :
    Partitions file before (token :: tokens) (text ++ others) after := by
  rw [← List.append_nil before] at first rest
  exact .cons .nil first rest

end Scanner

mutual

/-- A token, and after it the tokens of its interpolations. -/
def Token.flattened : Token → List Token
  | .template parts position => .template parts position :: Part.flattenedAll parts
  | token => [token]

/-- The tokens of the interpolations among some parts of a template. -/
def Part.flattenedAll : List Part → List Token
  | [] => []
  | .fragment _ :: rest => Part.flattenedAll rest
  | .interpolation tokens :: rest => Token.flattenedAll tokens ++ Part.flattenedAll rest

/-- Tokens with those of their interpolations, in the order in which they are written. -/
def Token.flattenedAll : List Token → List Token
  | [] => []
  | token :: rest => token.flattened ++ Token.flattenedAll rest

end

/-- The tokens in a list are those in one of its tokens. -/
theorem Token.mem_flattenedAll
    {inner : Token}
    {tokens : List Token} :
    inner ∈ Token.flattenedAll tokens ↔ ∃ token ∈ tokens, inner ∈ token.flattened := by
  induction tokens with
  | nil =>
      simp [flattenedAll]
  | cons token rest inductionHypothesis =>
      simp [flattenedAll, inductionHypothesis]

/-- The tokens in parts are those in one of their interpolations. -/
theorem Part.mem_flattenedAll
    {inner : Token}
    {parts : List Part} :
    inner ∈ Part.flattenedAll parts ↔
      ∃ tokens, .interpolation tokens ∈ parts ∧ inner ∈ Token.flattenedAll tokens := by
  induction parts with
  | nil =>
      simp [flattenedAll]
  | cons part rest inductionHypothesis =>
      cases part <;> simp [flattenedAll, inductionHypothesis]

/-- A token is among those in it. -/
theorem Token.mem_flattened_self (token : Token) : token ∈ token.flattened := by
  cases token <;> simp [flattened]

/-- Tokens are among those with their interpolations. -/
theorem Token.mem_flattenedAll_of_mem
    {token : Token}
    {tokens : List Token}
    (member : token ∈ tokens) :
    token ∈ Token.flattenedAll tokens :=
  Token.mem_flattenedAll.mpr ⟨token, member, token.mem_flattened_self⟩

namespace Scanner

/-- A fragment has no tokens in it. -/
theorem flattenedAll_fragments (characters : List Char) (parts : List Part) :
    Part.flattenedAll (fragments characters ++ parts) = Part.flattenedAll parts := by
  unfold fragments
  split
  · rfl
  · rfl

/-- Tokens that start inside a text after some characters, one after another. -/
structure Within (file : String) (before text : List Char) (tokens : List Token) : Prop where
  placed :
    ∀ token ∈ tokens, ∃ inside next more,
      text = inside ++ next :: more ∧ token.position.At file (before ++ inside)
  ordered : tokens.Pairwise fun first second => first.position.Precedes second.position

namespace Within

variable {file : String} {before text : List Char}

theorem nil : Within file before text [] :=
  ⟨nofun, .nil⟩

/-- A single token stands in a text that starts where it does. -/
theorem singleton
    {token : Token}
    (stands : token.position.At file before)
    (notEmpty : text ≠ []) :
    Within file before text [token] := by
  refine ⟨fun other member => ?_, List.pairwise_singleton _ _⟩
  obtain rfl := List.mem_singleton.mp member
  obtain ⟨next, more, shape⟩ := List.exists_cons_of_ne_nil notEmpty
  exact ⟨[], next, more, shape, by rwa [List.append_nil]⟩

/-- Tokens inside a text stand before those inside the text that follows. -/
theorem append
    {others : List Char}
    {tokens further : List Token}
    (first : Within file before text tokens)
    (second : Within file (before ++ text) others further) :
    Within file before (text ++ others) (tokens ++ further) := by
  constructor
  · intro token member
    rcases List.mem_append.mp member with inFirst | inSecond
    · obtain ⟨inside, next, more, rfl, stands⟩ := first.placed token inFirst
      exact ⟨inside, next, more ++ others, by simp, stands⟩
    · obtain ⟨inside, next, more, rfl, stands⟩ := second.placed token inSecond
      exact ⟨text ++ inside, next, more, by simp, by rwa [← List.append_assoc]⟩
  · refine List.pairwise_append.mpr ⟨first.ordered, second.ordered, ?_⟩
    intro token inFirst other inSecond
    obtain ⟨inside, next, more, rfl, stands⟩ := first.placed token inFirst
    obtain ⟨beyond, -, -, -, standsOther⟩ := second.placed other inSecond
    have later : before ++ (inside ++ next :: more) ++ beyond =
        before ++ inside ++ (next :: more ++ beyond) := by
      simp
    rw [later] at standsOther
    exact stands.precedes standsOther (by simp)

/-- A token at the start of a text, and others after its first character. -/
theorem cons
    {token : Token}
    {next : Char}
    {tokens : List Token}
    (stands : token.position.At file before)
    (rest : Within file (before ++ [next]) text tokens) :
    Within file before (next :: text) (token :: tokens) :=
  (singleton stands (List.cons_ne_nil next [])).append rest

/-- No token starts in the characters before a text. -/
theorem after
    {others : List Char}
    {tokens : List Token}
    (second : Within file (before ++ text) others tokens) :
    Within file before (text ++ others) tokens :=
  append nil second

/-- No token starts in the characters after a text. -/
theorem beforeOthers
    {tokens : List Token}
    (first : Within file before text tokens)
    (others : List Char) :
    Within file before (text ++ others) tokens := by
  have both : Within file before (text ++ others) (tokens ++ []) := first.append nil
  rwa [List.append_nil] at both

end Within

/-- No mark is spelled by nothing. -/
theorem toList_text_ne_nil (mark : Mark) : mark.text.toList ≠ [] := by
  cases mark with
  | assign =>
      decide
  | operator op =>
      cases op with
      | arithmetic operation =>
          cases operation <;> decide
      | equal | notEqual | less | greater | range =>
          decide
  | separator sep =>
      cases sep <;> decide
  | keyword word =>
      cases word <;> decide

/-- A lexeme has no token inside of it. -/
theorem Lexeme.flattened
    {token : Token}
    {text after : List Char}
    (spelled : Lexeme token text after) :
    token.flattened = [token] := by
  cases spelled <;> rfl

/-- No lexeme is spelled by nothing. -/
theorem Lexeme.ne_nil
    {token : Token}
    {text after : List Char}
    (spelled : Lexeme token text after) :
    text ≠ [] := by
  cases spelled with
  | name isName ends =>
      obtain ⟨first, rest, shape, -⟩ := isName.shape
      rw [shape]
      exact List.cons_ne_nil first rest
  | keyword isKeyword ends =>
      intro isEmpty
      rw [String.toList_eq_nil_iff.mp isEmpty] at isKeyword
      cases isKeyword
  | mutableVar ends =>
      decide
  | @boolean value =>
      cases value <;> decide
  | number writes digits =>
      obtain ⟨whole, fraction, rfl, notEmpty, -⟩ := digits
      simp [notEmpty]
  | @mark fixed after position noKeyword =>
      exact toList_text_ne_nil fixed

mutual

/-- A token and those inside of it stand in what spells it, in order. -/
theorem Spells.within
    {file : String}
    {before text after : List Char}
    {token : Token}
    (spells : Spells file before token text after) :
    Within file before text token.flattened := by
  match spells with
  | .lexeme stands spelled =>
      rw [spelled.flattened]
      exact .singleton stands spelled.ne_nil
  | .constant stands quotes quoted =>
      exact .singleton stands (List.cons_ne_nil _ _)
  | .template stands quotes interpolates quoted =>
      rw [Token.flattened, flattenedAll_fragments]
      exact .cons stands (quoted.within.beforeOthers _)

/-- The tokens of a text stand in it, in order. -/
theorem Partitions.within
    {file : String}
    {before text after : List Char}
    {tokens : List Token}
    (partitions : Partitions file before tokens text after) :
    Within file before text (Token.flattenedAll tokens) := by
  match partitions with
  | .nil isGap =>
      exact .nil
  | .cons isGap first rest =>
      exact .after (.append first.within rest.within)

/-- The tokens of a quoted text stand in its content, in order. -/
theorem SpellsContent.within
    {file : String}
    {quote : Char}
    {before characters content after : List Char}
    {more : List Part}
    (quoted : SpellsContent file quote before characters more content after) :
    Within file before content (Part.flattenedAll more) := by
  match quoted with
  | .nil =>
      exact .nil
  | .plain isPlain rest =>
      exact .after rest.within
  | .escape means rest =>
      exact .after rest.within
  | .interpolation partitions balanced rest =>
      rw [Part.flattenedAll, flattenedAll_fragments]
      exact .after (.append partitions.within (.after rest.within))

end

end Scanner

end Scripting
