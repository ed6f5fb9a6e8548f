import Scripting.Proofs.Likeness
import Scripting.Proofs.Parser.Completeness
import Scripting.Proofs.Token.Placement

namespace Scripting

/-!
# Reading alike tokens

Tokens that are equal up to positions are read as trees that are equal up to positions, also where
more tokens follow, as long as no item could go on with the first of these.  Positions are
looked at in one place: whether `return` has a value depends on the line of the next token.
-/

mutual

/-- Tokens that are equal up to positions. -/
inductive Token.Alike : Token → Token → Prop where
  | name :
      Token.Alike (.name text place) (.name text otherPlace)
  | literal :
      Token.Alike (.literal text value place) (.literal text value otherPlace)
  | template :
      Part.AllAlike parts others →
      Token.Alike (.template parts place) (.template others otherPlace)
  | mark :
      Token.Alike (.mark fixed spelling place) (.mark fixed spelling otherPlace)

/-- Parts of templates that are equal up to positions, one by one. -/
inductive Part.AllAlike : List Part → List Part → Prop where
  | nil :
      Part.AllAlike [] []
  | fragment :
      Part.AllAlike rest others →
      Part.AllAlike (.fragment text :: rest) (.fragment text :: others)
  | interpolation :
      Token.AllAlike [] tokens otherTokens →
      Part.AllAlike rest others →
      Part.AllAlike (.interpolation tokens :: rest) (.interpolation otherTokens :: others)

/-- Tokens that are equal up to positions, one by one, with more tokens after the others.  A
token is followed by a value on its line on both sides or on neither. -/
inductive Token.AllAlike : List Token → List Token → List Token → Prop where
  | nil :
      Token.AllAlike more [] more
  | cons
      (sameLine :
        rest ≠ [] → Parser.valueFollows other others = Parser.valueFollows first rest) :
      Token.Alike first other →
      Token.AllAlike more rest others →
      Token.AllAlike more (first :: rest) (other :: others)

end

/-- Alike tokens are of one kind. -/
theorem Token.Alike.kind_eq
    {token other : Token}
    (alike : token.Alike other) :
    other.kind = token.kind := by
  cases alike <;> rfl

/-- A mark is alike only to marks with its kind. -/
theorem Token.Alike.of_kind
    {token other : Token}
    {kind : TokenKind}
    (alike : token.Alike other)
    (isKind : token.kind = kind) :
    other.kind = kind :=
  alike.kind_eq.trans isKind

namespace Token

variable {other : Token} {place : Position}

theorem Alike.eq_name
    {text : String}
    (alike : Alike (.name text place) other) :
    ∃ otherPlace, other = .name text otherPlace := by
  cases alike
  exact ⟨_, rfl⟩

theorem Alike.eq_literal
    {text : String}
    {value : Literal}
    (alike : Alike (.literal text value place) other) :
    ∃ otherPlace, other = .literal text value otherPlace := by
  cases alike
  exact ⟨_, rfl⟩

theorem Alike.eq_template
    {parts : List Part}
    (alike : Alike (.template parts place) other) :
    ∃ others otherPlace, other = .template others otherPlace ∧ Part.AllAlike parts others := by
  cases alike with
  | template partsAlike =>
      exact ⟨_, _, rfl, partsAlike⟩

theorem Alike.eq_mark
    {fixed : Mark}
    {spelling : String}
    (alike : Alike (.mark fixed spelling place) other) :
    ∃ otherPlace, other = .mark fixed spelling otherPlace := by
  cases alike
  exact ⟨_, rfl⟩

/-- What is alike to a first token and the tokens after it. -/
theorem AllAlike.eq_cons
    {more rest others : List Token}
    {first : Token}
    (alike : AllAlike more (first :: rest) others) :
    ∃ other otherRest, others = other :: otherRest ∧ first.Alike other ∧
      AllAlike more rest otherRest := by
  cases alike with
  | cons _ firstAlike restAlike =>
      exact ⟨_, _, rfl, firstAlike, restAlike⟩

/-- Whether a value follows a token is answered alike, unless the token is the last one. -/
theorem AllAlike.valueFollows_eq
    {more rest otherRest : List Token}
    {first other : Token}
    (alike : AllAlike more (first :: rest) (other :: otherRest))
    (notLast : rest ≠ []) :
    Parser.valueFollows other otherRest = Parser.valueFollows first rest := by
  cases alike with
  | cons sameLine =>
      exact sameLine notLast

end Token

theorem Part.AllAlike.eq_fragment
    {text : String}
    {rest others : List Part}
    (alike : Part.AllAlike (.fragment text :: rest) others) :
    ∃ otherRest, others = .fragment text :: otherRest ∧ Part.AllAlike rest otherRest := by
  cases alike with
  | fragment restAlike =>
      exact ⟨_, rfl, restAlike⟩

/-- An interpolation is alike to one of alike tokens only. -/
theorem Part.AllAlike.eq_interpolation
    {tokens : List Token}
    {rest others : List Part}
    (alike : Part.AllAlike (.interpolation tokens :: rest) others) :
    ∃ otherTokens otherRest, others = .interpolation otherTokens :: otherRest ∧
      Token.AllAlike [] tokens otherTokens ∧ Part.AllAlike rest otherRest := by
  cases alike with
  | interpolation tokensAlike restAlike =>
      exact ⟨_, _, rfl, tokensAlike, restAlike⟩

/-- Moving the tokens of a line to another place leaves them on one line. -/
theorem Parser.valueFollows_placed
    (placement : Placement)
    (keyword next : Token)
    (rest others : List Token) :
    valueFollows (keyword.placed placement) (next.placed placement :: others) =
      valueFollows keyword (next :: rest) := by
  simp [valueFollows, Position.placed]

mutual

/-- A token in another place is the same up to its position. -/
theorem Token.alike_placed
    (placement : Placement) :
    (token : Token) → token.Alike (token.placed placement)
  | .name _ _ => .name
  | .literal _ _ _ => .literal
  | .template parts _ => .template (Part.allAlike_placed placement parts)
  | .mark _ _ _ => .mark

/-- Parts are alike to the same parts elsewhere. -/
theorem Part.allAlike_placed
    (placement : Placement) :
    (parts : List Part) → Part.AllAlike parts (Part.placedAll placement parts)
  | [] => .nil
  | .fragment _ :: rest => .fragment (Part.allAlike_placed placement rest)
  | .interpolation tokens :: rest => by
      have tokensAlike := Token.allAlike_placedAll placement [] tokens
      rw [List.append_nil] at tokensAlike
      exact .interpolation tokensAlike (Part.allAlike_placed placement rest)

/-- Tokens in another place are the same up to their positions, and stand on the same lines as one
another. -/
theorem Token.allAlike_placedAll
    (placement : Placement)
    (more : List Token) :
    (tokens : List Token) →
      Token.AllAlike more tokens (Token.placedAll placement tokens ++ more)
  | [] => .nil
  | first :: rest => by
      refine .cons ?_ (Token.alike_placed placement first)
        (Token.allAlike_placedAll placement more rest)
      intro notLast
      obtain ⟨next, others, rfl⟩ := List.exists_cons_of_ne_nil notLast
      exact Parser.valueFollows_placed placement first next others _

end

/-- Tokens are alike to the same tokens elsewhere, whatever comes after them. -/
theorem Token.allAlike_placed
    (placement : Placement)
    (tokens more : List Token) :
    Token.AllAlike more tokens (tokens.map (Token.placed placement) ++ more) := by
  rw [← Token.placedAll_eq_map]
  exact Token.allAlike_placedAll placement more tokens

namespace Parser

/-- Whether a token of a kind ends whatever item stands before it. -/
def breaksOff : TokenKind → Bool
  | .endOfInput | .name => true
  | .keyword word => word ≠ .elseWord && word ≠ .elseIfWord
  | _ => false

/-- What starts a statement ends the item before it. -/
theorem breaksOff_of_startsStatement
    {kind : TokenKind}
    (starts : startsStatement kind = true) :
    breaksOff kind = true := by
  unfold startsStatement at starts
  split at starts
  · rfl
  · next word =>
      cases word <;> first | rfl | cases starts
  · cases starts

section LookingAhead

variable {more tokens others : List Token}

/-- As long as tokens are left, the next one is of the same kind on both sides. -/
theorem nextKind_eq
    (alike : Token.AllAlike more tokens others)
    (notEmpty : tokens ≠ []) :
    nextKind others = nextKind tokens := by
  cases alike with
  | nil =>
      exact (notEmpty rfl).elim
  | cons _ first _ =>
      exact first.kind_eq

/-- What does not come next on one side does not on the other, unless it starts an item. -/
theorem nextKind_ne
    (seam : breaksOff (nextKind more) = true)
    (alike : Token.AllAlike more tokens others)
    {kind : TokenKind}
    (continues : breaksOff kind = false)
    (other : nextKind tokens ≠ kind) :
    nextKind others ≠ kind := by
  cases alike with
  | nil =>
      rintro rfl
      rw [seam] at continues
      cases continues
  | cons _ first _ =>
      simpa [first.kind_eq] using other

/-- An operator that binds too loosely to be read is not read on the other side either. -/
theorem loose_of_alike
    {grammar : Grammar}
    {bound : Nat}
    (seam : breaksOff (nextKind more) = true)
    (alike : Token.AllAlike more tokens others)
    (loose : ∀ operator, nextKind tokens = .operator operator → rank grammar operator ≤ bound) :
    ∀ operator, nextKind others = .operator operator → rank grammar operator ≤ bound := by
  intro operator isOperator
  by_contra tighter
  have notThere : nextKind tokens ≠ .operator operator :=
    fun isOperatorToo => tighter (loose operator isOperatorToo)
  exact nextKind_ne seam alike rfl notThere isOperator

end LookingAhead

/-- A rule reads a tree up to positions from tokens, and leaves tokens alike to others. -/
def ReadsAlike {Tree : Type} (more : List Token) (reads : List Token → Tree → List Token → Prop)
    (alike : Tree → Prop) (tokens rest : List Token) : Prop :=
  ∃ tree after, reads tokens tree after ∧ alike tree ∧ Token.AllAlike more rest after

/-- Scopes that declare the same variables, and more tokens with which no item goes on. -/
structure Suits (scope other : Scope) (more : List Token) : Prop where
  layout : other.layout = scope.layout
  ends : breaksOff (nextKind more) = true

/-- A name is visible in both scopes or in neither. -/
theorem Suits.isSome
    {scope other : Scope}
    {more : List Token}
    (suits : Suits scope other more)
    (text : String) :
    (scope.find? text).isSome = (other.find? text).isSome := by
  have sameFound := congrArg (fun layout => (layout.find? text).isSome) suits.layout
  simpa using sameFound.symm

section Scopes

variable {scope other : Scope} {more : List Token} {text : String}

/-- A name that is not visible in one scope is not visible in the other. -/
theorem Suits.find?_eq_none
    (suits : Suits scope other more)
    (hidden : scope.find? text = none) :
    other.find? text = none := by
  have sameFound := suits.isSome text
  simpa [hidden] using sameFound

/-- A visible name may be assigned in both scopes or in neither. -/
theorem Suits.find?_eq_some
    (suits : Suits scope other more)
    {binding : Binding}
    (found : scope.find? text = some binding) :
    ∃ otherBinding, other.find? text = some otherBinding ∧
      otherBinding.mutable = binding.mutable := by
  have sameFound := congrArg (fun layout => layout.find? text) suits.layout
  simp only [ScopeChain.find?_layout, found, Option.map_some, Option.map_eq_some_iff] at sameFound
  obtain ⟨otherBinding, foundThere, sameMutable⟩ := sameFound
  exact ⟨otherBinding, foundThere, by simpa using sameMutable⟩

/-- A name that is new in one block is new in the other. -/
theorem Suits.current_find?_eq_none
    (suits : Suits scope other more)
    (new : scope.current.find? text = none) :
    other.current.find? text = none := by
  have sameFound := congrArg (fun layout => layout.current.find? text) suits.layout
  simpa [new] using sameFound

/-- A block opened in both scopes leaves them suited to each other. -/
theorem Suits.push
    (suits : Suits scope other more)
    (comment : String) :
    Suits (scope.push comment) (other.push comment) more :=
  ⟨by simp [suits.layout], suits.ends⟩

/-- The places of two declarations may differ. -/
theorem Suits.define
    (suits : Suits scope other more)
    (text : String)
    (mutable : Bool)
    (place otherPlace : Position) :
    Suits (scope.define text ⟨mutable, place⟩) (other.define text ⟨mutable, otherPlace⟩) more :=
  ⟨by simp [suits.layout], suits.ends⟩

end Scopes

section Expressions

variable {grammar : Grammar} {scope scope' : Scope}

mutual

/-- An expression is read from alike tokens up to positions. -/
theorem ReadsExpr.alike
    {more tokens rest others : List Token}
    {value : Expr} :
    ReadsExpr grammar scope tokens value rest →
    Suits scope scope' more →
    Token.AllAlike more tokens others →
    ReadsAlike more (ReadsExpr grammar scope') value.Alike others rest
  | .chain left operation, suits, alike => by
      obtain ⟨otherLeft, between, leftReads, leftAlike, betweenAlike⟩ := left.alike suits alike
      obtain ⟨other, after, reads, valueAlike, afterAlike⟩ :=
        operation.alike leftAlike suits betweenAlike
      exact ⟨other, after, .chain leftReads reads, valueAlike, afterAlike⟩
termination_by structural reads => reads

/-- An operation goes on from an alike left operand as far as it did. -/
theorem ReadsOperation.alike
    {bound : Nat}
    {left otherLeft value : Expr}
    {more tokens rest others : List Token} :
    ReadsOperation grammar scope bound left tokens value rest →
    left.Alike otherLeft →
    Suits scope scope' more →
    Token.AllAlike more tokens others →
    ReadsAlike more (ReadsOperation grammar scope' bound otherLeft) value.Alike others rest
  | .stop loose, leftAlike, suits, alike =>
      ⟨_, _, .stop (loose_of_alike suits.ends alike loose), leftAlike, alike⟩
  | .extend isOperator tighter first right whole, leftAlike, suits, alike => by
      obtain ⟨operator, tokens, rfl, operatorAlike, tokensAlike⟩ := alike.eq_cons
      obtain ⟨otherFirst, afterFirst, firstReads, firstAlike, afterFirstAlike⟩ :=
        first.alike suits tokensAlike
      obtain ⟨otherRight, afterRight, rightReads, rightAlike, afterRightAlike⟩ :=
        right.alike firstAlike suits afterFirstAlike
      obtain ⟨other, after, reads, valueAlike, afterAlike⟩ :=
        whole.alike (.binary leftAlike rightAlike) suits afterRightAlike
      exact ⟨other, after,
        .extend (operatorAlike.of_kind isOperator) tighter firstReads rightReads reads,
        valueAlike, afterAlike⟩
termination_by structural reads => reads

/-- An operand is read from alike tokens, by its first token. -/
theorem ReadsOperand.alike
    {more tokens rest others : List Token}
    {value : Expr} :
    ReadsOperand grammar scope tokens value rest →
    Suits scope scope' more →
    Token.AllAlike more tokens others →
    ReadsAlike more (ReadsOperand grammar scope') value.Alike others rest
  | .literal, suits, alike => by
      obtain ⟨_, after, rfl, literalAlike, afterAlike⟩ := alike.eq_cons
      obtain ⟨otherPlace, rfl⟩ := literalAlike.eq_literal
      exact ⟨_, _, .literal, .literal, afterAlike⟩
  | .template parts, suits, alike => by
      obtain ⟨_, after, rfl, templateAlike, afterAlike⟩ := alike.eq_cons
      obtain ⟨otherParts, otherPlace, rfl, partsAlike⟩ := templateAlike.eq_template
      obtain ⟨expressions, reads, expressionsAlike⟩ :=
        parts.alike suits.layout partsAlike otherPlace
      exact ⟨_, _, .template reads, .template expressionsAlike, afterAlike⟩
  | .null, suits, alike => by
      obtain ⟨_, after, rfl, nullAlike, afterAlike⟩ := alike.eq_cons
      obtain ⟨otherPlace, rfl⟩ := nullAlike.eq_mark
      exact ⟨_, _, .null, .null, afterAlike⟩
  | .name noCall visible, suits, alike => by
      obtain ⟨_, after, rfl, nameAlike, afterAlike⟩ := alike.eq_cons
      obtain ⟨otherPlace, rfl⟩ := nameAlike.eq_name
      have visibleThere := suits.isSome _ ▸ visible
      exact ⟨_, _, .name (nextKind_ne suits.ends afterAlike rfl noCall) visibleThere, .name,
        afterAlike⟩
  | .call opens call, suits, alike => by
      obtain ⟨_, tokens, rfl, nameAlike, tokensAlike⟩ := alike.eq_cons
      obtain ⟨otherPlace, rfl⟩ := nameAlike.eq_name
      obtain ⟨other, after, reads, valueAlike, afterAlike⟩ :=
        call.alike (show (⟨_, otherPlace⟩ : Identifier).text = _ from rfl) suits tokensAlike
      have opensThere := nextKind_eq tokensAlike (by rintro rfl; cases opens)
      exact ⟨other, after, .call (opensThere.trans opens) reads, valueAlike, afterAlike⟩
  | .paren closes inner, suits, alike => by
      obtain ⟨_, tokens, rfl, openingAlike, tokensAlike⟩ := alike.eq_cons
      obtain ⟨otherPlace, rfl⟩ := openingAlike.eq_mark
      obtain ⟨other, _, reads, innerAlike, closingAndRest⟩ := inner.alike suits tokensAlike
      obtain ⟨closing, after, rfl, closingAlike, afterAlike⟩ := closingAndRest.eq_cons
      exact ⟨_, _, .paren (closingAlike.of_kind closes) reads, .paren innerAlike, afterAlike⟩
  | .emptyList closes, suits, alike => by
      obtain ⟨_, tokens, rfl, openingAlike, tokensAlike⟩ := alike.eq_cons
      obtain ⟨otherPlace, rfl⟩ := openingAlike.eq_mark
      obtain ⟨closing, after, rfl, closingAlike, afterAlike⟩ := tokensAlike.eq_cons
      exact ⟨_, _, .emptyList (closingAlike.of_kind closes), .list .nil, afterAlike⟩
  | .list notEmpty elements, suits, alike => by
      obtain ⟨_, tokens, rfl, openingAlike, tokensAlike⟩ := alike.eq_cons
      obtain ⟨otherPlace, rfl⟩ := openingAlike.eq_mark
      obtain ⟨other, after, reads, elementsAlike, afterAlike⟩ :=
        elements.alike suits tokensAlike
      exact ⟨_, _, .list (nextKind_ne suits.ends tokensAlike rfl notEmpty) reads,
        .list elementsAlike, afterAlike⟩
termination_by structural reads => reads

/-- A call of the same name is read from alike tokens. -/
theorem ReadsCall.alike
    {function otherFunction : Identifier}
    {more tokens rest others : List Token}
    {value : Expr} :
    ReadsCall grammar scope function tokens value rest →
    otherFunction.text = function.text →
    Suits scope scope' more →
    Token.AllAlike more tokens others →
    ReadsAlike more (ReadsCall grammar scope' otherFunction) value.Alike others rest
  | .empty opens closes, sameText, suits, alike => by
      obtain ⟨opening, tokens, rfl, openingAlike, tokensAlike⟩ := alike.eq_cons
      obtain ⟨closing, after, rfl, closingAlike, afterAlike⟩ := tokensAlike.eq_cons
      exact ⟨_, _, .empty (openingAlike.of_kind opens) (closingAlike.of_kind closes),
        .call_of_text sameText .nil, afterAlike⟩
  | .arguments opens notEmpty arguments, sameText, suits, alike => by
      obtain ⟨opening, tokens, rfl, openingAlike, tokensAlike⟩ := alike.eq_cons
      obtain ⟨other, after, reads, argumentsAlike, afterAlike⟩ :=
        arguments.alike suits tokensAlike
      exact ⟨_, _,
        .arguments (openingAlike.of_kind opens)
          (nextKind_ne suits.ends tokensAlike rfl notEmpty) reads,
        .call_of_text sameText argumentsAlike, afterAlike⟩
termination_by structural reads => reads

/-- A list of expressions is read up to the same closing mark. -/
theorem ReadsExprList.alike
    {closing : Separator}
    {more tokens rest others : List Token}
    {values : List Expr} :
    ReadsExprList grammar scope closing tokens values rest →
    Suits scope scope' more →
    Token.AllAlike more tokens others →
    ReadsAlike more (ReadsExprList grammar scope' closing) (Expr.AllAlike values) others rest
  | .last noComma closes first, suits, alike => by
      obtain ⟨other, _, reads, firstAlike, closingAndRest⟩ := first.alike suits alike
      obtain ⟨closing, after, rfl, closingAlike, afterAlike⟩ := closingAndRest.eq_cons
      have noCommaThere := closingAlike.kind_eq.trans_ne noComma
      exact ⟨_, _, .last noCommaThere (closingAlike.of_kind closes) reads,
        .cons firstAlike .nil, afterAlike⟩
  | .more isComma first others, suits, alike => by
      obtain ⟨other, _, reads, firstAlike, commaAndRest⟩ := first.alike suits alike
      obtain ⟨comma, between, rfl, commaAlike, betweenAlike⟩ := commaAndRest.eq_cons
      obtain ⟨otherOthers, after, othersRead, othersAlike, afterAlike⟩ :=
        others.alike suits betweenAlike
      exact ⟨_, _, .more (commaAlike.of_kind isComma) reads othersRead,
        .cons firstAlike othersAlike, afterAlike⟩
termination_by structural reads => reads

/-- Templates need no seam: an interpolation has an end of its own. -/
theorem ReadsParts.alike
    {place : Position}
    {parts others : List Part}
    {values : List Expr} :
    ReadsParts grammar scope place parts values →
    scope'.layout = scope.layout →
    Part.AllAlike parts others →
    ∀ otherPlace, ∃ otherValues,
      ReadsParts grammar scope' otherPlace others otherValues ∧
        Expr.AllAlike values otherValues
  | .nil, _, alike, _ => by
      cases alike
      exact ⟨[], .nil, .nil⟩
  | .fragment rest, sameLayout, alike, otherPlace => by
      obtain ⟨restOthers, rfl, restAlike⟩ := alike.eq_fragment
      obtain ⟨otherValues, reads, valuesAlike⟩ := rest.alike sameLayout restAlike otherPlace
      exact ⟨_, .fragment reads, .cons .literal valuesAlike⟩
  | .interpolation first rest, sameLayout, alike, otherPlace => by
      obtain ⟨_, restOthers, rfl, tokensAlike, restAlike⟩ := alike.eq_interpolation
      obtain ⟨other, _, reads, firstAlike, afterAlike⟩ :=
        first.alike ⟨sameLayout, rfl⟩ tokensAlike
      obtain ⟨otherValues, othersRead, valuesAlike⟩ :=
        rest.alike sameLayout restAlike otherPlace
      obtain ⟨token, tokens, rfl, _⟩ := tokensAlike.eq_cons
      cases afterAlike
      exact ⟨_, .interpolation reads othersRead, .cons firstAlike valuesAlike⟩
termination_by structural reads => reads

end

end Expressions

section Statements

variable {grammar : Grammar} {more : List Token}

/-- A condition in parentheses is read from alike tokens. -/
theorem ReadsCondition.alike
    {scope scope' : Scope}
    {tokens rest others : List Token}
    {test : Expr}
    (reads : ReadsCondition grammar scope tokens test rest)
    (suits : Suits scope scope' more)
    (alike : Token.AllAlike more tokens others) :
    ReadsAlike more (ReadsCondition grammar scope') test.Alike others rest := by
  cases reads with
  | mk opens closes inner =>
      obtain ⟨opening, tokens, rfl, openingAlike, tokensAlike⟩ := alike.eq_cons
      obtain ⟨other, _, innerReads, innerAlike, closingAndRest⟩ := inner.alike suits tokensAlike
      obtain ⟨closing, after, rfl, closingAlike, afterAlike⟩ := closingAndRest.eq_cons
      exact ⟨_, _, .mk (openingAlike.of_kind opens) (closingAlike.of_kind closes) innerReads,
        innerAlike, afterAlike⟩

/-- Whether a constant can be iterated does not depend on its position. -/
theorem checkBound_of_alike
    {bound other : Expr}
    (alike : bound.Alike other)
    (iterable : checkBound bound = .ok ()) :
    checkBound other = .ok () := by
  cases alike with
  | @literal text value place otherPlace =>
      cases value with
      | string content =>
          rfl
      | _ =>
          simp [checkBound] at iterable
  | null =>
      simp [checkBound] at iterable
  | _ =>
      rfl

/-- A rule reads a statement up to positions from tokens, leaves a scope with the same variables,
and leaves tokens alike to others. -/
def ReadsStmtAlike (more : List Token) (grammar : Grammar) (place : Place) (scope : Scope)
    (value : Stmt) (inside : Scope) (tokens rest : List Token) : Prop :=
  ∃ other otherInside after, ReadsStmt grammar place scope tokens other otherInside after ∧
    value.Alike other ∧ Suits inside otherInside more ∧ Token.AllAlike more rest after

/-- Without tokens there are no statements to read, and none are left. -/
theorem ReadsStmts.rest_eq_nil
    {place : Place}
    {scope : Scope}
    {rest : List Token}
    {values : List Stmt}
    (reads : ReadsStmts grammar place scope [] values rest) :
    rest = [] := by
  cases reads with
  | nil =>
      rfl
  | cons _ notEmpty =>
      exact (notEmpty rfl).elim

mutual

/-- A statement is read up to positions, unless it is the last thing of a function: there the line
of the token that comes next would say whether it returns a value. -/
theorem ReadsStmt.alike
    {place : Place}
    {scope scope' inside : Scope}
    {tokens rest others : List Token}
    {value : Stmt} :
    ReadsStmt grammar place scope tokens value inside rest →
    Suits scope scope' more →
    Token.AllAlike more tokens others →
    (place.inFunction = true → rest ≠ []) →
    ReadsStmtAlike more grammar place scope' value inside others rest
  | .declare isKeyword isSign new inner, suits, alike, _ => by
      obtain ⟨keyword, _, rfl, keywordAlike, nameAndRest⟩ := alike.eq_cons
      obtain ⟨_, _, rfl, nameAlike, signAndRest⟩ := nameAndRest.eq_cons
      obtain ⟨sign, tokens, rfl, signAlike, tokensAlike⟩ := signAndRest.eq_cons
      obtain ⟨otherPlace, rfl⟩ := nameAlike.eq_name
      obtain ⟨other, after, reads, valueAlike, afterAlike⟩ := inner.alike suits tokensAlike
      exact ⟨_, _, _,
        .declare (keywordAlike.of_kind isKeyword) (signAlike.of_kind isSign)
          (suits.current_find?_eq_none new) reads,
        .declare valueAlike, suits.define _ _ _ _, afterAlike⟩
  | .assignNew isSign lenient new inner, suits, alike, _ => by
      obtain ⟨_, _, rfl, nameAlike, signAndRest⟩ := alike.eq_cons
      obtain ⟨sign, tokens, rfl, signAlike, tokensAlike⟩ := signAndRest.eq_cons
      obtain ⟨otherPlace, rfl⟩ := nameAlike.eq_name
      obtain ⟨other, after, reads, valueAlike, afterAlike⟩ := inner.alike suits tokensAlike
      exact ⟨_, _, _,
        .assignNew (signAlike.of_kind isSign) lenient (suits.find?_eq_none new) reads,
        .assign valueAlike, suits.define _ _ _ _, afterAlike⟩
  | .assignOld isSign known isMutable inner, suits, alike, _ => by
      obtain ⟨_, _, rfl, nameAlike, signAndRest⟩ := alike.eq_cons
      obtain ⟨sign, tokens, rfl, signAlike, tokensAlike⟩ := signAndRest.eq_cons
      obtain ⟨otherPlace, rfl⟩ := nameAlike.eq_name
      obtain ⟨otherBinding, knownThere, sameMutable⟩ := suits.find?_eq_some known
      obtain ⟨other, after, reads, valueAlike, afterAlike⟩ := inner.alike suits tokensAlike
      exact ⟨_, _, _,
        .assignOld (signAlike.of_kind isSign) knownThere (sameMutable.trans isMutable) reads,
        .assign valueAlike, suits, afterAlike⟩
  | .call opens arguments operation, suits, alike, _ => by
      obtain ⟨_, tokens, rfl, nameAlike, tokensAlike⟩ := alike.eq_cons
      obtain ⟨otherPlace, rfl⟩ := nameAlike.eq_name
      obtain ⟨otherLeft, between, leftReads, leftAlike, betweenAlike⟩ :=
        arguments.alike (show (⟨_, otherPlace⟩ : Identifier).text = _ from rfl) suits tokensAlike
      obtain ⟨other, after, reads, valueAlike, afterAlike⟩ :=
        operation.alike leftAlike suits betweenAlike
      have opensThere := nextKind_eq tokensAlike (by rintro rfl; cases opens)
      exact ⟨_, _, _, .call (opensThere.trans opens) leftReads reads, .expr valueAlike, suits,
        afterAlike⟩
  | .operate isOperator visible operation, suits, alike, _ => by
      obtain ⟨_, tokens, rfl, nameAlike, tokensAlike⟩ := alike.eq_cons
      obtain ⟨otherPlace, rfl⟩ := nameAlike.eq_name
      obtain ⟨other, after, reads, valueAlike, afterAlike⟩ :=
        operation.alike
          (show Expr.Alike _ (.name ⟨_, otherPlace⟩) from .name) suits tokensAlike
      have operatesThere := nextKind_eq tokensAlike (by rintro rfl; cases isOperator)
      exact ⟨_, _, _,
        .operate (operatesThere.trans isOperator) (suits.isSome _ ▸ visible) reads,
        .expr valueAlike, suits, afterAlike⟩
  | .choice isKeyword first rest, suits, alike, _ => by
      obtain ⟨keyword, tokens, rfl, keywordAlike, tokensAlike⟩ := alike.eq_cons
      obtain ⟨otherFirst, between, firstReads, firstAlike, betweenAlike⟩ :=
        first.alike suits tokensAlike keyword.position
      obtain ⟨otherRest, after, reads, restAlike, afterAlike⟩ := rest.alike suits betweenAlike
      exact ⟨_, _, _, .choice (keywordAlike.of_kind isKeyword) firstReads reads,
        .choice (.cons firstAlike restAlike), suits, afterAlike⟩
  | .forEach isKeyword iterable bound body, suits, alike, _ => by
      obtain ⟨keyword, _, rfl, keywordAlike, keyAndRest⟩ := alike.eq_cons
      obtain ⟨_, _, rfl, keyAlike, linkAndRest⟩ := keyAndRest.eq_cons
      obtain ⟨_, tokens, rfl, linkAlike, tokensAlike⟩ := linkAndRest.eq_cons
      obtain ⟨keyPlace, rfl⟩ := keyAlike.eq_name
      obtain ⟨linkPlace, rfl⟩ := linkAlike.eq_name
      obtain ⟨otherBound, between, boundReads, boundAlike, betweenAlike⟩ :=
        bound.alike suits tokensAlike
      obtain ⟨otherBody, after, bodyReads, bodyAlike, afterAlike⟩ :=
        body.alike ((suits.push "for loop").define _ false _ keyPlace) betweenAlike
      exact ⟨_, _, _,
        .forEach (keywordAlike.of_kind isKeyword) (checkBound_of_alike boundAlike iterable)
          boundReads bodyReads,
        .forEach boundAlike bodyAlike, suits, afterAlike⟩
  | .whileLoop isKeyword test body, suits, alike, _ => by
      obtain ⟨keyword, tokens, rfl, keywordAlike, tokensAlike⟩ := alike.eq_cons
      obtain ⟨otherTest, between, testReads, testAlike, betweenAlike⟩ :=
        test.alike suits tokensAlike
      obtain ⟨otherBody, after, bodyReads, bodyAlike, afterAlike⟩ :=
        body.alike (suits.push "while loop") betweenAlike
      exact ⟨_, _, _, .whileLoop (keywordAlike.of_kind isKeyword) testReads bodyReads,
        .whileLoop testAlike bodyAlike, suits, afterAlike⟩
  | .returnNothing isKeyword allowed noValue, suits, alike, notLast => by
      obtain ⟨keyword, tokens, rfl, keywordAlike, tokensAlike⟩ := alike.eq_cons
      have sameLine := alike.valueFollows_eq (notLast allowed)
      exact ⟨_, _, _,
        .returnNothing (keywordAlike.of_kind isKeyword) allowed (sameLine.trans noValue),
        .returnNothing, suits, tokensAlike⟩
  | .returnValue isKeyword allowed hasValue inner, suits, alike, _ => by
      obtain ⟨keyword, tokens, rfl, keywordAlike, tokensAlike⟩ := alike.eq_cons
      have sameLine := alike.valueFollows_eq (by rintro rfl; cases hasValue)
      obtain ⟨other, after, reads, valueAlike, afterAlike⟩ := inner.alike suits tokensAlike
      exact ⟨_, _, _,
        .returnValue (keywordAlike.of_kind isKeyword) allowed (sameLine.trans hasValue) reads,
        .returnValue valueAlike, suits, afterAlike⟩
  | .control isKeyword allowed, suits, alike, _ => by
      obtain ⟨keyword, tokens, rfl, keywordAlike, tokensAlike⟩ := alike.eq_cons
      exact ⟨_, _, _, .control (keywordAlike.of_kind isKeyword) allowed, .control, suits,
        tokensAlike⟩
termination_by structural reads => reads

/-- A branch is read from alike tokens, condition and block. -/
theorem ReadsBranch.alike
    {place : Place}
    {scope scope' : Scope}
    {position : Position}
    {context : String}
    {tokens rest others : List Token}
    {value : Branch} :
    ReadsBranch grammar place scope position context tokens value rest →
    Suits scope scope' more →
    Token.AllAlike more tokens others →
    ∀ otherPosition,
      ReadsAlike more (ReadsBranch grammar place scope' otherPosition context) value.Alike
        others rest
  | .mk test body, suits, alike, otherPosition => by
      obtain ⟨otherTest, between, testReads, testAlike, betweenAlike⟩ := test.alike suits alike
      obtain ⟨otherBody, after, bodyReads, bodyAlike, afterAlike⟩ :=
        body.alike (suits.push _) betweenAlike
      exact ⟨_, _, .mk testReads bodyReads, .mk testAlike bodyAlike, afterAlike⟩
termination_by structural reads => reads

/-- Alternatives go on as long as they did; what comes after them does not start one. -/
theorem ReadsAlternatives.alike
    {place : Place}
    {scope scope' : Scope}
    {tokens rest others : List Token}
    {values : List Branch} :
    ReadsAlternatives grammar place scope tokens values rest →
    Suits scope scope' more →
    Token.AllAlike more tokens others →
    ReadsAlike more (ReadsAlternatives grammar place scope') (Branch.AllAlike values) others rest
  | .elseIf isKeyword next rest, suits, alike => by
      obtain ⟨keyword, tokens, rfl, keywordAlike, tokensAlike⟩ := alike.eq_cons
      obtain ⟨otherNext, between, nextReads, nextAlike, betweenAlike⟩ :=
        next.alike suits tokensAlike keyword.position
      obtain ⟨otherRest, after, reads, restAlike, afterAlike⟩ := rest.alike suits betweenAlike
      exact ⟨_, _, .elseIf (keywordAlike.of_kind isKeyword) nextReads reads,
        .cons nextAlike restAlike, afterAlike⟩
  | .elseThenIf isElse isIf next rest, suits, alike => by
      obtain ⟨keyword, _, rfl, keywordAlike, ifAndRest⟩ := alike.eq_cons
      obtain ⟨second, tokens, rfl, secondAlike, tokensAlike⟩ := ifAndRest.eq_cons
      obtain ⟨otherNext, between, nextReads, nextAlike, betweenAlike⟩ :=
        next.alike suits tokensAlike keyword.position
      obtain ⟨otherRest, after, reads, restAlike, afterAlike⟩ := rest.alike suits betweenAlike
      exact ⟨_, _,
        .elseThenIf (keywordAlike.of_kind isElse) (secondAlike.of_kind isIf) nextReads reads,
        .cons nextAlike restAlike, afterAlike⟩
  | .otherwise isElse noIf body, suits, alike => by
      obtain ⟨keyword, tokens, rfl, keywordAlike, tokensAlike⟩ := alike.eq_cons
      obtain ⟨otherBody, after, bodyReads, bodyAlike, afterAlike⟩ :=
        body.alike (suits.push "else branch") tokensAlike
      have noIfThere := nextKind_eq tokensAlike (by rintro rfl; cases body) |>.trans_ne noIf
      exact ⟨_, _, .otherwise (keywordAlike.of_kind isElse) noIfThere bodyReads,
        .cons (.mk .literal bodyAlike) .nil, afterAlike⟩
  | .none noElseIf noElse, suits, alike =>
      ⟨_, _,
        .none (nextKind_ne suits.ends alike rfl noElseIf) (nextKind_ne suits.ends alike rfl noElse),
        .nil, alike⟩
termination_by structural reads => reads

/-- A block is read from alike tokens up to its end. -/
theorem ReadsBlock.alike
    {place : Place}
    {scope scope' : Scope}
    {tokens rest others : List Token}
    {value : Block} :
    ReadsBlock grammar place scope tokens value rest →
    Suits scope scope' more →
    Token.AllAlike more tokens others →
    ReadsAlike more (ReadsBlock grammar place scope') value.Alike others rest
  | .mk opens closes statements, suits, alike => by
      obtain ⟨opening, tokens, rfl, openingAlike, tokensAlike⟩ := alike.eq_cons
      obtain ⟨otherStatements, _, reads, statementsAlike, closingAndRest⟩ :=
        statements.alike suits tokensAlike nofun
      obtain ⟨closing, after, rfl, closingAlike, afterAlike⟩ := closingAndRest.eq_cons
      exact ⟨_, _, .mk (openingAlike.of_kind opens) (closingAlike.of_kind closes) reads,
        .mk statementsAlike, afterAlike⟩
termination_by structural reads => reads

/-- Statements are read up to the end of the block around them, which is why none of them is the
last thing on its side only. -/
theorem ReadsStmts.alike
    {place : Place}
    {scope scope' : Scope}
    {tokens rest others : List Token}
    {values : List Stmt} :
    ReadsStmts grammar place scope tokens values rest →
    Suits scope scope' more →
    Token.AllAlike more tokens others →
    rest ≠ [] →
    ReadsAlike more (ReadsStmts grammar place scope') (Stmt.AllAlike values) others rest
  | .nil ends, suits, alike, notLast => by
      have endsThere := (nextKind_eq alike notLast).trans (ends.resolve_right notLast)
      exact ⟨_, _, .nil (.inl endsThere), .nil, alike⟩
  | .cons starts notEmpty first rest, suits, alike, notLast => by
      obtain ⟨otherFirst, otherInside, between, firstReads, firstAlike, inside, betweenAlike⟩ :=
        first.alike suits alike fun _ =>
          (by rintro rfl; exact notLast rest.rest_eq_nil)
      obtain ⟨otherRest, after, reads, restAlike, afterAlike⟩ :=
        rest.alike inside betweenAlike notLast
      have startsThere := nextKind_ne suits.ends alike rfl starts
      have notEmptyThere : others ≠ [] := by
        rintro rfl
        cases alike
        exact notEmpty rfl
      exact ⟨_, _, .cons startsThere notEmptyThere firstReads reads,
        .cons firstAlike restAlike, afterAlike⟩
termination_by structural reads => reads

end

end Statements

section Items

variable {grammar : Grammar} {more : List Token}

/-- Names with the same texts. -/
def SameTexts (names others : List Identifier) : Prop :=
  others.map Identifier.text = names.map Identifier.text

/-- A list of names keeps their texts. -/
theorem ReadsNames.alike
    {tokens rest others : List Token}
    {names : List Identifier}
    (reads : ReadsNames tokens names rest)
    (alike : Token.AllAlike more tokens others) :
    ReadsAlike more ReadsNames (SameTexts names) others rest := by
  induction reads generalizing others with
  | last closes =>
      obtain ⟨_, _, rfl, nameAlike, closingAndRest⟩ := alike.eq_cons
      obtain ⟨closing, after, rfl, closingAlike, afterAlike⟩ := closingAndRest.eq_cons
      obtain ⟨otherPlace, rfl⟩ := nameAlike.eq_name
      exact ⟨_, _, .last (closingAlike.of_kind closes), rfl, afterAlike⟩
  | more isComma _ inductionHypothesis =>
      obtain ⟨_, _, rfl, nameAlike, commaAndRest⟩ := alike.eq_cons
      obtain ⟨comma, between, rfl, commaAlike, betweenAlike⟩ := commaAndRest.eq_cons
      obtain ⟨otherPlace, rfl⟩ := nameAlike.eq_name
      obtain ⟨otherNames, after, othersRead, sameTexts, afterAlike⟩ :=
        inductionHypothesis betweenAlike
      refine ⟨_, _, .more (commaAlike.of_kind isComma) othersRead, ?_, afterAlike⟩
      simpa [SameTexts] using sameTexts

/-- The parameters of a function keep their texts. -/
theorem ReadsParameters.alike
    {tokens rest others : List Token}
    {names : List Identifier}
    (reads : ReadsParameters tokens names rest)
    (alike : Token.AllAlike more tokens others) :
    ReadsAlike more ReadsParameters (SameTexts names) others rest := by
  cases reads with
  | empty opens closes =>
      obtain ⟨opening, _, rfl, openingAlike, closingAndRest⟩ := alike.eq_cons
      obtain ⟨closing, after, rfl, closingAlike, afterAlike⟩ := closingAndRest.eq_cons
      exact ⟨_, _, .empty (openingAlike.of_kind opens) (closingAlike.of_kind closes), rfl,
        afterAlike⟩
  | names opens inner =>
      obtain ⟨opening, tokens, rfl, openingAlike, tokensAlike⟩ := alike.eq_cons
      obtain ⟨otherNames, after, innerReads, sameTexts, afterAlike⟩ := inner.alike tokensAlike
      exact ⟨_, _, .names (openingAlike.of_kind opens) innerReads, sameTexts, afterAlike⟩

/-- The same parameters can be declared where the same variables are. -/
theorem declareAll_of_sameTexts
    {scope scope' inside : Scope}
    {names others : List Identifier}
    (suits : Suits scope scope' more)
    (sameTexts : SameTexts names others)
    (declares : declareAll scope names = .ok inside) :
    ∃ otherInside, declareAll scope' others = .ok otherInside ∧ Suits inside otherInside more := by
  induction names generalizing scope scope' others with
  | nil =>
      obtain rfl : others = [] := by simpa [SameTexts] using sameTexts
      cases declares
      exact ⟨scope', rfl, suits⟩
  | cons first rest inductionHypothesis =>
      obtain ⟨other, otherRest, rfl, sameText, restTexts⟩ :
          ∃ other otherRest, others = other :: otherRest ∧ other.text = first.text ∧
            SameTexts rest otherRest := by
        cases others with
        | nil =>
            simp [SameTexts] at sameTexts
        | cons other otherRest =>
            simp only [SameTexts, List.map_cons, List.cons.injEq] at sameTexts
            exact ⟨other, otherRest, rfl, sameTexts.1, sameTexts.2⟩
      simp only [declareAll, bind_eq_ok, declare_eq_ok] at declares ⊢
      obtain ⟨_, ⟨new, rfl⟩, restDeclares⟩ := declares
      have inner := suits.define first.text false first.position other.position
      obtain ⟨otherInside, othersDeclare, inside⟩ :=
        inductionHypothesis inner restTexts restDeclares
      refine ⟨otherInside, ⟨_, ⟨?_, rfl⟩, ?_⟩, inside⟩
      · rw [sameText]
        exact suits.current_find?_eq_none new
      · rw [sameText]
        exact othersDeclare

/-- The same names are known. -/
structure SameKnown (known other : Declarations) : Prop where
  layout : other.scope.layout = known.scope.layout
  functions : other.functions = known.functions

/-- An item is read up to positions, with what it declares. -/
theorem ReadsItem.alike
    {known known' between : Declarations}
    {tokens rest others : List Token}
    {value : Item}
    (reads : ReadsItem grammar known tokens value between rest)
    (seam : breaksOff (nextKind more) = true)
    (same : SameKnown known known')
    (alike : Token.AllAlike more tokens others) :
    ∃ other otherBetween after,
      ReadsItem grammar known' others other otherBetween after ∧ value.Alike other ∧
        SameKnown between otherBetween ∧ Token.AllAlike more rest after := by
  have suits : Suits known.scope known'.scope more := ⟨same.layout, seam⟩
  cases reads with
  | @function text names inside _ _ _ _ _ _ _ isKeyword new declares parameters body =>
      obtain ⟨keyword, _, rfl, keywordAlike, nameAndRest⟩ := alike.eq_cons
      obtain ⟨_, tokens, rfl, nameAlike, tokensAlike⟩ := nameAndRest.eq_cons
      obtain ⟨otherPlace, rfl⟩ := nameAlike.eq_name
      obtain ⟨otherNames, between, parametersRead, sameTexts, betweenAlike⟩ :=
        parameters.alike tokensAlike
      obtain ⟨otherInside, declaresThere, inner⟩ :=
        declareAll_of_sameTexts (suits.push ("function " ++ text)) sameTexts declares
      obtain ⟨otherBody, after, bodyReads, bodyAlike, afterAlike⟩ :=
        body.alike inner betweenAlike
      have sameLength : otherNames.length = names.length := by
        simpa using congrArg List.length sameTexts
      refine ⟨_, _, _,
        .function (keywordAlike.of_kind isKeyword) (same.functions ▸ new) declaresThere
          parametersRead bodyReads,
        .function ⟨rfl, sameTexts, bodyAlike⟩, ⟨same.layout, ?_⟩, afterAlike⟩
      simp [same.functions, sameLength]
  | type isKeyword new =>
      obtain ⟨keyword, _, rfl, keywordAlike, nameAndRest⟩ := alike.eq_cons
      obtain ⟨_, after, rfl, nameAlike, afterAlike⟩ := nameAndRest.eq_cons
      obtain ⟨otherPlace, rfl⟩ := nameAlike.eq_name
      exact ⟨_, _, _,
        .type (keywordAlike.of_kind isKeyword) (suits.current_find?_eq_none new), .type,
        ⟨(suits.define _ false _ otherPlace).layout, same.functions⟩, afterAlike⟩
  | statement inner =>
      obtain ⟨other, inside, after, innerReads, innerAlike, insideSuits, afterAlike⟩ :=
        inner.alike suits alike nofun
      exact ⟨_, _, _, .statement innerReads, .statement innerAlike,
        ⟨insideSuits.layout, same.functions⟩, afterAlike⟩

/-- Items are read up to positions from alike tokens, and so is what follows these. -/
theorem ReadsItems.alike
    {known known' final : Declarations}
    {tokens others : List Token}
    {values : List Item}
    (reads : ReadsItems grammar known tokens values final)
    (seam : breaksOff (nextKind more) = true)
    (same : SameKnown known known')
    (alike : Token.AllAlike more tokens others) :
    ∃ otherValues otherFinal, List.Forall₂ Item.Alike values otherValues ∧
      SameKnown final otherFinal ∧
      ∀ {moreValues last}, ReadsItems grammar otherFinal more moreValues last →
        ReadsItems grammar known' others (otherValues ++ moreValues) last := by
  induction reads generalizing known' others with
  | nil =>
      cases alike
      exact ⟨[], known', .nil, same, fun moreRead => moreRead⟩
  | cons first _ inductionHypothesis =>
      obtain ⟨other, otherBetween, after, firstReads, firstAlike, sameBetween, afterAlike⟩ :=
        first.alike seam same alike
      obtain ⟨otherValues, otherFinal, valuesAlike, sameFinal, continues⟩ :=
        inductionHypothesis sameBetween afterAlike
      exact ⟨other :: otherValues, otherFinal, .cons firstAlike valuesAlike, sameFinal,
        fun moreRead => .cons firstReads (continues moreRead)⟩

/-- The first token of a file ends whatever item stands before it. -/
theorem ReadsItems.breaksOff
    {known final : Declarations}
    {tokens : List Token}
    {values : List Item}
    (reads : ReadsItems grammar known tokens values final) :
    breaksOff (nextKind tokens) = true := by
  cases reads with
  | nil =>
      rfl
  | cons first _ =>
      cases first with
      | function isKeyword =>
          rw [nextKind_cons, isKeyword]
          rfl
      | type isKeyword =>
          rw [nextKind_cons, isKeyword]
          rfl
      | statement inner =>
          exact breaksOff_of_startsStatement inner.starts

/-- Moving tokens leaves the kind of the next one as it is. -/
theorem nextKind_placed (placement : Placement) (tokens : List Token) :
    nextKind (tokens.map (Token.placed placement)) = nextKind tokens := by
  cases tokens with
  | nil =>
      rfl
  | cons first rest =>
      exact Token.kind_placed placement first

/-- Files whose tokens follow one another are read as one file. -/
theorem ReadsItems.join
    {known between final : Declarations}
    {firstTokens secondTokens : List Token}
    {first second : List Item}
    (firstReads : ReadsItems grammar known firstTokens first between)
    (secondReads : ReadsItems grammar between secondTokens second final)
    (firstPlace secondPlace : Placement) :
    ∃ firstOthers secondOthers last,
      List.Forall₂ Item.Alike first firstOthers ∧ List.Forall₂ Item.Alike second secondOthers ∧
        SameKnown final last ∧
        ReadsItems grammar known
          (firstTokens.map (Token.placed firstPlace) ++ secondTokens.map (Token.placed secondPlace))
          (firstOthers ++ secondOthers) last := by
  have seam : Parser.breaksOff
      (nextKind (secondTokens.map (Token.placed secondPlace))) = true := by
    rw [nextKind_placed]
    exact secondReads.breaksOff
  obtain ⟨firstOthers, otherBetween, firstAlike, sameBetween, firstContinues⟩ :=
    firstReads.alike seam ⟨rfl, rfl⟩ (Token.allAlike_placed firstPlace firstTokens _)
  have secondTokensAlike := Token.allAlike_placed secondPlace secondTokens []
  rw [List.append_nil] at secondTokensAlike
  obtain ⟨secondOthers, last, secondAlike, sameFinal, secondContinues⟩ :=
    secondReads.alike rfl sameBetween secondTokensAlike
  have secondOthersRead := secondContinues .nil
  rw [List.append_nil] at secondOthersRead
  exact ⟨firstOthers, secondOthers, last, firstAlike, secondAlike, sameFinal,
    firstContinues secondOthersRead⟩

end Items

/-- Calls that are resolved are so up to positions, and where more functions are known. -/
theorem resolve_of_alike
    {functions others : Signatures}
    {items otherItems : List Item}
    (alike : List.Forall₂ Item.Alike items otherItems)
    (stay :
      ∀ (name : String) signature,
        functions[name]? = some signature → others[name]? = some signature)
    (resolve : functions.Resolve (items.flatMap Item.calls)) :
    others.Resolve (otherItems.flatMap Item.calls) := by
  have sameCalls :
      CallSite.SameCalls (items.flatMap Item.calls) (otherItems.flatMap Item.calls) :=
    List.rel_flatMap alike fun _ _ itemAlike => itemAlike.calls
  generalize items.flatMap Item.calls = calls at sameCalls resolve
  generalize otherItems.flatMap Item.calls = otherCalls at sameCalls ⊢
  induction sameCalls with
  | nil =>
      exact fun _ => nofun
  | cons sameCall _ inductionHypothesis =>
      have restResolve := inductionHypothesis fun call inRest => resolve call (by simp [inRest])
      obtain ⟨signature, found, takes⟩ := resolve _ List.mem_cons_self
      intro other member
      rcases List.mem_cons.mp member with rfl | inRest
      · exact ⟨signature, sameCall.1 ▸ stay _ _ found, sameCall.2 ▸ takes⟩
      · exact restResolve other inRest

end Parser

end Scripting
