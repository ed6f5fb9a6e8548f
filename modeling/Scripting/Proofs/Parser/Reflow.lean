import Scripting.Proofs.Parser.Likeness
import Scripting.Proofs.Token.Rendering

namespace Scripting

/-!
# Expressions in another layout

The same tokens at other positions are read in the same way, to expressions that are equal up to
positions or to errors that are.  Nothing in an expression depends on where its tokens are.

Two readings are compared step by step, each with the scope and the tokens of its own, and both
with the same budget.
-/

/-- The same tokens at other positions.  If the layout of returns is kept, the token after a
`return` is on the line of the `return` on both sides or on neither.  Inside templates all positions
may differ. -/
inductive Token.Reflowed (keepsReturns : Bool) : List Token → List Token → Prop where
  | nil :
      Token.Reflowed keepsReturns [] []
  | cons
      (same : first.bare = other.bare)
      (sameLine :
        keepsReturns = true → first.kind = .keyword .returnWord →
          ∀ next ∈ rest.head?, ∀ otherNext ∈ others.head?,
            (otherNext.position.line = other.position.line ↔
              next.position.line = first.position.line)) :
      Token.Reflowed keepsReturns rest others →
      Token.Reflowed keepsReturns (first :: rest) (other :: others)

/-- Two places before the same tokens at other positions. -/
def TokenCursor.Reflowed (keepsReturns : Bool) (cursor other : TokenCursor) : Prop :=
  Token.Reflowed keepsReturns cursor.ahead other.ahead

/-- Names that are equal up to positions. -/
inductive Identifier.Alike : Identifier → Identifier → Prop where
  | mk : Identifier.Alike ⟨word, place⟩ ⟨word, otherPlace⟩

/-- Scopes that are equal up to positions: frames with the same comments, which declare the same
variables, mutable or not. -/
structure Scope.Alike (scope other : Scope) : Prop where
  layout : other.layout = scope.layout
  comments : other.frames.map Frame.comment = scope.frames.map Frame.comment

/-- Broken rules that are equal up to positions. -/
inductive RuleFault.Alike : RuleFault → RuleFault → Prop where
  | badStart
      (same : token.bare = other.bare) :
      RuleFault.Alike (.badStart token) (.badStart other)
  | notValue
      (same : token.bare = other.bare) :
      RuleFault.Alike (.notValue token) (.notValue other)
  | variableRedefined :
      RuleFault.Alike (.variableRedefined name place) (.variableRedefined name otherPlace)
  | immutable :
      RuleFault.Alike (.immutable name place) (.immutable name otherPlace)
  | refl :
      RuleFault.Alike fault fault

/-- Errors that are equal up to positions: of the same type, about the same thing, and with causes
that are equal up to positions. -/
inductive SyntaxError.Alike : SyntaxError → SyntaxError → Prop where
  | lexical :
      SyntaxError.Alike (.lexical ⟨place, fault⟩) (.lexical ⟨otherPlace, fault⟩)
  | unexpected
      (same : got.map Token.bare = otherGot.map Token.bare) :
      SyntaxError.Alike (.unexpected place expected got context)
        (.unexpected otherPlace expected otherGot context)
  | rule :
      RuleFault.Alike fault otherFault →
      SyntaxError.Alike (.rule place fault) (.rule otherPlace otherFault)
  | inside :
      SyntaxError.Alike cause otherCause →
      SyntaxError.Alike (.inside place enclosure cause) (.inside otherPlace enclosure otherCause)

/-- Texts that are equal up to the positions printed in them. -/
inductive SameWording : String → String → Prop where
  | text : SameWording words words
  | position : SameWording (Position.text place) (Position.text otherPlace)
  | append :
      SameWording first other →
      SameWording rest others →
      SameWording (first ++ rest) (other ++ others)

/-- Tokens with the same text, by their form. -/
inductive Token.SameForm : Token → Token → Prop where
  | name :
      Token.SameForm (.name text place) (.name text otherPlace)
  | literal :
      Token.SameForm (.literal text value place) (.literal text value otherPlace)
  | template
      (same : Part.bareAll parts = Part.bareAll others) :
      Token.SameForm (.template parts place) (.template others otherPlace)
  | mark :
      Token.SameForm (.mark fixed word place) (.mark fixed word otherPlace)

/-- Parts of templates with the same text, by the form of the first. -/
inductive Part.SameForm : List Part → List Part → Prop where
  | nil :
      Part.SameForm [] []
  | fragment
      (same : Part.bareAll rest = Part.bareAll others) :
      Part.SameForm (.fragment text :: rest) (.fragment text :: others)
  | empty :
      Part.SameForm (.interpolation [] :: rest) (.interpolation [] :: others)
  | interpolation
      (reflowed : Token.Reflowed false (first :: tokens) (other :: otherTokens))
      (same : Part.bareAll rest = Part.bareAll others) :
      Part.SameForm (.interpolation (first :: tokens) :: rest)
        (.interpolation (other :: otherTokens) :: others)

/-- Tokens that are equal without their positions are of one form. -/
theorem Token.sameForm_of_bare
    {token other : Token}
    (same : token.bare = other.bare) :
    token.SameForm other := by
  cases token <;> cases other <;> simp only [bare, reduceCtorEq, name.injEq, literal.injEq,
    template.injEq, mark.injEq, and_true] at same
  · exact same ▸ .name
  · obtain ⟨rfl, rfl⟩ := same
    exact .literal
  · exact .template same
  · obtain ⟨rfl, rfl⟩ := same
    exact .mark

/-- Tokens of one form are of one kind. -/
theorem Token.SameForm.kind_eq
    {token other : Token}
    (same : token.SameForm other) :
    other.kind = token.kind := by
  cases same <;> rfl

/-- Tokens inside templates may stand anywhere. -/
theorem Token.reflowed_of_bareAll
    {tokens others : List Token}
    (same : Token.bareAll tokens = Token.bareAll others) :
    Token.Reflowed false tokens others := by
  induction tokens generalizing others with
  | nil =>
      cases others with
      | nil => exact .nil
      | cons other others => simp [bareAll] at same
  | cons first rest inductionHypothesis =>
      cases others with
      | nil => simp [bareAll] at same
      | cons other others =>
          simp only [bareAll, List.cons.injEq] at same
          exact .cons same.1 (by simp) (inductionHypothesis same.2)

/-- Parts that are equal without positions are of one form, fragment or interpolation. -/
theorem Part.sameForm_of_bareAll
    {parts others : List Part}
    (same : Part.bareAll parts = Part.bareAll others) :
    Part.SameForm parts others := by
  rcases parts with _ | ⟨_ | ⟨_ | ⟨first, tokens⟩⟩, rest⟩ <;>
    rcases others with _ | ⟨_ | ⟨_ | ⟨other, otherTokens⟩⟩, otherRest⟩ <;>
    simp only [bareAll, Token.bareAll, reduceCtorEq, List.cons.injEq, fragment.injEq,
      interpolation.injEq, false_and, true_and] at same
  · exact .nil
  · obtain ⟨rfl, sameRest⟩ := same
    exact .fragment sameRest
  · exact .empty
  · obtain ⟨⟨sameFirst, sameTokens⟩, sameRest⟩ := same
    exact .interpolation (.cons sameFirst (by simp) (Token.reflowed_of_bareAll sameTokens)) sameRest

mutual

/-- What is shown of a token does not depend on positions. -/
theorem Token.shown_bare : (token : Token) → token.bare.shown = token.shown
  | .name _ _ => rfl
  | .literal _ _ _ => rfl
  | .template parts _ => by
      simp only [Token.bare, Token.shown, Part.shownAll_bareAll parts]
  | .mark _ _ _ => rfl

/-- What an error shows of parts holds no positions. -/
theorem Part.shownAll_bareAll :
    (parts : List Part) → Part.shownAll (Part.bareAll parts) = Part.shownAll parts
  | [] => rfl
  | .fragment _ :: rest => by
      simp only [Part.bareAll, Part.shownAll, Part.shownAll_bareAll rest]
  | .interpolation tokens :: rest => by
      simp only [Part.bareAll, Part.shownAll, Part.shown, Part.shownAll_bareAll rest,
        Token.shownAll_bareAll tokens]

/-- What an error shows of tokens holds no positions. -/
theorem Token.shownAll_bareAll :
    (tokens : List Token) → Token.shownAll (Token.bareAll tokens) = Token.shownAll tokens
  | [] => rfl
  | first :: rest => by
      simp only [Token.bareAll, Token.shownAll, Token.shown_bare first,
        Token.shownAll_bareAll rest]

end

/-- Tokens that are equal without positions are shown with the same wording. -/
theorem Token.sameWording_of_bare
    {token other : Token}
    (same : token.bare = other.bare) :
    SameWording token.shown other.shown := by
  rw [← Token.shown_bare token, same, Token.shown_bare]
  exact .text

/-- Like broken rules have the same wording. -/
theorem RuleFault.Alike.message
    {fault other : RuleFault}
    (alike : fault.Alike other) :
    SameWording fault.message other.message := by
  cases alike with
  | badStart same =>
      exact .append (.append .text (Token.sameWording_of_bare same)) .text
  | notValue same =>
      exact .append .text (Token.sameWording_of_bare same)
  | variableRedefined =>
      exact .append .text .position
  | immutable =>
      exact .append (.append .text .position) .text
  | refl =>
      exact .text

/-- Errors that are equal up to positions have the same message up to positions. -/
theorem SyntaxError.Alike.message
    {error other : SyntaxError}
    (alike : error.Alike other) :
    SameWording error.message other.message := by
  induction alike with
  | lexical =>
      exact .append (.append .position .text) .text
  | @unexpected _ _ got _ _ otherGot same =>
      refine .append (.append (.append (.append (.append .position .text) .text) .text) ?_) .text
      cases got with
      | none =>
          cases otherGot with
          | none => exact .text
          | some other => cases same
      | some token =>
          cases otherGot with
          | none => cases same
          | some other => exact Token.sameWording_of_bare (Option.some.inj same)
  | rule fault =>
      exact .append (.append .position .text) fault.message
  | inside _ causeMessage =>
      exact .append (.append (.append (.append .position .text) .text) .text) causeMessage

namespace Scope.Alike

variable {scope other : Scope}

theorem refl (scope : Scope) : scope.Alike scope :=
  ⟨rfl, rfl⟩

/-- Like scopes suit each other where no tokens come after. -/
theorem suits (alike : scope.Alike other) : Parser.Suits scope other [] :=
  ⟨alike.layout, rfl⟩

/-- Opening a block keeps scopes like. -/
theorem push
    (alike : scope.Alike other)
    (comment : String) :
    Scope.Alike (scope.push comment) (other.push comment) where
  layout := by simp [alike.layout]
  comments := by simpa [ScopeChain.frames, ScopeChain.push] using alike.comments

/-- A declaration leaves the comments of the frames alone. -/
theorem comments_define
    (scope : Scope)
    (name : String)
    (binding : Binding) :
    (scope.define name binding).frames.map Frame.comment = scope.frames.map Frame.comment := by
  rcases scope with ⟨_ | ⟨frame, rest⟩, outer⟩ <;> rfl

/-- Declaring a variable in both scopes keeps them like. -/
theorem define
    (alike : scope.Alike other)
    (name : String)
    (mutable : Bool)
    (place otherPlace : Position) :
    Scope.Alike (scope.define name ⟨mutable, place⟩) (other.define name ⟨mutable, otherPlace⟩) where
  layout := by simp [alike.layout]
  comments := by simp only [comments_define, alike.comments]

end Scope.Alike

namespace Parser

/-- Two readings agree: both succeed, with results that are alike, or both fail, with errors that
are equal up to positions. -/
inductive Agrees {Result : Type} (Alike : Result → Result → Prop) :
    Except SyntaxError Result → Except SyntaxError Result → Prop where
  | alike {result otherResult : Result} (alike : Alike result otherResult) :
      Agrees Alike (.ok result) (.ok otherResult)
  | refused {error otherError : SyntaxError} (alike : error.Alike otherError) :
      Agrees Alike (.error error) (.error otherError)

/-- Pairs whose components are alike, each in its own way. -/
inductive Together {First Second : Type} (AlikeFirst : First → First → Prop)
    (AlikeSecond : Second → Second → Prop) : First × Second → First × Second → Prop where
  | mk {first otherFirst : First} {second otherSecond : Second} :
      AlikeFirst first otherFirst →
      AlikeSecond second otherSecond →
      Together AlikeFirst AlikeSecond (first, second) (otherFirst, otherSecond)

namespace Agrees

/-- Readings agree in sequence if each of them does. -/
theorem bind
    {First Second : Type}
    {AlikeFirst : First → First → Prop}
    {AlikeSecond : Second → Second → Prop}
    {reading other : Except SyntaxError First}
    {next otherNext : First → Except SyntaxError Second}
    (first : Agrees AlikeFirst reading other)
    (second :
      ∀ result otherResult, AlikeFirst result otherResult →
        Agrees AlikeSecond (next result) (otherNext otherResult)) :
    Agrees AlikeSecond (reading >>= next) (other >>= otherNext) := by
  cases first with
  | alike alike =>
      exact second _ _ alike
  | refused alike =>
      exact .refused alike

/-- What is made of like results is to be like. -/
theorem map
    {First Second : Type}
    {AlikeFirst : First → First → Prop}
    {AlikeSecond : Second → Second → Prop}
    {reading other : Except SyntaxError First}
    {change otherChange : First → Second}
    (first : Agrees AlikeFirst reading other)
    (changed :
      ∀ result otherResult, AlikeFirst result otherResult →
        AlikeSecond (change result) (otherChange otherResult)) :
    Agrees AlikeSecond (reading.map change) (other.map otherChange) := by
  cases first with
  | alike alike =>
      exact .alike (changed _ _ alike)
  | refused alike =>
      exact .refused alike

/-- Errors of alike readings are enclosed in the same construct. -/
theorem mapError
    {Result : Type}
    {Alike : Result → Result → Prop}
    {reading other : Except SyntaxError Result}
    (body : Agrees Alike reading other)
    (enclosure : Enclosure)
    (place otherPlace : Position) :
    Agrees Alike (reading.mapError (.inside place enclosure))
      (other.mapError (.inside otherPlace enclosure)) := by
  cases body with
  | alike alike =>
      exact .alike alike
  | refused alike =>
      exact .refused (.inside alike)

end Agrees

end Parser

namespace TokenCursor.Reflowed

open Scripting.Parser

variable {keepsReturns : Bool} {cursor other : TokenCursor}

/-- What lies behind the cursors does not matter. -/
theorem of_tokens
    {tokens others : List Token}
    (reflowed : Token.Reflowed keepsReturns tokens others)
    (behind otherBehind : List Token) :
    Reflowed keepsReturns ⟨behind, tokens⟩ ⟨otherBehind, others⟩ :=
  reflowed

/-- Both cursors see a token of one kind next. -/
theorem kind_eq (reflowed : cursor.Reflowed keepsReturns other) : other.kind = cursor.kind := by
  rcases cursor with ⟨behind, tokens⟩
  rcases other with ⟨otherBehind, others⟩
  cases reflowed with
  | nil =>
      rfl
  | cons same _ _ =>
      exact (Token.sameForm_of_bare same).kind_eq

/-- Both cursors are at the end, or neither is. -/
theorem atEnd_eq (reflowed : cursor.Reflowed keepsReturns other) :
    other.atEnd = cursor.atEnd := by
  rcases cursor with ⟨behind, tokens⟩
  rcases other with ⟨otherBehind, others⟩
  cases reflowed <;> rfl

/-- A step over a token keeps the cursors on reflowed tokens. -/
theorem skip (reflowed : cursor.Reflowed keepsReturns other) :
    cursor.skip.Reflowed keepsReturns other.skip := by
  rcases cursor with ⟨behind, tokens⟩
  rcases other with ⟨otherBehind, others⟩
  cases reflowed with
  | nil =>
      exact .nil
  | cons _ _ rest =>
      exact rest

/-- Both cursors see a token of one kind after the next. -/
theorem secondKind_eq (reflowed : cursor.Reflowed keepsReturns other) :
    other.secondKind = cursor.secondKind := by
  have second (any : TokenCursor) : any.secondKind = any.skip.kind := by
    rcases any with ⟨behind, _ | ⟨token, _ | ⟨next, rest⟩⟩⟩ <;> rfl
  rw [second, second]
  exact reflowed.skip.kind_eq

/-- A token is expected on both sides and found, or refused for the same reason. -/
theorem expect
    (reflowed : cursor.Reflowed keepsReturns other)
    (expected : Expectation)
    (context : String) :
    Agrees (Together Token.SameForm (Reflowed keepsReturns)) (cursor.expect expected context)
      (other.expect expected context) := by
  rcases cursor with ⟨behind, tokens⟩
  rcases other with ⟨otherBehind, others⟩
  cases reflowed with
  | nil =>
      exact .refused (.unexpected rfl)
  | cons same _ rest =>
      have sameForm := Token.sameForm_of_bare same
      simp only [TokenCursor.expect, sameForm.kind_eq]
      split
      · exact .alike ⟨sameForm, rest⟩
      · exact .refused (.unexpected (congrArg some same))

/-- A token is taken on both sides, or refused alike. -/
theorem want
    (reflowed : cursor.Reflowed keepsReturns other)
    (kind : TokenKind)
    (context : String) :
    Agrees (Together Token.SameForm (Reflowed keepsReturns)) (cursor.want kind context)
      (other.want kind context) :=
  reflowed.expect (.kind kind) context

/-- A token is accepted on both sides or on neither. -/
theorem accept?
    (reflowed : cursor.Reflowed keepsReturns other)
    (kind : TokenKind) :
    cursor.accept? kind = none ∧ other.accept? kind = none ∨
      ∃ rest otherRest, cursor.accept? kind = some rest ∧ other.accept? kind = some otherRest ∧
        rest.Reflowed keepsReturns otherRest := by
  rcases cursor with ⟨behind, tokens⟩
  rcases other with ⟨otherBehind, others⟩
  cases reflowed with
  | nil =>
      exact .inl ⟨rfl, rfl⟩
  | cons same _ rest =>
      simp only [TokenCursor.accept?, (Token.sameForm_of_bare same).kind_eq]
      split
      · exact .inr ⟨_, _, rfl, rfl, rest⟩
      · exact .inl ⟨rfl, rfl⟩

/-- Two ways to go on, by whether a token is accepted. -/
theorem accept
    {Result : Type}
    {Alike : Result → Result → Prop}
    {kind : TokenKind}
    {taken otherTaken : TokenCursor → Except SyntaxError Result}
    {left otherLeft : Except SyntaxError Result}
    (reflowed : cursor.Reflowed keepsReturns other)
    (accepted :
      ∀ rest otherRest, rest.Reflowed keepsReturns otherRest →
        Agrees Alike (taken rest) (otherTaken otherRest))
    (refused : Agrees Alike left otherLeft) :
    Agrees Alike
      (match cursor.accept? kind with
        | some rest => taken rest
        | none => left)
      (match other.accept? kind with
        | some rest => otherTaken rest
        | none => otherLeft) := by
  rcases reflowed.accept? kind with ⟨none, otherNone⟩ | ⟨_, _, some, otherSome, rest⟩
  · simpa only [none, otherNone] using refused
  · simpa only [some, otherSome] using accepted _ _ rest

end TokenCursor.Reflowed

namespace Parser

/-- The end of input is refused alike, though not at one position. -/
theorem tokensEnded_agrees
    {Result : Type}
    {Alike : Result → Result → Prop}
    (cursor other : TokenCursor) :
    Agrees Alike (.error (tokensEnded cursor)) (.error (tokensEnded other)) :=
  .refused (.unexpected rfl)

/-- Operations go on alike, layout having no rank. -/
theorem tighterOperator?_eq
    {keepsReturns : Bool}
    {cursor other : TokenCursor}
    (reflowed : cursor.Reflowed keepsReturns other)
    (grammar : Grammar)
    (bound : Nat) :
    tighterOperator? grammar bound other = tighterOperator? grammar bound cursor := by
  simp only [tighterOperator?, reflowed.kind_eq]

/-- A name is visible on both sides, or refused alike. -/
theorem visibleName_agrees
    {scope other : Scope}
    (scopes : scope.Alike other)
    (word : String)
    (place otherPlace : Position) :
    Agrees Expr.Alike (visibleName scope ⟨word, place⟩) (visibleName other ⟨word, otherPlace⟩) := by
  cases found : scope.find? word with
  | none =>
      have otherFound := scopes.suits.find?_eq_none found
      simp only [visibleName, found, otherFound]
      exact .refused (.rule .refl)
  | some binding =>
      obtain ⟨otherBinding, otherFound, -⟩ := scopes.suits.find?_eq_some found
      simp only [visibleName, found, otherFound]
      exact .alike .name

/-- An interpolation ends on both sides, or is refused alike for what is left of it. -/
theorem endOfInterpolation_agrees
    {keepsReturns : Bool}
    {cursor other : TokenCursor}
    (reflowed : cursor.Reflowed keepsReturns other) :
    Agrees (· = ·) (endOfInterpolation cursor) (endOfInterpolation other) := by
  rcases cursor with ⟨behind, tokens⟩
  rcases other with ⟨otherBehind, others⟩
  cases reflowed with
  | nil =>
      exact .alike rfl
  | cons same _ _ =>
      exact .refused (.unexpected (congrArg some same))

/-- Two ways to read agree wherever the scopes are equal up to positions and the same tokens are
ahead: they lead to trees that are alike, with the same tokens left. -/
def ReadsAgree {Tree : Type} (keepsReturns : Bool) (Alike : Tree → Tree → Prop)
    (reading other : Scope → TokenCursor → Except SyntaxError (Tree × TokenCursor)) : Prop :=
  ∀ {scope otherScope : Scope}, scope.Alike otherScope →
    ∀ {cursor otherCursor : TokenCursor}, cursor.Reflowed keepsReturns otherCursor →
      Agrees (Together Alike (TokenCursor.Reflowed keepsReturns)) (reading scope cursor)
        (other otherScope otherCursor)

/-- With a budget, the functions for expressions agree with themselves. -/
structure ExprsAgree (budget : Nat) : Prop where
  expr :
    ∀ {keepsReturns} grammar,
      ReadsAgree keepsReturns Expr.Alike (expr budget grammar) (expr budget grammar)
  operation :
    ∀ {keepsReturns} grammar bound {left otherLeft}, Expr.Alike left otherLeft →
      ReadsAgree keepsReturns Expr.Alike (operation budget grammar · bound left)
        (operation budget grammar · bound otherLeft)
  operand :
    ∀ {keepsReturns} grammar,
      ReadsAgree keepsReturns Expr.Alike (operand budget grammar) (operand budget grammar)
  call :
    ∀ {keepsReturns} grammar word place otherPlace,
      ReadsAgree keepsReturns Expr.Alike (call budget grammar · ⟨word, place⟩)
        (call budget grammar · ⟨word, otherPlace⟩)
  exprList :
    ∀ {keepsReturns} grammar closing context,
      ReadsAgree keepsReturns Expr.AllAlike (exprList budget grammar · closing context)
        (exprList budget grammar · closing context)
  templateParts :
    ∀ grammar {scope otherScope : Scope} place otherPlace {parts others : List Part},
      scope.Alike otherScope → Part.bareAll parts = Part.bareAll others →
        Agrees Expr.AllAlike (templateParts budget grammar scope place parts)
          (templateParts budget grammar otherScope otherPlace others)
  interpolation :
    ∀ grammar {scope otherScope : Scope} {tokens others : List Token},
      scope.Alike otherScope → Token.Reflowed false tokens others →
        Agrees Expr.Alike (interpolation budget grammar scope tokens)
          (interpolation budget grammar otherScope others)

namespace ExprsAgree

variable {budget : Nat} (smaller : ExprsAgree budget) {keepsReturns : Bool} (grammar : Grammar)

include smaller

/-- One budget more for an expression: an operand, then operations. -/
private theorem expr_step :
    ReadsAgree keepsReturns Expr.Alike (Parser.expr (budget + 1) grammar)
      (Parser.expr (budget + 1) grammar) := by
  intro scope otherScope scopes cursor otherCursor reflowed
  rw [Parser.expr, Parser.expr]
  refine (smaller.operand grammar scopes reflowed).bind ?_
  rintro _ _ ⟨left, rest⟩
  exact smaller.operation grammar 0 left scopes rest

/-- One budget more for operations, whose operators are the same on both sides. -/
private theorem operation_step
    (bound : Nat)
    {left otherLeft : Expr}
    (leftAlike : left.Alike otherLeft) :
    ReadsAgree keepsReturns Expr.Alike (Parser.operation (budget + 1) grammar · bound left)
      (Parser.operation (budget + 1) grammar · bound otherLeft) := by
  intro scope otherScope scopes cursor otherCursor reflowed
  simp only [Parser.operation, tighterOperator?_eq reflowed]
  split
  · exact .alike ⟨leftAlike, reflowed⟩
  · refine (smaller.operand grammar scopes reflowed.skip).bind ?_
    rintro _ _ ⟨first, afterFirst⟩
    refine (smaller.operation grammar _ first scopes afterFirst).bind ?_
    rintro _ _ ⟨right, afterRight⟩
    exact smaller.operation grammar bound (.binary leftAlike right) scopes afterRight

/-- One budget more for an operand: the first tokens are of one form. -/
private theorem operand_step :
    ReadsAgree keepsReturns Expr.Alike (Parser.operand (budget + 1) grammar)
      (Parser.operand (budget + 1) grammar) := by
  intro scope otherScope scopes cursor otherCursor reflowed
  rw [Parser.operand, Parser.operand]
  refine (reflowed.expect .anyToken "value").bind ?_
  rintro _ ⟨_, otherRest⟩ ⟨sameForm, rest⟩
  cases sameForm with
  | literal =>
      exact .alike ⟨.literal, rest⟩
  | template sameParts =>
      refine (smaller.templateParts grammar _ _ scopes sameParts).bind ?_
      intro parts otherParts partsAlike
      exact .alike ⟨.template partsAlike, rest⟩
  | @name word place otherPlace =>
      simp only [rest.kind_eq]
      split
      · exact smaller.call grammar word place otherPlace scopes rest
      · refine (visibleName_agrees scopes word place otherPlace).bind ?_
        intro name otherName nameAlike
        exact .alike ⟨nameAlike, rest⟩
  | @mark fixed =>
      have notValue (position otherPosition : Position) (word : String) :
          SyntaxError.Alike (.rule position (.notValue (.mark fixed word position)))
            (.rule otherPosition (.notValue (.mark fixed word otherPosition))) :=
        .rule (.notValue rfl)
      cases fixed with
      | keyword word =>
          cases word with
          | nullWord =>
              exact .alike ⟨.null, rest⟩
          | _ =>
              exact .refused (notValue ..)
      | separator separator =>
          cases separator with
          | leftParen =>
              refine (smaller.expr grammar scopes rest).bind ?_
              rintro _ _ ⟨inner, afterInner⟩
              refine (afterInner.want _ _).bind ?_
              rintro _ _ ⟨-, afterClosing⟩
              exact .alike ⟨.paren inner, afterClosing⟩
          | leftBracket =>
              refine rest.accept ?_ ?_
              · intro afterClosing otherAfterClosing closed
                exact .alike ⟨.list .nil, closed⟩
              · refine (smaller.exprList grammar _ _ scopes rest).bind ?_
                rintro _ _ ⟨elements, afterElements⟩
                exact .alike ⟨.list elements, afterElements⟩
          | _ =>
              exact .refused (notValue ..)
      | _ =>
          exact .refused (notValue ..)

/-- One budget more for a call and its arguments. -/
private theorem call_step
    (word : String)
    (place otherPlace : Position) :
    ReadsAgree keepsReturns Expr.Alike (Parser.call (budget + 1) grammar · ⟨word, place⟩)
      (Parser.call (budget + 1) grammar · ⟨word, otherPlace⟩) := by
  intro scope otherScope scopes cursor otherCursor reflowed
  simp only [Parser.call]
  refine (reflowed.want _ _).bind ?_
  rintro _ _ ⟨-, afterOpening⟩
  refine afterOpening.accept ?_ ?_
  · intro rest otherRest afterClosing
    exact .alike ⟨.call .nil, afterClosing⟩
  · refine (smaller.exprList grammar _ _ scopes afterOpening).bind ?_
    rintro _ _ ⟨arguments, afterArguments⟩
    exact .alike ⟨.call arguments, afterArguments⟩

/-- One budget more for a list of expressions. -/
private theorem exprList_step
    (closing : Separator)
    (context : String) :
    ReadsAgree keepsReturns Expr.AllAlike (Parser.exprList (budget + 1) grammar · closing context)
      (Parser.exprList (budget + 1) grammar · closing context) := by
  intro scope otherScope scopes cursor otherCursor reflowed
  simp only [Parser.exprList]
  refine (smaller.expr grammar scopes reflowed).bind ?_
  rintro _ _ ⟨first, afterFirst⟩
  refine afterFirst.accept ?_ ?_
  · intro rest otherRest afterComma
    refine (smaller.exprList grammar closing context scopes afterComma).bind ?_
    rintro _ _ ⟨others, afterOthers⟩
    exact .alike ⟨.cons first others, afterOthers⟩
  · refine (afterFirst.want _ _).bind ?_
    rintro _ _ ⟨-, afterClosing⟩
    exact .alike ⟨.cons first .nil, afterClosing⟩

/-- One budget more for the parts of a template, equal without positions. -/
private theorem templateParts_step
    {scope otherScope : Scope}
    (place otherPlace : Position)
    {parts others : List Part}
    (scopes : scope.Alike otherScope)
    (same : Part.bareAll parts = Part.bareAll others) :
    Agrees Expr.AllAlike (Parser.templateParts (budget + 1) grammar scope place parts)
      (Parser.templateParts (budget + 1) grammar otherScope otherPlace others) := by
  cases Part.sameForm_of_bareAll same with
  | nil =>
      exact .alike .nil
  | fragment sameRest =>
      simp only [Parser.templateParts]
      refine (smaller.templateParts grammar place otherPlace scopes sameRest).bind ?_
      intro expressions otherExpressions alike
      exact .alike (.cons .literal alike)
  | empty =>
      exact .refused (.rule .refl)
  | interpolation reflowed sameRest =>
      simp only [Parser.templateParts]
      refine ((smaller.interpolation grammar scopes reflowed).mapError .template _ _).bind ?_
      intro first otherFirst firstAlike
      refine (smaller.templateParts grammar place otherPlace scopes sameRest).bind ?_
      intro expressions otherExpressions alike
      exact .alike (.cons firstAlike alike)

/-- One budget more for an interpolation, which may not hold a return. -/
private theorem interpolation_step
    {scope otherScope : Scope}
    {tokens others : List Token}
    (scopes : scope.Alike otherScope)
    (reflowed : Token.Reflowed false tokens others) :
    Agrees Expr.Alike (Parser.interpolation (budget + 1) grammar scope tokens)
      (Parser.interpolation (budget + 1) grammar otherScope others) := by
  rw [Parser.interpolation, Parser.interpolation]
  refine (smaller.expr grammar scopes (.of_tokens reflowed [] [])).bind ?_
  rintro _ _ ⟨first, rest⟩
  refine (endOfInterpolation_agrees rest).bind ?_
  rintro _ _ -
  exact .alike first

end ExprsAgree

/-- The recursive readers of expressions agree on reflowed tokens, by induction on the budget. -/
theorem exprsAgree (budget : Nat) : ExprsAgree budget := by
  induction budget with
  | zero =>
      -- Without a budget both sides are refused, wherever they stand.
      constructor <;> intros <;> (try intro _ _ _ _ _ _) <;> exact tokensEnded_agrees ..
  | succ budget smaller =>
      exact
        { expr := smaller.expr_step
          operation := smaller.operation_step
          operand := smaller.operand_step
          call := smaller.call_step
          exprList := smaller.exprList_step
          templateParts := smaller.templateParts_step
          interpolation := smaller.interpolation_step }

end Parser

end Scripting
