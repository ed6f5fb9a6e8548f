import Scripting.Proofs.Parser.Rules

namespace Scripting

/-!
# Steps of a token cursor

What it means for a step of a cursor, and for a sequence of readings, to succeed.
-/

namespace Parser

/-- A reading followed by another succeeds when both do. -/
theorem bind_eq_ok
    {Error First Second : Type}
    {reading : Except Error First}
    {next : First → Except Error Second}
    {result : Second} :
    (reading >>= next) = .ok result ↔
      ∃ first, reading = .ok first ∧ next first = .ok result := by
  cases reading <;> simp [bind, Except.bind]

@[simp] theorem ok_bind
    {Error First Second : Type}
    (first : First)
    (next : First → Except Error Second) :
    ((Except.ok first : Except Error First) >>= next) = next first :=
  rfl

@[simp] theorem mapError_ok
    {Result : Type}
    (enclose : SyntaxError → SyntaxError)
    (result : Result) :
    (Except.ok result : Except SyntaxError Result).mapError enclose = .ok result :=
  rfl

/-- Naming the place of an error does not change when a reading succeeds. -/
theorem mapError_eq_ok
    {Result : Type}
    {reading : Except SyntaxError Result}
    {enclose : SyntaxError → SyntaxError}
    {result : Result} :
    reading.mapError enclose = .ok result ↔ reading = .ok result := by
  cases reading with
  | ok found =>
      rw [mapError_ok]
  | error error =>
      constructor <;> (intro impossible; cases impossible)

@[simp] theorem nextKind_cons (token : Token) (tokens : List Token) :
    nextKind (token :: tokens) = token.kind :=
  rfl

@[simp] theorem nextKind_nil : nextKind [] = .endOfInput :=
  rfl

end Parser

namespace Token

/-- Only a name has the kind of names. -/
theorem eq_name_of_kind {token : Token} (isName : token.kind = .name) :
    ∃ text position, token = .name text position := by
  cases token with
  | name text position =>
      exact ⟨text, position, rfl⟩
  | literal text value position =>
      simp [kind] at isName
  | template parts position =>
      simp [kind] at isName
  | mark fixed spelling position =>
      simp [kind] at isName

/-- Only a mark has the kind of a mark. -/
theorem eq_mark_of_kind {token : Token} {fixed : Mark} (isMark : token.kind = .mark fixed) :
    ∃ spelling position, token = .mark fixed spelling position := by
  cases token with
  | name text position =>
      simp [kind] at isMark
  | literal text value position =>
      simp [kind] at isMark
  | template parts position =>
      simp [kind] at isMark
  | mark found spelling position =>
      simp only [kind, TokenKind.mark.injEq] at isMark
      exact ⟨spelling, position, isMark ▸ rfl⟩

end Token

namespace TokenCursor

open Scripting.Parser

/-- What a cursor sees next is the first of the tokens ahead of it. -/
theorem kind_eq (cursor : TokenCursor) : cursor.kind = nextKind cursor.ahead := by
  rcases cursor with ⟨behind, _ | ⟨token, rest⟩⟩ <;> rfl

/-- A token that is taken was the first one ahead. -/
theorem ahead_eq_of_next
    {cursor rest : TokenCursor}
    {context : String}
    {token : Token}
    (taken : cursor.next context = .ok (token, rest)) :
    cursor.ahead = token :: rest.ahead := by
  rcases cursor with ⟨behind, _ | ⟨found, tail⟩⟩
  · simp [next, expect] at taken
  · simp only [next, expect, Expectation.accepts, ↓reduceIte, Except.ok.injEq,
      Prod.mk.injEq] at taken
    rcases taken with ⟨rfl, rfl⟩
    rfl

/-- A token that was wanted and taken was the first one ahead, and of that kind. -/
theorem ahead_eq_of_want
    {cursor rest : TokenCursor}
    {kind : TokenKind}
    {context : String}
    {token : Token}
    (taken : cursor.want kind context = .ok (token, rest)) :
    cursor.ahead = token :: rest.ahead ∧ token.kind = kind := by
  rcases cursor with ⟨behind, _ | ⟨found, tail⟩⟩
  · simp [want, expect] at taken
  · simp only [want, expect, Expectation.accepts, decide_eq_true_eq] at taken
    split at taken
    · next wanted =>
        simp only [Except.ok.injEq, Prod.mk.injEq] at taken
        rcases taken with ⟨rfl, rfl⟩
        exact ⟨rfl, wanted.symm⟩
    · simp at taken

/-- A token that was accepted was the first one ahead, and of that kind. -/
theorem ahead_eq_of_accept?
    {cursor rest : TokenCursor}
    {kind : TokenKind}
    (taken : cursor.accept? kind = some rest) :
    ∃ token, cursor.ahead = token :: rest.ahead ∧ token.kind = kind := by
  rcases cursor with ⟨behind, _ | ⟨found, tail⟩⟩
  · simp [accept?] at taken
  · simp only [accept?] at taken
    split at taken
    · next wanted =>
        simp only [Option.some.injEq] at taken
        subst taken
        exact ⟨found, rfl, wanted⟩
    · simp at taken

/-- A mark that was not accepted is not the next token. -/
theorem nextKind_ne_of_accept?
    {cursor : TokenCursor}
    {fixed : Mark}
    (refused : cursor.accept? (.mark fixed) = none) :
    nextKind cursor.ahead ≠ .mark fixed := by
  rcases cursor with ⟨behind, _ | ⟨found, tail⟩⟩
  · simp
  · simp only [accept?] at refused
    split at refused
    · simp at refused
    · next other =>
        exact other

@[simp] theorem next_cons
    (behind tokens : List Token)
    (token : Token)
    (context : String) :
    TokenCursor.next ⟨behind, token :: tokens⟩ context =
      .ok (token, ⟨token :: behind, tokens⟩) :=
  rfl

/-- A token of the wanted kind is taken. -/
theorem want_cons
    (behind tokens : List Token)
    {token : Token}
    {kind : TokenKind}
    (wanted : token.kind = kind)
    (context : String) :
    TokenCursor.want ⟨behind, token :: tokens⟩ kind context =
      .ok (token, ⟨token :: behind, tokens⟩) := by
  simp [want, expect, Expectation.accepts, wanted]

/-- A token of the accepted kind is taken. -/
theorem accept?_cons
    (behind tokens : List Token)
    {token : Token}
    {kind : TokenKind}
    (wanted : token.kind = kind) :
    TokenCursor.accept? ⟨behind, token :: tokens⟩ kind =
      some ⟨token :: behind, tokens⟩ := by
  simp [accept?, wanted]

/-- A token of another kind is left alone. -/
theorem accept?_eq_none
    (behind : List Token)
    {tokens : List Token}
    {kind : TokenKind}
    (other : nextKind tokens ≠ kind) :
    TokenCursor.accept? ⟨behind, tokens⟩ kind = none := by
  cases tokens with
  | nil =>
      rfl
  | cons token rest =>
      simpa [accept?] using other

@[simp] theorem skip_cons (behind tokens : List Token) (token : Token) :
    TokenCursor.skip ⟨behind, token :: tokens⟩ = ⟨token :: behind, tokens⟩ :=
  rfl

end TokenCursor

namespace Parser

/-- A name is taken exactly where a name token stands. -/
theorem ahead_eq_of_name
    {cursor rest : TokenCursor}
    {context : String}
    {identifier : Identifier}
    (taken : name cursor context = .ok (identifier, rest)) :
    cursor.ahead = .name identifier.text identifier.position :: rest.ahead := by
  simp only [name, bind_eq_ok, Prod.exists, Except.ok.injEq, Prod.mk.injEq] at taken
  obtain ⟨token, tail, wanted, rfl, rfl⟩ := taken
  obtain ⟨shape, isName⟩ := TokenCursor.ahead_eq_of_want wanted
  obtain ⟨text, position, rfl⟩ := Token.eq_name_of_kind isName
  exact shape

theorem name_cons
    (behind tokens : List Token)
    (text : String)
    (position : Position)
    (context : String) :
    name ⟨behind, .name text position :: tokens⟩ context =
      .ok (⟨text, position⟩, ⟨.name text position :: behind, tokens⟩) :=
  rfl

/-- No operator follows that binds more tightly than a rank. -/
theorem loose_of_tighterOperator?
    {grammar : Grammar}
    {bound : Nat}
    {cursor : TokenCursor}
    (stopped : tighterOperator? grammar bound cursor = none) :
    ∀ operator, nextKind cursor.ahead = .operator operator →
      rank grammar operator ≤ bound := by
  intro operator isOperator
  simp only [tighterOperator?, TokenCursor.kind_eq, isOperator, TokenKind.operator?,
    Option.filter_eq_none_iff, Option.some.injEq, decide_eq_true_eq] at stopped
  exact Nat.le_of_not_lt (stopped operator rfl)

/-- An operator that continues an expression is the next token and binds tighter than the bound. -/
theorem shape_of_tighterOperator?
    {grammar : Grammar}
    {bound : Nat}
    {cursor : TokenCursor}
    {operator : Operator}
    (continued : tighterOperator? grammar bound cursor = some operator) :
    ∃ token tokens, cursor.ahead = token :: tokens ∧
      token.kind = .operator operator ∧ bound < rank grammar operator := by
  simp only [tighterOperator?, TokenCursor.kind_eq, Option.filter_eq_some_iff,
    decide_eq_true_eq] at continued
  obtain ⟨isOperator, tighter⟩ := continued
  cases shape : cursor.ahead with
  | nil =>
      simp [shape, TokenKind.operator?] at isOperator
  | cons token tokens =>
      refine ⟨token, tokens, rfl, ?_, tighter⟩
      simp only [shape, nextKind_cons] at isOperator
      unfold TokenKind.operator? at isOperator
      split at isOperator <;> simp_all

end Parser

end Scripting
