import Scripting.Proofs.Parser.Completeness

namespace Scripting

/-!
# A word that stops the parser

The word `do` is reserved, but nothing starts or goes on with it.  With this word at the end of the
tokens the parser goes through the same steps as without it.  Where it would miss a token it finds
the word instead, and refuses it.

Only an interpolation has an end of its own, which the word does not change.
-/

/-- Whether an error is in an interpolation of a template. -/
def SyntaxError.inTemplate : SyntaxError → Bool
  | .inside _ .template _ => true
  | .inside _ (.function _) cause => cause.inTemplate
  | _ => false

theorem Token.size_pos (token : Token) : 0 < token.size := by
  cases token <;> simp

namespace Parser

open Token

/-- What a reading leads to without and with the stop: to results that are alike, or the reading with
the stop is refused for what it finds, or the one without it is refused in a template. -/
inductive Stopped {Result : Type} (Alike : Result → Result → Prop) :
    Except SyntaxError Result → Except SyntaxError Result → Prop where
  | alike {first second : Result} (alike : Alike first second) :
      Stopped Alike (.ok first) (.ok second)
  | refused {first : Except SyntaxError Result} {error : SyntaxError}
      (goesOn : error.endsEarly = false) :
      Stopped Alike first (.error error)
  | inTemplate {error : SyntaxError} {second : Except SyntaxError Result}
      (isInside : error.inTemplate = true) :
      Stopped Alike (.error error) second

/-- Two cursors with the same tokens ahead, fewer than a number, and the stop after those of the
second. -/
inductive StopAhead (stop : Token) (limit : Nat) : TokenCursor → TokenCursor → Prop where
  | mk {behind otherBehind tokens : List Token} (fewer : sizeAll tokens < limit) :
      StopAhead stop limit ⟨behind, tokens⟩ ⟨otherBehind, tokens ++ [stop]⟩

/-- Pairs with the same first component. -/
inductive Beside {Tree Other : Type} (Alike : Other → Other → Prop) :
    Tree × Other → Tree × Other → Prop where
  | mk {tree : Tree} {first second : Other} (alike : Alike first second) :
      Beside Alike (tree, first) (tree, second)

namespace Stopped

/-- A reading in sequence is stopped if each of its parts is. -/
theorem bind
    {First Second : Type}
    {AlikeFirst : First → First → Prop}
    {AlikeSecond : Second → Second → Prop}
    {reading other : Except SyntaxError First}
    {next otherNext : First → Except SyntaxError Second}
    (first : Stopped AlikeFirst reading other)
    (second :
      ∀ result otherResult, AlikeFirst result otherResult →
        Stopped AlikeSecond (next result) (otherNext otherResult)) :
    Stopped AlikeSecond (reading >>= next) (other >>= otherNext) := by
  cases first with
  | alike alike =>
      exact second _ _ alike
  | refused goesOn =>
      exact .refused goesOn
  | inTemplate isInside =>
      exact .inTemplate isInside

/-- A weaker relation on the results may be asked for. -/
theorem of_imp
    {Result : Type}
    {Alike MoreAlike : Result → Result → Prop}
    {reading other : Except SyntaxError Result}
    (read : Stopped MoreAlike reading other)
    (imp : ∀ result otherResult, MoreAlike result otherResult → Alike result otherResult) :
    Stopped Alike reading other := by
  cases read with
  | alike alike =>
      exact .alike (imp _ _ alike)
  | refused goesOn =>
      exact .refused goesOn
  | inTemplate isInside =>
      exact .inTemplate isInside

/-- What is left may be said to be less than a larger number. -/
theorem weaken
    {Tree : Type}
    {stop : Token}
    {limit larger : Nat}
    {reading other : Except SyntaxError (Tree × TokenCursor)}
    (read : Stopped (Beside (StopAhead stop limit)) reading other)
    (notLess : limit ≤ larger) :
    Stopped (Beside (StopAhead stop larger)) reading other := by
  refine read.of_imp ?_
  rintro _ _ ⟨⟨fewer⟩⟩
  exact ⟨⟨by omega⟩⟩

/-- A check that breaks a rule or succeeds does so with the stop too. -/
theorem of_check
    {Result : Type}
    {check : Except SyntaxError Result}
    (goesOn : ∀ error, check = .error error → error.endsEarly = false) :
    Stopped (· = ·) check check := by
  cases check with
  | ok result =>
      exact .alike rfl
  | error error =>
      exact .refused (goesOn error rfl)

/-- An error is enclosed in a function without and with the stop. -/
theorem inFunction
    {Result : Type}
    {Alike : Result → Result → Prop}
    {reading other : Except SyntaxError Result}
    (body : Stopped Alike reading other)
    (position : Position)
    (name : String) :
    Stopped Alike (Parser.inFunction position name reading)
      (Parser.inFunction position name other) := by
  cases body with
  | alike alike =>
      exact .alike alike
  | refused goesOn =>
      exact .refused goesOn
  | inTemplate isInside =>
      exact .inTemplate isInside

end Stopped

variable {stop : Token} {behind otherBehind : List Token}

theorem sizeAll_lt_cons (token : Token) (tokens : List Token) :
    sizeAll tokens < sizeAll (token :: tokens) := by
  have positive := token.size_pos
  simp only [sizeAll_cons]
  omega

namespace Stopped

/-- A token is taken without and with the stop, or refused; the stop is refused. -/
theorem want
    {kind : TokenKind}
    (different : stop.kind ≠ kind)
    (tokens : List Token)
    (context : String) :
    Stopped (Beside (StopAhead stop (sizeAll tokens)))
      (TokenCursor.want ⟨behind, tokens⟩ kind context)
      (TokenCursor.want ⟨otherBehind, tokens ++ [stop]⟩ kind context) := by
  cases tokens with
  | nil =>
      have refuses : (Expectation.kind kind).accepts stop.kind = false := by
        simpa [Expectation.accepts] using different.symm
      simp only [TokenCursor.want, TokenCursor.expect, List.nil_append, refuses]
      exact .refused rfl
  | cons token tokens =>
      simp only [TokenCursor.want, TokenCursor.expect, List.cons_append]
      split
      · exact .alike ⟨⟨sizeAll_lt_cons token tokens⟩⟩
      · exact .refused rfl

/-- The stop is not a name. -/
theorem name
    (different : stop.kind ≠ .name)
    (tokens : List Token)
    (context : String) :
    Stopped (Beside (StopAhead stop (sizeAll tokens)))
      (Parser.name ⟨behind, tokens⟩ context)
      (Parser.name ⟨otherBehind, tokens ++ [stop]⟩ context) := by
  refine (want different tokens context).bind ?_
  rintro _ _ ⟨isAhead⟩
  exact .alike ⟨isAhead⟩

end Stopped

/-- A token is accepted without and with the stop, or in neither case. -/
theorem accept?_stop
    {kind : TokenKind}
    (different : stop.kind ≠ kind)
    (behind otherBehind tokens : List Token) :
    TokenCursor.accept? ⟨behind, tokens⟩ kind = none ∧
        TokenCursor.accept? ⟨otherBehind, tokens ++ [stop]⟩ kind = none ∨
      ∃ first second, TokenCursor.accept? ⟨behind, tokens⟩ kind = some first ∧
        TokenCursor.accept? ⟨otherBehind, tokens ++ [stop]⟩ kind = some second ∧
        StopAhead stop (sizeAll tokens) first second := by
  cases tokens with
  | nil =>
      exact .inl ⟨rfl, by simp [TokenCursor.accept?, different]⟩
  | cons token tokens =>
      simp only [TokenCursor.accept?, List.cons_append]
      split
      · exact .inr ⟨_, _, rfl, rfl, ⟨sizeAll_lt_cons token tokens⟩⟩
      · exact .inl ⟨rfl, rfl⟩

/-- Two ways to go on, by whether a token is accepted. -/
theorem Stopped.accept
    {Result : Type}
    {Alike : Result → Result → Prop}
    {kind : TokenKind}
    {tokens : List Token}
    {taken otherTaken : TokenCursor → Except SyntaxError Result}
    {left otherLeft : Except SyntaxError Result}
    (different : stop.kind ≠ kind)
    (accepted :
      ∀ first second, StopAhead stop (sizeAll tokens) first second →
        Stopped Alike (taken first) (otherTaken second))
    (refused : Stopped Alike left otherLeft) :
    Stopped Alike
      (match TokenCursor.accept? ⟨behind, tokens⟩ kind with
        | some rest => taken rest
        | none => left)
      (match TokenCursor.accept? ⟨otherBehind, tokens ++ [stop]⟩ kind with
        | some rest => otherTaken rest
        | none => otherLeft) := by
  rcases accept?_stop different behind otherBehind tokens with
    ⟨first, second⟩ | ⟨_, _, first, second, isAhead⟩
  · simpa only [first, second] using refused
  · simpa only [first, second] using accepted _ _ isAhead

/-- A mark other than the stop comes next without and with the stop, or in neither case. -/
theorem nextKind_stop_eq_iff
    {fixed : Mark}
    (different : stop.kind ≠ .mark fixed)
    (tokens : List Token) :
    nextKind (tokens ++ [stop]) = .mark fixed ↔ nextKind tokens = .mark fixed := by
  cases tokens with
  | nil =>
      simp [different]
  | cons token tokens =>
      rfl

/-- The same operator follows without and with the stop. -/
theorem tighterOperator?_stop
    (isDo : stop.kind = .keyword .doWord)
    (grammar : Grammar)
    (bound : Nat)
    (behind otherBehind tokens : List Token) :
    tighterOperator? grammar bound ⟨otherBehind, tokens ++ [stop]⟩ =
      tighterOperator? grammar bound ⟨behind, tokens⟩ := by
  cases tokens with
  | nil =>
      simp [tighterOperator?, TokenCursor.kind, isDo, TokenKind.operator?]
  | cons token tokens =>
      rfl

variable {grammar : Grammar} {scope : Scope}

/-- The parts of a template are the same without and with the stop after it. -/
theorem Stopped.templateParts
    {position : Position}
    (parts : List Part)
    {budget larger : Nat}
    (enough : 8 * Part.sizeAll parts + 1 ≤ budget)
    (notSmaller : budget ≤ larger) :
    Stopped (· = ·) (Parser.templateParts budget grammar scope position parts)
      (Parser.templateParts larger grammar scope position parts) := by
  induction parts generalizing budget larger with
  | nil =>
      obtain ⟨budget, rfl⟩ : ∃ fewer, budget = fewer + 1 := ⟨budget - 1, by omega⟩
      obtain ⟨larger, rfl⟩ : ∃ fewer, larger = fewer + 1 := ⟨larger - 1, by omega⟩
      simp only [Parser.templateParts]
      exact .alike rfl
  | cons part others inductionHypothesis =>
      simp only [Part.sizeAll] at enough
      obtain ⟨budget, rfl⟩ : ∃ fewer, budget = fewer + 1 := ⟨budget - 1, by omega⟩
      obtain ⟨larger, rfl⟩ : ∃ fewer, larger = fewer + 1 := ⟨larger - 1, by omega⟩
      cases part with
      | fragment text =>
          simp only [Part.size] at enough
          simp only [Parser.templateParts]
          refine (inductionHypothesis (by omega) (by omega)).bind ?_
          rintro _ _ rfl
          exact .alike rfl
      | interpolation tokens =>
          simp only [Part.size] at enough
          cases tokens with
          | nil =>
              simp only [Parser.templateParts]
              exact .refused rfl
          | cons token tokens =>
              simp only [Parser.templateParts]
              cases read : Parser.interpolation budget grammar scope (token :: tokens) with
              | error error =>
                  exact .inTemplate rfl
              | ok value =>
                  -- A successful reading does not depend on the budget.
                  have reads := (acceptsExprs budget).interpolation read
                  have readThere := reads.completes.interpolation (show _ ≤ larger by omega)
                  rw [readThere]
                  simp only [Parser.inTemplate, mapError_ok, ok_bind]
                  refine (inductionHypothesis (by omega) (by omega)).bind ?_
                  rintro _ _ rfl
                  exact .alike rfl

/-- Whether a name is visible has nothing to do with the stop. -/
theorem visibleName_stop (scope : Scope) (identifier : Identifier) :
    Stopped (· = ·) (visibleName scope identifier) (visibleName scope identifier) := by
  refine .of_check fun error refused => ?_
  unfold visibleName at refused
  split at refused <;> cases refused
  rfl

/-- With a budget of eight steps for each token and some more, a reading is stopped.  What it leaves
is less than the tokens and some slack. -/
def Halts {Result : Type} (stop : Token) (extra slack budget : Nat)
    (lift : (TokenCursor → TokenCursor → Prop) → Result → Result → Prop)
    (reading : Nat → TokenCursor → Except SyntaxError Result) : Prop :=
  ∀ larger behind otherBehind tokens,
    budget ≤ larger → 8 * sizeAll tokens + extra ≤ budget →
      Stopped (lift (StopAhead stop (sizeAll tokens + slack))) (reading budget ⟨behind, tokens⟩)
        (reading larger ⟨otherBehind, tokens ++ [stop]⟩)

/-- A reading that halts, with a larger budget on the side of the stop. -/
theorem Halts.stops
    {Result : Type}
    {extra slack budget : Nat}
    {lift : (TokenCursor → TokenCursor → Prop) → Result → Result → Prop}
    {reading : Nat → TokenCursor → Except SyntaxError Result}
    (halts : Halts stop extra slack budget lift reading)
    {larger : Nat}
    {tokens : List Token}
    (notSmaller : budget ≤ larger)
    (enough : 8 * sizeAll tokens + extra ≤ budget) :
    Stopped (lift (StopAhead stop (sizeAll tokens + slack))) (reading budget ⟨behind, tokens⟩)
      (reading larger ⟨otherBehind, tokens ++ [stop]⟩) :=
  halts larger behind otherBehind tokens notSmaller enough

/-- It is enough to look at one step, both budgets having one to take. -/
theorem Halts.of_step
    {Result : Type}
    {extra slack budget : Nat}
    {lift : (TokenCursor → TokenCursor → Prop) → Result → Result → Prop}
    {reading : Nat → TokenCursor → Except SyntaxError Result}
    (steps :
      ∀ larger behind otherBehind tokens,
        budget ≤ larger → 8 * sizeAll tokens + extra ≤ budget + 1 →
          Stopped (lift (StopAhead stop (sizeAll tokens + slack)))
            (reading (budget + 1) ⟨behind, tokens⟩)
            (reading (larger + 1) ⟨otherBehind, tokens ++ [stop]⟩)) :
    Halts stop extra slack (budget + 1) lift reading := by
  intro larger behind otherBehind tokens notSmaller enough
  obtain ⟨larger, rfl⟩ : ∃ fewer, larger = fewer + 1 := ⟨larger - 1, by omega⟩
  exact steps larger behind otherBehind tokens (by omega) enough

/-- A reading that has no budget for a first step need not be looked at. -/
theorem Halts.zero
    {Result : Type}
    {extra slack : Nat}
    {lift : (TokenCursor → TokenCursor → Prop) → Result → Result → Prop}
    {reading : Nat → TokenCursor → Except SyntaxError Result}
    (positive : 0 < extra) :
    Halts stop extra slack 0 lift reading := by
  intro larger behind otherBehind tokens notSmaller enough
  omega

/-- How the functions for expressions are stopped with a budget. -/
structure HaltsExprs (stop : Token) (budget : Nat) : Prop where
  expr : ∀ grammar scope, Halts stop 2 0 budget Beside (Parser.expr · grammar scope)
  operation :
    ∀ grammar scope bound left,
      Halts stop 1 1 budget Beside (Parser.operation · grammar scope bound left)
  operand : ∀ grammar scope, Halts stop 1 0 budget Beside (Parser.operand · grammar scope)
  call :
    ∀ grammar scope function,
      Halts stop 4 0 budget Beside (Parser.call · grammar scope function)
  exprList :
    ∀ grammar scope closing context,
      Halts stop 3 0 budget Beside (Parser.exprList · grammar scope closing context)

namespace HaltsExprs

variable {budget : Nat} (smaller : HaltsExprs stop budget)
variable (isDo : stop.kind = .keyword .doWord)

include smaller

/-- An expression halts if its operand and its operations do. -/
private theorem expr_step (grammar : Grammar) (scope : Scope) :
    Halts stop 2 0 (budget + 1) Beside (Parser.expr · grammar scope) := by
  refine .of_step fun larger behind otherBehind tokens notSmaller enough => ?_
  rw [Parser.expr, Parser.expr]
  refine ((smaller.operand grammar scope).stops notSmaller (by omega)).bind ?_
  rintro _ _ ⟨⟨fewer⟩⟩
  exact ((smaller.operation grammar scope 0 _).stops notSmaller (by omega)).weaken (by omega)

include isDo

/-- Operations halt: the stop is no operator. -/
private theorem operation_step (grammar : Grammar) (scope : Scope) (bound : Nat) (left : Expr) :
    Halts stop 1 1 (budget + 1) Beside (Parser.operation · grammar scope bound left) := by
  refine .of_step fun larger behind otherBehind tokens notSmaller enough => ?_
  rw [Parser.operation, Parser.operation,
    tighterOperator?_stop isDo grammar bound behind otherBehind tokens]
  cases continued : tighterOperator? grammar bound ⟨behind, tokens⟩ with
  | none =>
      exact .alike ⟨⟨by omega⟩⟩
  | some operator =>
      obtain ⟨token, rest, shape, -, -⟩ := shape_of_tighterOperator? continued
      cases shape
      have shorter := sizeAll_lt_cons token rest
      simp only [TokenCursor.skip_cons, List.cons_append]
      refine ((smaller.operand grammar scope).stops notSmaller (by omega)).bind ?_
      rintro _ _ ⟨⟨afterFirst⟩⟩
      refine ((smaller.operation grammar scope _ _).stops notSmaller (by omega)).bind ?_
      rintro _ _ ⟨⟨afterRight⟩⟩
      exact ((smaller.operation grammar scope bound _).stops notSmaller (by omega)).weaken (by omega)

/-- An operand halts: the stop is no value, and is refused as one. -/
private theorem operand_step (grammar : Grammar) (scope : Scope) :
    Halts stop 1 0 (budget + 1) Beside (Parser.operand · grammar scope) := by
  refine .of_step fun larger behind otherBehind tokens notSmaller enough => ?_
  cases tokens with
  | nil =>
      obtain ⟨spelling, position, rfl⟩ := eq_mark_of_kind isDo
      rw [Parser.operand, Parser.operand]
      exact .refused rfl
  | cons token tokens =>
      have shorter := sizeAll_lt_cons token tokens
      rw [Parser.operand, Parser.operand, List.cons_append, TokenCursor.next_cons,
        TokenCursor.next_cons, ok_bind, ok_bind]
      cases token with
      | literal text value position =>
          exact .alike ⟨⟨shorter⟩⟩
      | template parts position =>
          simp only [sizeAll_cons, size_template] at enough
          refine (Stopped.templateParts parts (by omega) notSmaller).bind ?_
          rintro _ _ rfl
          exact .alike ⟨⟨shorter⟩⟩
      | name text position =>
          have sameCall := nextKind_stop_eq_iff
            (show stop.kind ≠ .separator .leftParen by simp [isDo]) tokens
          simp only [TokenCursor.kind_eq, sameCall]
          split
          · exact ((smaller.call grammar scope _).stops notSmaller (by omega)).weaken (by omega)
          · refine (visibleName_stop scope ⟨text, position⟩).bind ?_
            rintro _ _ rfl
            exact .alike ⟨⟨shorter⟩⟩
      | mark fixed spelling position =>
          cases fixed with
          | keyword word =>
              cases word with
              | nullWord =>
                  exact .alike ⟨⟨shorter⟩⟩
              | _ =>
                  exact .refused rfl
          | separator separator =>
              cases separator with
              | leftParen =>
                  refine ((smaller.expr grammar scope).stops notSmaller (by omega)).bind ?_
                  rintro _ _ ⟨⟨afterInner⟩⟩
                  refine (Stopped.want (by simp [isDo]) _ _).bind ?_
                  rintro _ _ ⟨⟨afterClosing⟩⟩
                  exact .alike ⟨⟨by omega⟩⟩
              | leftBracket =>
                  refine .accept (by simp [isDo]) ?_ ?_
                  · rintro _ _ ⟨afterClosing⟩
                    exact .alike ⟨⟨by omega⟩⟩
                  · refine ((smaller.exprList grammar scope _ _).stops notSmaller
                      (by omega)).bind ?_
                    rintro _ _ ⟨⟨afterElements⟩⟩
                    exact .alike ⟨⟨by omega⟩⟩
              | _ =>
                  exact .refused rfl
          | _ =>
              exact .refused rfl

/-- A call halts: the stop is no parenthesis. -/
private theorem call_step (grammar : Grammar) (scope : Scope) (function : Identifier) :
    Halts stop 4 0 (budget + 1) Beside (Parser.call · grammar scope function) := by
  refine .of_step fun larger behind otherBehind tokens notSmaller enough => ?_
  rw [Parser.call, Parser.call]
  refine (Stopped.want (by simp [isDo]) tokens _).bind ?_
  rintro _ _ ⟨⟨afterOpening⟩⟩
  refine .accept (by simp [isDo]) ?_ ?_
  · rintro _ _ ⟨afterClosing⟩
    exact .alike ⟨⟨by omega⟩⟩
  · refine ((smaller.exprList grammar scope _ _).stops notSmaller (by omega)).bind ?_
    rintro _ _ ⟨⟨afterArguments⟩⟩
    exact .alike ⟨⟨by omega⟩⟩

/-- A list of expressions halts: the stop neither goes on with it nor closes it. -/
private theorem exprList_step
    (grammar : Grammar)
    (scope : Scope)
    (closing : Separator)
    (context : String) :
    Halts stop 3 0 (budget + 1) Beside (Parser.exprList · grammar scope closing context) := by
  refine .of_step fun larger behind otherBehind tokens notSmaller enough => ?_
  rw [Parser.exprList, Parser.exprList]
  refine ((smaller.expr grammar scope).stops notSmaller (by omega)).bind ?_
  rintro _ _ ⟨⟨afterFirst⟩⟩
  refine .accept (by simp [isDo]) ?_ ?_
  · rintro _ _ ⟨afterComma⟩
    refine ((smaller.exprList grammar scope _ _).stops notSmaller (by omega)).bind ?_
    rintro _ _ ⟨⟨afterOthers⟩⟩
    exact .alike ⟨⟨by omega⟩⟩
  · refine (Stopped.want (by simp [isDo]) _ _).bind ?_
    rintro _ _ ⟨⟨afterClosing⟩⟩
    exact .alike ⟨⟨by omega⟩⟩

end HaltsExprs

/-- The recursive readers of expressions halt, by induction on the budget. -/
theorem haltsExprs (isDo : stop.kind = .keyword .doWord) (budget : Nat) :
    HaltsExprs stop budget := by
  induction budget with
  | zero =>
      constructor <;> intros <;> exact .zero (by decide)
  | succ budget smaller =>
      exact
        { expr := smaller.expr_step
          operation := smaller.operation_step isDo
          operand := smaller.operand_step isDo
          call := smaller.call_step isDo
          exprList := smaller.exprList_step isDo }

section Statements

variable (isDo : stop.kind = .keyword .doWord)
variable {budget larger : Nat} {tokens : List Token} {place : Place}
variable (notSmaller : budget ≤ larger)

/-- Declaring a variable does not depend on tokens. -/
theorem declare_stop (scope : Scope) (identifier : Identifier) (mutable : Bool) :
    Stopped (· = ·) (declare scope identifier mutable) (declare scope identifier mutable) := by
  refine .of_check fun error refused => ?_
  unfold declare at refused
  split at refused <;> cases refused
  rfl

/-- The bound of a loop is looked at apart from tokens. -/
theorem checkBound_stop (bound : Expr) :
    Stopped (· = ·) (checkBound bound) (checkBound bound) := by
  refine .of_check fun error refused => ?_
  unfold checkBound at refused
  split at refused <;> cases refused <;> rfl

/-- A break or continue takes no further token. -/
theorem loopControl_stop
    (place : Place)
    (control : LoopControl)
    (position : Position)
    (tokens : List Token) :
    Stopped (Beside (StopAhead stop (sizeAll tokens + 1)))
      (loopControl place control position ⟨behind, tokens⟩)
      (loopControl place control position ⟨otherBehind, tokens ++ [stop]⟩) := by
  unfold loopControl
  split
  · exact .alike ⟨⟨by omega⟩⟩
  · exact .refused rfl

include isDo notSmaller

/-- A condition halts as its expression does. -/
theorem condition_stop
    (enough : 8 * sizeAll tokens + 1 ≤ budget)
    (context : String) :
    Stopped (Beside (StopAhead stop (sizeAll tokens)))
      (condition budget grammar scope context ⟨behind, tokens⟩)
      (condition larger grammar scope context ⟨otherBehind, tokens ++ [stop]⟩) := by
  refine (Stopped.want (by simp [isDo]) tokens context).bind ?_
  rintro _ _ ⟨⟨afterOpening⟩⟩
  refine (((haltsExprs isDo budget).expr grammar scope).stops notSmaller (by omega)).bind ?_
  rintro _ _ ⟨⟨afterInner⟩⟩
  refine (Stopped.want (by simp [isDo]) _ context).bind ?_
  rintro _ _ ⟨⟨afterClosing⟩⟩
  exact .alike ⟨⟨by omega⟩⟩

/-- A declaration halts as its value does. -/
theorem declaration_stop
    (enough : 8 * sizeAll tokens + 1 ≤ budget)
    (mutable : Bool)
    (keyword : Token) :
    Stopped (Beside (Beside (StopAhead stop (sizeAll tokens))))
      (declaration budget grammar scope mutable keyword ⟨behind, tokens⟩)
      (declaration larger grammar scope mutable keyword ⟨otherBehind, tokens ++ [stop]⟩) := by
  refine (Stopped.name (by simp [isDo]) tokens _).bind ?_
  rintro _ _ ⟨⟨afterName⟩⟩
  refine (Stopped.want (by simp [isDo]) _ _).bind ?_
  rintro _ _ ⟨⟨afterSign⟩⟩
  refine (((haltsExprs isDo budget).expr grammar scope).stops notSmaller (by omega)).bind ?_
  rintro _ _ ⟨⟨afterValue⟩⟩
  refine (declare_stop scope _ mutable).bind ?_
  rintro inside _ rfl
  exact .alike ⟨⟨⟨by omega⟩⟩⟩

/-- An assignment halts as its value does. -/
theorem assignment_stop
    (enough : 8 * sizeAll tokens + 2 ≤ budget)
    (identifier : Identifier) :
    Stopped (Beside (Beside (StopAhead stop (sizeAll tokens))))
      (assignment budget grammar scope identifier ⟨behind, tokens⟩)
      (assignment larger grammar scope identifier ⟨otherBehind, tokens ++ [stop]⟩) := by
  refine (((haltsExprs isDo budget).expr grammar scope).stops notSmaller (by omega)).bind ?_
  rintro _ _ ⟨⟨afterValue⟩⟩
  dsimp only
  split
  · split
    · exact .refused rfl
    · refine (declare_stop scope _ true).bind ?_
      rintro inside _ rfl
      exact .alike ⟨⟨⟨by omega⟩⟩⟩
  · split
    · exact .alike ⟨⟨⟨by omega⟩⟩⟩
    · exact .refused rfl

/-- A statement that starts with a name halts, assignment or expression. -/
theorem nameStatement_stop
    (enough : 8 * sizeAll tokens + 4 ≤ budget)
    (identifier : Identifier) :
    Stopped (Beside (Beside (StopAhead stop (sizeAll tokens + 1))))
      (nameStatement budget grammar scope identifier ⟨behind, tokens⟩)
      (nameStatement larger grammar scope identifier ⟨otherBehind, tokens ++ [stop]⟩) := by
  have exprs := haltsExprs isDo budget
  cases tokens with
  | nil =>
      simp only [nameStatement, TokenCursor.kind, List.nil_append, isDo]
      exact .refused rfl
  | cons token tokens =>
      have shorter := sizeAll_lt_cons token tokens
      simp only [nameStatement, TokenCursor.kind, List.cons_append, TokenCursor.skip_cons]
      split
      · next isSign =>
          refine (assignment_stop isDo notSmaller (by omega) identifier).of_imp ?_
          rintro _ _ ⟨⟨⟨afterValue⟩⟩⟩
          exact ⟨⟨⟨by omega⟩⟩⟩
      · refine ((exprs.call grammar scope identifier).stops notSmaller (by omega)).bind ?_
        rintro _ _ ⟨⟨afterCall⟩⟩
        refine ((exprs.operation grammar scope 0 _).stops notSmaller (by omega)).bind ?_
        rintro _ _ ⟨⟨afterValue⟩⟩
        exact .alike ⟨⟨⟨by omega⟩⟩⟩
      · refine (visibleName_stop scope identifier).bind ?_
        rintro left _ rfl
        refine ((exprs.operation grammar scope 0 _).stops notSmaller (by omega)).bind ?_
        rintro _ _ ⟨⟨afterValue⟩⟩
        exact .alike ⟨⟨⟨by omega⟩⟩⟩
      · exact .refused rfl

/-- A return halts: the stop is not the start of a value. -/
theorem returnStatement_stop
    (enough : 8 * sizeAll tokens + 2 ≤ budget)
    (keyword : Token) :
    Stopped (Beside (StopAhead stop (sizeAll tokens + 1)))
      (returnStatement budget grammar place scope keyword ⟨behind, tokens⟩)
      (returnStatement larger grammar place scope keyword ⟨otherBehind, tokens ++ [stop]⟩) := by
  have exprs := haltsExprs isDo budget
  unfold returnStatement
  split
  · exact .refused rfl
  · cases tokens with
    | nil =>
        -- The stop is no value, if it is on the line of the keyword.
        simp only [List.nil_append]
        split
        · obtain ⟨larger, rfl⟩ : ∃ fewer, larger = fewer + 2 := ⟨larger - 2, by omega⟩
          obtain ⟨spelling, position, rfl⟩ := eq_mark_of_kind isDo
          exact .refused rfl
        · exact .alike ⟨⟨by omega⟩⟩
    | cons token tokens =>
        simp only [List.cons_append]
        split
        · refine ((exprs.expr grammar scope).stops notSmaller (by omega)).bind ?_
          rintro _ _ ⟨⟨afterValue⟩⟩
          exact .alike ⟨⟨by omega⟩⟩
        · exact .alike ⟨⟨by omega⟩⟩

end Statements

/-- A branch with a condition follows without and with the stop, or in neither case. -/
theorem conditionalElse?_stop
    (isDo : stop.kind = .keyword .doWord)
    (behind otherBehind tokens : List Token) :
    conditionalElse? ⟨behind, tokens⟩ = none ∧
        conditionalElse? ⟨otherBehind, tokens ++ [stop]⟩ = none ∨
      ∃ first second, conditionalElse? ⟨behind, tokens⟩ = some first ∧
        conditionalElse? ⟨otherBehind, tokens ++ [stop]⟩ = some second ∧
        StopAhead stop (sizeAll tokens) first second := by
  rcases accept?_stop (show stop.kind ≠ .keyword .elseIfWord by simp [isDo]) behind otherBehind
      tokens with ⟨first, second⟩ | ⟨_, _, first, second, isAhead⟩
  · simp only [conditionalElse?, first, second]
    rcases tokens with _ | ⟨token, _ | ⟨next, tokens⟩⟩
    · exact .inl (by simp [TokenCursor.kind, isDo])
    · exact .inl (by simp [TokenCursor.secondKind, isDo])
    · have shorter := sizeAll_lt_cons token (next :: tokens)
      have shorterStill := sizeAll_lt_cons next tokens
      by_cases isPair : token.kind = .keyword .elseWord ∧ next.kind = .keyword .ifWord
      · refine .inr ⟨_, _, if_pos ?_, if_pos ?_, ⟨show sizeAll tokens < _ by omega⟩⟩ <;>
          simp [TokenCursor.kind, TokenCursor.secondKind, isPair]
      · refine .inl ⟨if_neg fun both => isPair ?_, if_neg fun both => isPair ?_⟩ <;>
          rw [Bool.and_eq_true, decide_eq_true_eq, decide_eq_true_eq] at both <;>
          exact both
  · exact .inr ⟨_, _, by simp only [conditionalElse?, first],
      by simp only [conditionalElse?, second], isAhead⟩

/-- How the functions for statements are stopped with a budget. -/
structure HaltsStmts (stop : Token) (budget : Nat) : Prop where
  statement :
    ∀ grammar place scope,
      Halts stop 1 0 budget (fun alike => Beside (Beside alike))
        (Parser.statement · grammar place scope)
  branch :
    ∀ grammar place scope position context,
      Halts stop 2 0 budget Beside (Parser.branch · grammar place scope position context)
  alternatives :
    ∀ grammar place scope,
      Halts stop 1 1 budget Beside (Parser.alternatives · grammar place scope)
  forLoop :
    ∀ grammar place scope position,
      Halts stop 2 0 budget Beside (Parser.forLoop · grammar place scope position)
  block : ∀ grammar place scope, Halts stop 1 0 budget Beside (Parser.block · grammar place scope)
  blockStatements :
    ∀ grammar place scope,
      Halts stop 2 1 budget Beside (Parser.blockStatements · grammar place scope)

namespace HaltsStmts

variable {budget : Nat} (smaller : HaltsStmts stop budget)
variable (isDo : stop.kind = .keyword .doWord)

include smaller isDo

/-- A statement that starts with a keyword halts, keyword by keyword. -/
private theorem keyword_stop
    {larger : Nat}
    {tokens : List Token}
    (notSmaller : budget ≤ larger)
    (grammar : Grammar)
    (place : Place)
    (scope : Scope)
    (word : Keyword)
    (spelling : String)
    (position : Position)
    (enough : 8 * sizeAll (.mark (.keyword word) spelling position :: tokens) + 1 ≤ budget + 1) :
    Stopped (Beside (Beside (StopAhead stop (sizeAll tokens + 1))))
      (Parser.statement (budget + 1) grammar place scope
        ⟨behind, .mark (.keyword word) spelling position :: tokens⟩)
      (Parser.statement (larger + 1) grammar place scope
        ⟨otherBehind, .mark (.keyword word) spelling position :: (tokens ++ [stop])⟩) := by
  simp only [sizeAll_cons, size_mark] at enough
  rw [Parser.statement, Parser.statement, TokenCursor.next_cons, TokenCursor.next_cons, ok_bind,
    ok_bind]
  cases word with
  | varWord =>
      refine (declaration_stop isDo notSmaller (by omega) false _).of_imp ?_
      rintro _ _ ⟨⟨⟨afterValue⟩⟩⟩
      exact ⟨⟨⟨by omega⟩⟩⟩
  | mutableVarWord =>
      refine (declaration_stop isDo notSmaller (by omega) true _).of_imp ?_
      rintro _ _ ⟨⟨⟨afterValue⟩⟩⟩
      exact ⟨⟨⟨by omega⟩⟩⟩
  | ifWord =>
      refine ((smaller.branch grammar place scope position _).stops notSmaller (by omega)).bind ?_
      rintro _ _ ⟨⟨afterFirst⟩⟩
      refine ((smaller.alternatives grammar place scope).stops notSmaller (by omega)).bind ?_
      rintro _ _ ⟨⟨afterOthers⟩⟩
      exact .alike ⟨⟨⟨by omega⟩⟩⟩
  | forWord =>
      refine ((smaller.forLoop grammar place scope position).stops notSmaller (by omega)).bind ?_
      rintro _ _ ⟨⟨afterLoop⟩⟩
      exact .alike ⟨⟨⟨by omega⟩⟩⟩
  | whileWord =>
      refine (condition_stop isDo notSmaller (by omega) _).bind ?_
      rintro _ _ ⟨⟨afterTest⟩⟩
      refine ((smaller.block grammar _ _).stops notSmaller (by omega)).bind ?_
      rintro _ _ ⟨⟨afterBody⟩⟩
      exact .alike ⟨⟨⟨by omega⟩⟩⟩
  | returnWord =>
      refine (returnStatement_stop isDo notSmaller (by omega) _).bind ?_
      rintro _ _ ⟨⟨afterValue⟩⟩
      exact .alike ⟨⟨⟨by omega⟩⟩⟩
  | breakWord =>
      refine (loopControl_stop place .leave position tokens).bind ?_
      rintro _ _ ⟨⟨afterControl⟩⟩
      exact .alike ⟨⟨⟨by omega⟩⟩⟩
  | continueWord =>
      refine (loopControl_stop place .next position tokens).bind ?_
      rintro _ _ ⟨⟨afterControl⟩⟩
      exact .alike ⟨⟨⟨by omega⟩⟩⟩
  | _ =>
      exact .refused rfl

/-- A statement halts, by its first token. -/
private theorem statement_step (grammar : Grammar) (place : Place) (scope : Scope) :
    Halts stop 1 0 (budget + 1) (fun alike => Beside (Beside alike))
      (Parser.statement · grammar place scope) := by
  refine .of_step fun larger behind otherBehind tokens notSmaller enough => ?_
  cases tokens with
  | nil =>
      obtain ⟨spelling, position, rfl⟩ := eq_mark_of_kind isDo
      rw [Parser.statement, Parser.statement]
      exact .refused rfl
  | cons token tokens =>
      have shorter := sizeAll_lt_cons token tokens
      cases token with
      | literal text value position =>
          exact .refused rfl
      | template parts position =>
          exact .refused rfl
      | name text position =>
          rw [Parser.statement, Parser.statement, List.cons_append, TokenCursor.next_cons,
            TokenCursor.next_cons, ok_bind, ok_bind]
          refine (nameStatement_stop isDo notSmaller (by omega) ⟨text, position⟩).of_imp ?_
          rintro _ _ ⟨⟨⟨afterStatement⟩⟩⟩
          exact ⟨⟨⟨by omega⟩⟩⟩
      | mark fixed spelling position =>
          cases fixed with
          | keyword word =>
              refine (smaller.keyword_stop isDo notSmaller grammar place scope word spelling
                position enough).of_imp ?_
              rintro _ _ ⟨⟨⟨afterStatement⟩⟩⟩
              exact ⟨⟨⟨by omega⟩⟩⟩
          | _ =>
              exact .refused rfl

/-- A branch halts as its condition and its block do. -/
private theorem branch_step
    (grammar : Grammar)
    (place : Place)
    (scope : Scope)
    (position : Position)
    (context : String) :
    Halts stop 2 0 (budget + 1) Beside
      (Parser.branch · grammar place scope position context) := by
  refine .of_step fun larger behind otherBehind tokens notSmaller enough => ?_
  rw [Parser.branch, Parser.branch]
  refine (condition_stop isDo notSmaller (by omega) context).bind ?_
  rintro _ _ ⟨⟨afterTest⟩⟩
  refine ((smaller.block grammar place _).stops notSmaller (by omega)).bind ?_
  rintro _ _ ⟨⟨afterBody⟩⟩
  exact .alike ⟨⟨by omega⟩⟩

/-- Alternatives halt: the stop does not start one. -/
private theorem alternatives_step (grammar : Grammar) (place : Place) (scope : Scope) :
    Halts stop 1 1 (budget + 1) Beside (Parser.alternatives · grammar place scope) := by
  refine .of_step fun larger behind otherBehind tokens notSmaller enough => ?_
  cases tokens with
  | nil =>
      obtain ⟨spelling, position, rfl⟩ := eq_mark_of_kind isDo
      exact .alike ⟨⟨by omega⟩⟩
  | cons token tokens =>
      have shorter := sizeAll_lt_cons token tokens
      rw [Parser.alternatives, Parser.alternatives]
      rcases conditionalElse?_stop isDo behind otherBehind (token :: tokens) with
        ⟨first, second⟩ | ⟨_, _, first, second, ⟨afterElse⟩⟩
      · rcases accept?_stop (show stop.kind ≠ .keyword .elseWord by simp [isDo]) behind otherBehind
            (token :: tokens) with ⟨noElse, otherNoElse⟩ | ⟨_, _, isElse, otherElse, ⟨afterElse⟩⟩
        · simp only [first, second, noElse, otherNoElse]
          exact .alike ⟨⟨by omega⟩⟩
        · simp only [first, second, isElse, otherElse]
          refine ((smaller.block grammar place _).stops notSmaller (by omega)).bind ?_
          rintro _ _ ⟨⟨afterBody⟩⟩
          exact .alike ⟨⟨by omega⟩⟩
      · simp only [first, second]
        refine ((smaller.branch grammar place scope token.position _).stops notSmaller
          (by omega)).bind ?_
        rintro _ _ ⟨⟨afterNext⟩⟩
        refine ((smaller.alternatives grammar place scope).stops notSmaller (by omega)).bind ?_
        rintro _ _ ⟨⟨afterOthers⟩⟩
        exact .alike ⟨⟨by omega⟩⟩

/-- A loop halts as its expression and its block do. -/
private theorem forLoop_step
    (grammar : Grammar)
    (place : Place)
    (scope : Scope)
    (position : Position) :
    Halts stop 2 0 (budget + 1) Beside (Parser.forLoop · grammar place scope position) := by
  refine .of_step fun larger behind otherBehind tokens notSmaller enough => ?_
  simp only [Parser.forLoop]
  refine (Stopped.name (by simp [isDo]) tokens _).bind ?_
  rintro _ _ ⟨⟨afterKey⟩⟩
  refine (Stopped.name (by simp [isDo]) _ _).bind ?_
  rintro _ _ ⟨⟨afterLink⟩⟩
  dsimp only
  split
  · exact .refused rfl
  · refine (condition_stop isDo notSmaller (by omega) _).bind ?_
    rintro bound _ ⟨⟨afterBound⟩⟩
    refine (checkBound_stop _).bind ?_
    rintro _ _ rfl
    refine (declare_stop _ _ false).bind ?_
    rintro inside _ rfl
    refine ((smaller.block grammar _ _).stops notSmaller (by omega)).bind ?_
    rintro _ _ ⟨⟨afterBody⟩⟩
    exact .alike ⟨⟨by omega⟩⟩

/-- A block halts as its statements do. -/
private theorem block_step (grammar : Grammar) (place : Place) (scope : Scope) :
    Halts stop 1 0 (budget + 1) Beside (Parser.block · grammar place scope) := by
  refine .of_step fun larger behind otherBehind tokens notSmaller enough => ?_
  rw [Parser.block, Parser.block]
  refine (Stopped.want (by simp [isDo]) tokens _).bind ?_
  rintro _ _ ⟨⟨afterOpening⟩⟩
  refine ((smaller.blockStatements grammar place _).stops notSmaller (by omega)).bind ?_
  rintro _ _ ⟨⟨afterStatements⟩⟩
  refine (Stopped.want (by simp [isDo]) _ _).bind ?_
  rintro _ _ ⟨⟨afterClosing⟩⟩
  exact .alike ⟨⟨by omega⟩⟩

/-- The statements of a block halt: the stop is neither a statement nor an end. -/
private theorem blockStatements_step (grammar : Grammar) (place : Place) (scope : Scope) :
    Halts stop 2 1 (budget + 1) Beside (Parser.blockStatements · grammar place scope) := by
  refine .of_step fun larger behind otherBehind tokens notSmaller enough => ?_
  cases tokens with
  | nil =>
      -- The block ends without the stop, and the stop starts no statement.
      obtain ⟨spelling, position, rfl⟩ := eq_mark_of_kind isDo
      obtain ⟨larger, rfl⟩ : ∃ fewer, larger = fewer + 1 := ⟨larger - 1, by omega⟩
      exact .refused rfl
  | cons token tokens =>
      rw [Parser.blockStatements, Parser.blockStatements]
      by_cases closes : token.kind = .separator .rightBrace
      · rw [if_pos (by simp [TokenCursor.kind, closes]), if_pos (by simp [TokenCursor.kind, closes])]
        exact .alike ⟨⟨by omega⟩⟩
      · rw [if_neg (by simp [TokenCursor.kind, TokenCursor.atEnd, closes]),
          if_neg (by simp [TokenCursor.kind, TokenCursor.atEnd, closes])]
        refine ((smaller.statement grammar place scope).stops notSmaller (by omega)).bind ?_
        rintro _ _ ⟨⟨⟨afterFirst⟩⟩⟩
        refine ((smaller.blockStatements grammar place _).stops notSmaller (by omega)).bind ?_
        rintro _ _ ⟨⟨afterOthers⟩⟩
        exact .alike ⟨⟨by omega⟩⟩

end HaltsStmts

/-- The recursive readers of statements halt, by induction on the budget. -/
theorem haltsStmts (isDo : stop.kind = .keyword .doWord) (budget : Nat) :
    HaltsStmts stop budget := by
  induction budget with
  | zero =>
      constructor <;> intros <;> exact .zero (by decide)
  | succ budget smaller =>
      exact
        { statement := smaller.statement_step isDo
          branch := smaller.branch_step isDo
          alternatives := smaller.alternatives_step isDo
          forLoop := smaller.forLoop_step isDo
          block := smaller.block_step isDo
          blockStatements := smaller.blockStatements_step isDo }

/-- Whether a function is new has nothing to do with the stop. -/
theorem newFunction_stop (functions : Signatures) (identifier : Identifier) :
    Stopped (· = ·) (newFunction functions identifier) (newFunction functions identifier) := by
  refine .of_check fun error refused => ?_
  unfold newFunction at refused
  split at refused
  · cases refused
  · split at refused <;> cases refused <;> rfl

/-- Whether parameters are new has nothing to do with the stop. -/
theorem declareAll_stop (scope : Scope) (names : List Identifier) :
    Stopped (· = ·) (declareAll scope names) (declareAll scope names) := by
  induction names generalizing scope with
  | nil =>
      exact .alike rfl
  | cons first rest inductionHypothesis =>
      refine (declare_stop scope first false).bind ?_
      rintro inside _ rfl
      exact inductionHypothesis inside

/-- Items are read one after another. -/
theorem items_snd
    {budget : Nat}
    {known : Declarations}
    {cursor : TokenCursor}
    (goesOn : cursor.atEnd = false) :
    (items (budget + 1) grammar known cursor).2 =
      (do
        let (first, known, rest) ← item budget grammar known cursor
        let others ← (items budget grammar known rest).2
        .ok (first :: others)) := by
  simp only [items, goesOn, Bool.false_eq_true, if_false]
  rcases item budget grammar known cursor with error | ⟨first, known, rest⟩
  · rfl
  · simp only [ok_bind]
    rcases items budget grammar known rest with ⟨known, error | others⟩ <;> rfl

section Items

variable (isDo : stop.kind = .keyword .doWord)

include isDo

/-- The parameters of a function halt, by induction on the budget. -/
theorem parameterList_halts (function : String) (budget : Nat) :
    Halts stop 1 0 budget Beside (parameterList · function) := by
  induction budget with
  | zero =>
      exact .zero (by decide)
  | succ budget inductionHypothesis =>
      refine .of_step fun larger behind otherBehind tokens notSmaller enough => ?_
      rw [parameterList, parameterList]
      refine (Stopped.name (by simp [isDo]) tokens _).bind ?_
      rintro _ _ ⟨⟨afterName⟩⟩
      refine .accept (by simp [isDo]) ?_ ?_
      · rintro _ _ ⟨afterComma⟩
        refine (inductionHypothesis.stops notSmaller (by omega)).bind ?_
        rintro _ _ ⟨⟨afterOthers⟩⟩
        exact .alike ⟨⟨by omega⟩⟩
      · refine (Stopped.want (by simp [isDo]) _ _).bind ?_
        rintro _ _ ⟨⟨afterClosing⟩⟩
        exact .alike ⟨⟨by omega⟩⟩

variable {budget larger : Nat} {tokens : List Token} {known : Declarations}
variable (notSmaller : budget ≤ larger)

include notSmaller

/-- Parameters halt, the list without any included. -/
theorem parameters_stop
    (enough : 8 * sizeAll tokens + 1 ≤ budget)
    (function : String) :
    Stopped (Beside (StopAhead stop (sizeAll tokens)))
      (parameters budget function ⟨behind, tokens⟩)
      (parameters larger function ⟨otherBehind, tokens ++ [stop]⟩) := by
  refine (Stopped.want (by simp [isDo]) tokens _).bind ?_
  rintro _ _ ⟨⟨afterOpening⟩⟩
  refine .accept (by simp [isDo]) ?_ ?_
  · rintro _ _ ⟨afterClosing⟩
    exact .alike ⟨⟨by omega⟩⟩
  · exact ((parameterList_halts isDo function budget).stops notSmaller (by omega)).weaken
      (by omega)

/-- The body of a function halts as its block does. -/
theorem functionBody_stop
    (enough : 8 * sizeAll tokens + 1 ≤ budget)
    (scope : Scope)
    (function : String)
    (names : List Identifier) :
    Stopped (Beside (StopAhead stop (sizeAll tokens)))
      (functionBody budget grammar scope function names ⟨behind, tokens⟩)
      (functionBody larger grammar scope function names ⟨otherBehind, tokens ++ [stop]⟩) := by
  refine (declareAll_stop _ names).bind ?_
  rintro inside _ rfl
  exact ((haltsStmts isDo budget).block grammar _ inside).stops notSmaller enough

/-- A function halts as its parameters and its body do. -/
theorem functionDefinition_stop
    (enough : 8 * sizeAll tokens + 1 ≤ budget)
    (position : Position) :
    Stopped (Beside (StopAhead stop (sizeAll tokens)))
      (functionDefinition budget grammar known position ⟨behind, tokens⟩)
      (functionDefinition larger grammar known position ⟨otherBehind, tokens ++ [stop]⟩) := by
  refine (Stopped.name (by simp [isDo]) tokens _).bind ?_
  rintro _ _ ⟨⟨afterName⟩⟩
  refine (newFunction_stop known.functions _).bind ?_
  rintro _ _ rfl
  refine (parameters_stop isDo notSmaller (by omega) _).bind ?_
  rintro _ _ ⟨⟨afterParameters⟩⟩
  refine ((functionBody_stop isDo notSmaller (by omega) _ _ _).inFunction position _).bind ?_
  rintro _ _ ⟨⟨afterBody⟩⟩
  exact .alike ⟨⟨by omega⟩⟩

/-- An item halts, function or statement. -/
theorem item_stop
    (enough : 8 * sizeAll tokens + 1 ≤ budget) :
    Stopped (Beside (Beside (StopAhead stop (sizeAll tokens))))
      (item budget grammar known ⟨behind, tokens⟩)
      (item larger grammar known ⟨otherBehind, tokens ++ [stop]⟩) := by
  cases tokens with
  | nil =>
      obtain ⟨spelling, position, rfl⟩ := eq_mark_of_kind isDo
      obtain ⟨larger, rfl⟩ : ∃ fewer, larger = fewer + 1 := ⟨larger - 1, by omega⟩
      exact .refused rfl
  | cons token tokens =>
      have shorter := sizeAll_lt_cons token tokens
      simp only [item, TokenCursor.kind, List.cons_append, TokenCursor.skip_cons,
        TokenCursor.position]
      split
      · refine (functionDefinition_stop isDo notSmaller (by omega) _).bind ?_
        rintro _ _ ⟨⟨afterFunction⟩⟩
        exact .alike ⟨⟨⟨by omega⟩⟩⟩
      · refine (Stopped.name (by simp [isDo]) tokens _).bind ?_
        rintro _ _ ⟨⟨afterName⟩⟩
        refine (declare_stop known.scope _ false).bind ?_
        rintro scope _ rfl
        exact .alike ⟨⟨⟨by omega⟩⟩⟩
      · refine (((haltsStmts isDo budget).statement grammar _ known.scope).stops notSmaller
          enough).bind ?_
        rintro _ _ ⟨⟨⟨afterStatement⟩⟩⟩
        exact .alike ⟨⟨⟨by omega⟩⟩⟩

omit notSmaller in
/-- With the stop at the end no items are accepted. -/
theorem items_stop
    (enough : 8 * sizeAll tokens + 2 ≤ budget)
    (notSmaller : budget ≤ larger) :
    Stopped (fun _ _ => False) (items budget grammar known ⟨behind, tokens⟩).2
      (items larger grammar known ⟨otherBehind, tokens ++ [stop]⟩).2 := by
  induction budget generalizing larger known tokens behind otherBehind with
  | zero =>
      omega
  | succ budget inductionHypothesis =>
      obtain ⟨larger, rfl⟩ : ∃ fewer, larger = fewer + 1 := ⟨larger - 1, by omega⟩
      cases tokens with
      | nil =>
          obtain ⟨spelling, position, rfl⟩ := eq_mark_of_kind isDo
          obtain ⟨larger, rfl⟩ : ∃ fewer, larger = fewer + 1 := ⟨larger - 1, by omega⟩
          exact .refused rfl
      | cons token tokens =>
          rw [items_snd rfl, items_snd rfl]
          refine (item_stop isDo (show budget ≤ larger by omega) (by omega)).bind ?_
          rintro _ _ ⟨⟨⟨afterItem⟩⟩⟩
          refine (inductionHypothesis (by omega) (by omega)).bind ?_
          rintro _ _ ⟨⟩

end Items

end Parser

/-- A sequence is refused where its items are. -/
theorem outcome_of_items
    {grammar : Grammar}
    {known : Declarations}
    {tokens : List Token}
    {error : SyntaxError}
    (refused :
      (Parser.items (Parser.budgetFor tokens) grammar known (.ofTokens tokens)).2 = .error error) :
    (parseTokens grammar known tokens).outcome = .error error := by
  rcases read : Parser.items (Parser.budgetFor tokens) grammar known (.ofTokens tokens) with
    ⟨after, outcome⟩
  rw [read] at refused
  subst refused
  simp only [parseTokens, read]

/-- A sequence is refused when the word `do` comes after it, and not because of an early end, unless
it is refused in a template anyway. -/
theorem parseTokens_do
    {stop : Token}
    (isDo : stop.kind = .keyword .doWord)
    (grammar : Grammar)
    (known : Declarations)
    (tokens : List Token) :
    (∃ error, (parseTokens grammar known (tokens ++ [stop])).outcome = .error error ∧
        error.endsEarly = false) ∨
      ∃ error, (parseTokens grammar known tokens).outcome = .error error ∧
        error.inTemplate = true := by
  have read : Parser.Stopped (fun _ _ => False)
      (Parser.items (Parser.budgetFor tokens) grammar known (.ofTokens tokens)).2
      (Parser.items (Parser.budgetFor (tokens ++ [stop])) grammar known
        (.ofTokens (tokens ++ [stop]))).2 := by
    refine Parser.items_stop isDo ?_ ?_
    · simp only [Parser.budgetFor]
      omega
    · simp only [Parser.budgetFor, Token.sizeAll_append]
      omega
  generalize firstRead :
    (Parser.items (Parser.budgetFor tokens) grammar known (.ofTokens tokens)).2 = first at read
  generalize secondRead :
    (Parser.items (Parser.budgetFor (tokens ++ [stop])) grammar known
      (.ofTokens (tokens ++ [stop]))).2 = second at read
  cases read with
  | alike impossible =>
      exact impossible.elim
  | refused goesOn =>
      exact .inl ⟨_, outcome_of_items secondRead, goesOn⟩
  | inTemplate isInside =>
      exact .inr ⟨_, outcome_of_items firstRead, isInside⟩

end Scripting
