import Scripting.Proofs.Parser.Derivation

namespace Scripting

/-!
# Reading a cut sequence

A sequence that the rules read is cut after a token that is no name.  On the tokens before the cut
the parser goes through the same steps until it reaches the cut.  There it either misses a token,
which is an early end, or it stops with a smaller tree where the rules would have gone on.  An
expression goes on after an operand.
-/

namespace Parser

open Token

/-- A sequence is cut between a front and what is missing, and not right after a name. -/
def Cut (front missing : List Token) : Prop :=
  missing ≠ [] → ∀ last ∈ front.getLast?, last.kind ≠ .name

/-- A cut is no other without the first token of the front. -/
theorem Cut.of_cons
    {token : Token}
    {front missing : List Token}
    (cut : Cut (token :: front) missing) :
    Cut front missing := by
  intro isMissing last isLast
  refine cut isMissing last ?_
  rw [List.getLast?_cons, isLast]
  exact rfl

/-- The token after a name is in the front with it. -/
theorem Cut.exists_cons
    {text : String}
    {position : Position}
    {token : Token}
    {tokens front missing : List Token}
    (cut : Cut (.name text position :: front) missing)
    (shape : token :: tokens = front ++ missing) :
    ∃ others, front = token :: others ∧ tokens = others ++ missing := by
  rcases List.cons_eq_append_iff.mp shape with ⟨rfl, rfl⟩ | inFront
  · exact (cut (by simp) _ rfl rfl).elim
  · exact inFront

/-- The mark after a name is in the front with it. -/
theorem Cut.nextKind_eq
    {text : String}
    {position : Position}
    {tokens front missing : List Token}
    {fixed : Mark}
    (cut : Cut (.name text position :: front) missing)
    (shape : tokens = front ++ missing)
    (next : nextKind tokens = .mark fixed) :
    nextKind front = .mark fixed := by
  cases tokens with
  | nil =>
      cases next
  | cons token tokens =>
      obtain ⟨others, rfl, -⟩ := cut.exists_cons shape
      exact next

/-- A reading ends early, or gives a good result. -/
inductive EarlyOr {Result : Type} (Good : Result → Prop) : Except SyntaxError Result → Prop where
  | early {error : SyntaxError} (endsEarly : error.endsEarly = true) :
      EarlyOr Good (.error error)
  | ok {result : Result} (good : Good result) :
      EarlyOr Good (.ok result)

/-- A reading gets to the tokens that the rule leaves, as far as they are in the front, or stops at
the cut with less. -/
inductive Passes {Result : Type} (missing rest : List Token) (whole : TokenCursor → Result)
    (Less : Result → Prop) : Result → Prop where
  | whole {after : TokenCursor} (left : rest = after.ahead ++ missing)
      (cut : Cut after.ahead missing) :
      Passes missing rest whole Less (whole after)
  | less {part : Result} (beyond : sizeAll rest < sizeAll missing) (isLess : Less part) :
      Passes missing rest whole Less part

/-- No result is less than the whole. -/
def Never {Result : Type} (_ : Result) : Prop :=
  False

namespace EarlyOr

variable {First Second : Type} {Good : Second → Prop}
variable {missing rest : List Token} {whole : TokenCursor → First}
variable {reading : Except SyntaxError First} {next : First → Except SyntaxError Second}

/-- Readings in sequence end early or give a good result if each of them does. -/
theorem bind
    {GoodFirst : First → Prop}
    (first : EarlyOr GoodFirst reading)
    (second : ∀ result, GoodFirst result → EarlyOr Good (next result)) :
    EarlyOr Good (reading >>= next) := by
  cases first with
  | early endsEarly =>
      exact .early endsEarly
  | ok good =>
      exact second _ good

/-- A result that is good may be better. -/
theorem of_imp
    {GoodFirst BetterFirst : First → Prop}
    (first : EarlyOr GoodFirst reading)
    (better : ∀ result, GoodFirst result → BetterFirst result) :
    EarlyOr BetterFirst reading := by
  cases first with
  | early endsEarly =>
      exact .early endsEarly
  | ok good =>
      exact .ok (better _ good)

/-- A reading that gives a result gives a good one. -/
theorem of_ok
    {GoodFirst : First → Prop}
    {result : First}
    (first : EarlyOr GoodFirst (.ok result)) :
    GoodFirst result := by
  cases first with
  | ok good =>
      exact good

/-- After a reading that may stop with less, both ways have to be gone on. -/
theorem bindLoose
    {Less : First → Prop}
    (first : EarlyOr (Passes missing rest whole Less) reading)
    (goesOn :
      ∀ after : TokenCursor, rest = after.ahead ++ missing → Cut after.ahead missing →
        EarlyOr Good (next (whole after)))
    (stops :
      ∀ part, sizeAll rest < sizeAll missing → Less part → EarlyOr Good (next part)) :
    EarlyOr Good (reading >>= next) := by
  refine first.bind ?_
  rintro _ (⟨left, cut⟩ | ⟨beyond, isLess⟩)
  · exact goesOn _ left cut
  · exact stops _ beyond isLess

/-- After a reading that gives the whole or nothing, one way has to be gone on. -/
theorem bindFirm
    (first : EarlyOr (Passes missing rest whole Never) reading)
    (goesOn :
      ∀ after : TokenCursor, rest = after.ahead ++ missing → Cut after.ahead missing →
        EarlyOr Good (next (whole after))) :
    EarlyOr Good (reading >>= next) :=
  first.bindLoose goesOn fun _ _ isLess => isLess.elim

/-- Enclosing an error that ends early leaves it one. -/
theorem mapError
    {reading : Except SyntaxError Second}
    (first : EarlyOr Good reading)
    {enclose : SyntaxError → SyntaxError}
    (sameEnd : ∀ error, (enclose error).endsEarly = error.endsEarly) :
    EarlyOr Good (reading.mapError enclose) := by
  cases first with
  | early endsEarly =>
      exact .early ((sameEnd _).trans endsEarly)
  | ok good =>
      exact .ok good

/-- What comes after a reading that ends early does not matter. -/
theorem bindNever
    (first : EarlyOr Never reading) :
    EarlyOr Good (reading >>= next) :=
  first.bind fun _ never => never.elim

/-- At the end of the tokens nothing can be taken. -/
theorem want_of_ended
    {cursor : TokenCursor}
    (ended : cursor.ahead = [])
    (kind : TokenKind)
    (context : String) :
    EarlyOr Never (cursor.want kind context) := by
  simp only [TokenCursor.want, TokenCursor.expect, ended]
  exact .early rfl

/-- The token that the rule takes is taken, unless it is missing. -/
theorem want
    {cursor : TokenCursor}
    {token : Token}
    {kind : TokenKind}
    {missing after : List Token}
    (left : token :: after = cursor.ahead ++ missing)
    (cut : Cut cursor.ahead missing)
    (wanted : token.kind = kind)
    (context : String) :
    EarlyOr (Passes missing after (token, ·) Never) (cursor.want kind context) := by
  rcases cursor with ⟨behind, front⟩
  rcases List.cons_eq_append_iff.mp left with ⟨rfl, -⟩ | ⟨front, rfl, leftThere⟩
  · exact (want_of_ended rfl kind context).of_imp fun _ never => never.elim
  · rw [TokenCursor.want_cons _ _ wanted]
    exact .ok (.whole leftThere cut.of_cons)

/-- A name is taken, unless it is missing. -/
theorem name
    {cursor : TokenCursor}
    {text : String}
    {position : Position}
    {missing after : List Token}
    (left : .name text position :: after = cursor.ahead ++ missing)
    (cut : Cut cursor.ahead missing)
    (context : String) :
    EarlyOr (Passes missing after (⟨text, position⟩, ·) Never) (Parser.name cursor context) :=
  (want left cut rfl context).bindFirm fun _ left cut => .ok (.whole left cut)

end EarlyOr

/-- A reading of tokens gets through every front of them. -/
def Fronts {Result : Type} (tokens rest : List Token)
    (reading : Nat → TokenCursor → Except SyntaxError Result)
    (whole : TokenCursor → Result) (Less : Result → Prop) : Prop :=
  ∀ front missing, tokens = front ++ missing → Cut front missing →
    ∀ budget behind, EarlyOr (Passes missing rest whole Less) (reading budget ⟨behind, front⟩)

/-- It is enough to look at what a reading does with its first step: without any, it ends early. -/
theorem Fronts.of_step
    {Result : Type}
    {tokens rest : List Token}
    {reading : Nat → TokenCursor → Except SyntaxError Result}
    {whole : TokenCursor → Result}
    {Less : Result → Prop}
    (exhausted : ∀ cursor, reading 0 cursor = .error (tokensEnded cursor))
    (steps :
      ∀ front missing, tokens = front ++ missing → Cut front missing →
        ∀ budget behind,
          EarlyOr (Passes missing rest whole Less) (reading (budget + 1) ⟨behind, front⟩)) :
    Fronts tokens rest reading whole Less := by
  intro front missing shape cut budget behind
  cases budget with
  | zero =>
      rw [exhausted]
      exact .early rfl
  | succ budget =>
      exact steps front missing shape cut budget behind

/-- A reading that takes a token first ends early where there is none. -/
theorem Fronts.of_taken
    {Result : Type}
    {tokens rest : List Token}
    {reading : Nat → TokenCursor → Except SyntaxError Result}
    {whole : TokenCursor → Result}
    {Less : Result → Prop}
    (exhausted : ∀ cursor, reading 0 cursor = .error (tokensEnded cursor))
    (takes : ∀ budget behind, EarlyOr Never (reading budget ⟨behind, []⟩))
    (steps :
      ∀ token front missing, tokens = token :: (front ++ missing) → Cut (token :: front) missing →
        ∀ budget behind,
          EarlyOr (Passes missing rest whole Less)
            (reading (budget + 1) ⟨behind, token :: front⟩)) :
    Fronts tokens rest reading whole Less := by
  refine .of_step exhausted fun front missing shape cut budget behind => ?_
  cases front with
  | nil =>
      exact (takes _ behind).of_imp fun _ never => never.elim
  | cons token front =>
      exact steps token front missing shape cut budget behind

/-- Less than an expression, at the end of the tokens. -/
def ExprPart (value : Expr) (read : Expr × TokenCursor) : Prop :=
  read.2.ahead = [] ∧ read.1.calls ⊆ value.calls

/-- A mark that does not come next in the whole does not come next in the front. -/
theorem nextKind_front_ne
    {tokens front missing : List Token}
    {fixed : Mark}
    (shape : tokens = front ++ missing)
    (other : nextKind tokens ≠ .mark fixed) :
    nextKind front ≠ .mark fixed := by
  subst shape
  cases front with
  | nil =>
      simp
  | cons token front =>
      exact other

variable {grammar : Grammar} {scope : Scope}

/-- The calls of the left operand are calls of the expression. -/
theorem ReadsOperation.calls_left
    {bound : Nat}
    {left value : Expr}
    {tokens rest : List Token}
    (reads : ReadsOperation grammar scope bound left tokens value rest) :
    left.calls ⊆ value.calls := by
  induction size : sizeAll tokens using Nat.strongRecOn generalizing left tokens with
  | ind _ inductionHypothesis =>
      subst size
      cases reads with
      | stop =>
          exact List.Subset.refl _
      | extend _ _ first right whole =>
          have firstShorter := first.shorter
          have rightShorter := right.notLonger
          have inside := inductionHypothesis _ (by rw [sizeAll_cons]; omega) whole rfl
          simp only [Expr.calls, List.append_subset] at inside
          exact inside.1

/-- At the end of the tokens an operation is what has been read of it. -/
theorem operation_of_ended
    {bound : Nat}
    {left : Expr}
    {cursor : TokenCursor}
    (ended : cursor.ahead = [])
    (budget : Nat) :
    EarlyOr (· = (left, cursor)) (operation budget grammar scope bound left cursor) := by
  rcases cursor with ⟨behind, ahead⟩
  cases ended
  cases budget with
  | zero =>
      exact .early rfl
  | succ budget =>
      rw [operation, tighterOperator?_eq_none behind (by simp)]
      exact .ok rfl

/-- Without tokens an operand is missing. -/
theorem operand_of_ended (budget : Nat) (behind : List Token) :
    EarlyOr Never (operand budget grammar scope ⟨behind, []⟩) := by
  cases budget <;> exact .early rfl

/-- Without tokens a list of expressions is missing. -/
theorem exprList_of_ended
    (closing : Separator)
    (context : String)
    (budget : Nat)
    (behind : List Token) :
    EarlyOr Never (exprList budget grammar scope closing context ⟨behind, []⟩) := by
  rcases budget with _ | _ | _ | budget <;> exact .early rfl

/-- Without tokens the arguments of a call are missing. -/
theorem call_of_ended (function : Identifier) (budget : Nat) (behind : List Token) :
    EarlyOr Never (call budget grammar scope function ⟨behind, []⟩) := by
  cases budget <;> exact .early rfl

/-- All tokens of an interpolation are a front of them. -/
theorem Fronts.interpolation
    {tokens : List Token}
    {value : Expr}
    (fronts : Fronts tokens [] (expr · grammar scope) (value, ·) (ExprPart value))
    (budget : Nat) :
    EarlyOr (· = value) (Parser.interpolation budget grammar scope tokens) := by
  cases budget with
  | zero =>
      exact .early rfl
  | succ budget =>
      rw [Parser.interpolation]
      refine (fronts tokens [] (List.append_nil _).symm (fun none => (none rfl).elim) budget
        []).bindLoose ?_ ?_
      · rintro ⟨behind, ahead⟩ left -
        rw [List.append_nil] at left
        cases left
        exact .ok rfl
      · rintro part beyond -
        simp at beyond

mutual

/-- An expression that is cut is missed, read in whole, or read in part. -/
theorem ReadsExpr.fronts
    {tokens rest : List Token}
    {value : Expr}
    (reads : ReadsExpr grammar scope tokens value rest) :
    Fronts tokens rest (expr · grammar scope) (value, ·) (ExprPart value) :=
  .of_step (fun _ => rfl) <| match reads with
    | .chain left operation => fun front missing shape cut budget behind => by
        rw [expr]
        refine (left.fronts front missing shape cut budget behind).bindFirm fun after left cut => ?_
        exact operation.fronts _ missing left cut budget _
termination_by structural reads

/-- Operations that are cut after an operand stop there with a part of the expression. -/
theorem ReadsOperation.fronts
    {bound : Nat}
    {left value : Expr}
    {tokens rest : List Token}
    (reads : ReadsOperation grammar scope bound left tokens value rest) :
    Fronts tokens rest (operation · grammar scope bound left) (value, ·) (ExprPart value) :=
  .of_step (fun _ => rfl) <| match reads with
    | .stop loose => fun front missing shape cut budget behind => by
        have looseThere : ∀ operator, nextKind front = .operator operator →
            rank grammar operator ≤ bound := by
          intro operator isOperator
          cases front with
          | nil =>
              cases isOperator
          | cons token front =>
              exact loose operator (shape ▸ isOperator)
        rw [operation, tighterOperator?_eq_none behind looseThere]
        exact .ok (.whole shape cut)
    | .extend isOperator tighter first right whole =>
        fun front missing shape cut budget behind => by
        have firstShorter := first.shorter
        have rightShorter := right.notLonger
        have wholeShorter := whole.notLonger
        have leftCalls := whole.calls_left
        simp only [Expr.calls, List.append_subset] at leftCalls
        rcases List.cons_eq_append_iff.mp shape with ⟨rfl, rfl⟩ | ⟨front, rfl, shapeThere⟩
        · rw [operation, tighterOperator?_eq_none behind (by simp)]
          refine .ok (.less ?_ ⟨rfl, leftCalls.1⟩)
          simp only [sizeAll_cons]
          omega
        · rw [operation, tighterOperator?_eq_some behind _ isOperator tighter]
          refine (first.fronts front missing shapeThere cut.of_cons budget _).bindFirm
            fun afterFirst left cut => ?_
          refine (right.fronts _ missing left cut budget _).bindLoose
            (fun afterRight left cut => whole.fronts _ missing left cut budget _) ?_
          rintro ⟨part, afterRight⟩ beyond ⟨ended, calls⟩
          refine (operation_of_ended ended budget).of_imp ?_
          rintro _ rfl
          refine .less (by omega) ⟨ended, ?_⟩
          simp only [Expr.calls, List.append_subset]
          exact ⟨leftCalls.1, List.Subset.trans calls leftCalls.2⟩
termination_by structural reads

/-- An operand is missed or read in whole. -/
theorem ReadsOperand.fronts
    {tokens rest : List Token}
    {value : Expr}
    (reads : ReadsOperand grammar scope tokens value rest) :
    Fronts tokens rest (operand · grammar scope) (value, ·) Never :=
  .of_taken (fun _ => rfl) operand_of_ended <| match reads with
    | .literal => by
        intro token front missing started cut budget behind
        obtain ⟨rfl, shape⟩ := List.cons_eq_cons.mp started
        rw [operand, TokenCursor.next_cons, ok_bind]
        exact .ok (.whole shape cut.of_cons)
    | .template parts => by
        intro token front missing started cut budget behind
        obtain ⟨rfl, shape⟩ := List.cons_eq_cons.mp started
        rw [operand, TokenCursor.next_cons, ok_bind]
        refine (parts.fronts budget).bind ?_
        rintro _ rfl
        exact .ok (.whole shape cut.of_cons)
    | .null => by
        intro token front missing started cut budget behind
        obtain ⟨rfl, shape⟩ := List.cons_eq_cons.mp started
        rw [operand, TokenCursor.next_cons, ok_bind]
        exact .ok (.whole shape cut.of_cons)
    | .name noCall visible => by
        intro token front missing started cut budget behind
        obtain ⟨rfl, shape⟩ := List.cons_eq_cons.mp started
        obtain ⟨binding, found⟩ := Option.isSome_iff_exists.mp visible
        simp only [operand, TokenCursor.next_cons, TokenCursor.kind_eq, nextKind_front_ne shape noCall,
          if_false, visibleName, found, ok_bind]
        exact .ok (.whole shape cut.of_cons)
    | .call opens call => by
        intro token front missing started cut budget behind
        obtain ⟨rfl, shape⟩ := List.cons_eq_cons.mp started
        have opensThere := cut.nextKind_eq shape opens
        simp only [operand, TokenCursor.next_cons, ok_bind, TokenCursor.kind_eq, opensThere, if_true]
        exact call.fronts _ missing shape cut.of_cons budget _
    | .paren closes inner => by
        intro token front missing started cut budget behind
        obtain ⟨rfl, shape⟩ := List.cons_eq_cons.mp started
        rw [operand, TokenCursor.next_cons, ok_bind]
        refine (inner.fronts front missing shape cut.of_cons budget _).bindLoose
          (fun after left cut => ?_) ?_
        · exact (EarlyOr.want left cut closes _).bindFirm fun after left cut =>
            .ok (.whole left cut)
        · rintro ⟨part, after⟩ - ⟨ended, -⟩
          exact (EarlyOr.want_of_ended ended _ _).bindNever
    | .emptyList closes => by
        intro token front missing started cut budget behind
        obtain ⟨rfl, shape⟩ := List.cons_eq_cons.mp started
        rw [operand, TokenCursor.next_cons, ok_bind]
        rcases List.cons_eq_append_iff.mp shape with ⟨rfl, -⟩ | ⟨front, rfl, closed⟩
        · exact (exprList_of_ended _ _ budget _).bindNever
        · simp only [TokenCursor.accept?_cons _ _ closes]
          exact .ok (.whole closed cut.of_cons.of_cons)
    | .list notEmpty elements => by
        intro token front missing started cut budget behind
        obtain ⟨rfl, shape⟩ := List.cons_eq_cons.mp started
        simp only [operand, TokenCursor.next_cons, ok_bind,
          TokenCursor.accept?_eq_none _ (nextKind_front_ne shape notEmpty)]
        exact (elements.fronts "list" front missing shape cut.of_cons budget _).bindFirm
          fun after left cut => .ok (.whole left cut)
termination_by structural reads

/-- A call that is cut misses its closing parenthesis at least. -/
theorem ReadsCall.fronts
    {function : Identifier}
    {tokens rest : List Token}
    {value : Expr}
    (reads : ReadsCall grammar scope function tokens value rest) :
    Fronts tokens rest (call · grammar scope function) (value, ·) Never :=
  .of_taken (fun _ => rfl) (call_of_ended function) <| match reads with
    | .empty opens closes => by
        intro token front missing started cut budget behind
        obtain ⟨rfl, shape⟩ := List.cons_eq_cons.mp started
        simp only [call, TokenCursor.want_cons _ _ opens, ok_bind]
        rcases List.cons_eq_append_iff.mp shape with ⟨rfl, -⟩ | ⟨front, rfl, closed⟩
        · exact (exprList_of_ended _ _ budget _).bindNever
        · simp only [TokenCursor.accept?_cons _ _ closes]
          exact .ok (.whole closed cut.of_cons.of_cons)
    | .arguments opens notEmpty arguments => by
        intro token front missing started cut budget behind
        obtain ⟨rfl, shape⟩ := List.cons_eq_cons.mp started
        simp only [call, TokenCursor.want_cons _ _ opens, ok_bind,
          TokenCursor.accept?_eq_none _ (nextKind_front_ne shape notEmpty)]
        exact (arguments.fronts _ front missing shape cut.of_cons budget _).bindFirm
          fun after left cut => .ok (.whole left cut)
termination_by structural reads

/-- A list that is cut misses its closing mark at least. -/
theorem ReadsExprList.fronts
    {closing : Separator}
    {tokens rest : List Token}
    {values : List Expr}
    (reads : ReadsExprList grammar scope closing tokens values rest)
    (context : String) :
    Fronts tokens rest (exprList · grammar scope closing context) (values, ·) Never :=
  .of_step (fun _ => rfl) <| match reads with
    | .last noComma closes first => fun front missing shape cut budget behind => by
        rw [exprList]
        refine (first.fronts front missing shape cut budget behind).bindLoose
          (fun after left cut => ?_) ?_
        · have noCommaThere := nextKind_front_ne left noComma
          simp only [TokenCursor.accept?_eq_none after.behind noCommaThere]
          exact (EarlyOr.want left cut closes _).bindFirm fun after left cut =>
            .ok (.whole left cut)
        · rintro ⟨part, behind, ahead⟩ - ⟨ended, -⟩
          cases ended
          exact (EarlyOr.want_of_ended rfl _ _).bindNever
    | .more isComma first others => fun front missing shape cut budget behind => by
        rw [exprList]
        refine (first.fronts front missing shape cut budget behind).bindLoose
          (fun after left cut => ?_) ?_
        · rcases after with ⟨behind, ahead⟩
          rcases List.cons_eq_append_iff.mp left with ⟨rfl, -⟩ | ⟨ahead, rfl, leftThere⟩
          · exact (EarlyOr.want_of_ended rfl _ _).bindNever
          · simp only [TokenCursor.accept?_cons _ _ isComma]
            exact (others.fronts context ahead missing leftThere cut.of_cons budget _).bindFirm
              fun after left cut => .ok (.whole left cut)
        · rintro ⟨part, behind, ahead⟩ - ⟨ended, -⟩
          cases ended
          exact (EarlyOr.want_of_ended rfl _ _).bindNever
termination_by structural reads

/-- The tokens of an interpolation are never cut. -/
theorem ReadsParts.fronts
    {position : Position}
    {parts : List Part}
    {values : List Expr}
    (reads : ReadsParts grammar scope position parts values)
    (budget : Nat) :
    EarlyOr (· = values) (templateParts budget grammar scope position parts) :=
  match budget, reads with
  | 0, _ => .early rfl
  | budget + 1, .nil => by
      rw [templateParts]
      exact .ok rfl
  | budget + 1, .fragment others => by
      rw [templateParts]
      refine (others.fronts budget).bind ?_
      rintro _ rfl
      exact .ok rfl
  | budget + 1, .interpolation first others => by
      simp only [templateParts]
      refine EarlyOr.bind ((first.fronts.interpolation budget).mapError fun _ => rfl) ?_
      rintro _ rfl
      refine (others.fronts budget).bind ?_
      rintro _ rfl
      exact .ok rfl
termination_by structural reads

end

/-- A condition that is cut misses its closing parenthesis at least. -/
theorem ReadsCondition.fronts
    {tokens rest : List Token}
    {test : Expr} :
    ReadsCondition grammar scope tokens test rest →
    ∀ context, Fronts tokens rest (condition · grammar scope context) (test, ·) Never
  | .mk opens closes inner, context => fun front missing shape cut budget behind => by
      refine (EarlyOr.want shape cut opens context).bindFirm fun afterOpening left cut => ?_
      refine (inner.fronts _ missing left cut budget _).bindLoose (fun after left cut => ?_) ?_
      · exact (EarlyOr.want left cut closes context).bindFirm fun after left cut =>
          .ok (.whole left cut)
      · rintro ⟨part, after⟩ - ⟨ended, -⟩
        exact (EarlyOr.want_of_ended ended _ _).bindNever

end Parser

end Scripting
