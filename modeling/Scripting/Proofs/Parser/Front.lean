import Scripting.Proofs.Parser.Cut
import Scripting.Proofs.Parser.Lawfulness

namespace Scripting

/-!
# The front of an accepted sequence

Where an accepted sequence is cut after a token that is no name, the parser accepts the tokens before
the cut, or misses a token, or misses a function that is defined after the cut.  Statements go on
after a branch and after `return`, and items wherever a statement ends.
-/

namespace Parser

open Token

variable {grammar : Grammar} {scope : Scope}

/-- Less than a statement, at the end of the tokens. -/
def StmtPart (value : Stmt) (read : Stmt × Scope × TokenCursor) : Prop :=
  read.2.2.ahead = [] ∧ read.1.calls ⊆ value.calls

/-- Fewer branches, at the end of the tokens. -/
def BranchesPart (values : List Branch) (read : List Branch × TokenCursor) : Prop :=
  read.2.ahead = [] ∧ Branch.callsAll read.1 ⊆ Branch.callsAll values

/-- Some statements, at the end of the tokens. -/
def StmtsPart (read : List Stmt × TokenCursor) : Prop :=
  read.2.ahead = []

/-- Without tokens a statement is missing. -/
theorem statement_of_ended
    {place : Place}
    (budget : Nat)
    (behind : List Token) :
    EarlyOr Never (statement budget grammar place scope ⟨behind, []⟩) := by
  cases budget <;> exact .early rfl

/-- Without tokens a block is missing. -/
theorem block_of_ended
    {place : Place}
    (budget : Nat)
    (behind : List Token) :
    EarlyOr Never (block budget grammar place scope ⟨behind, []⟩) := by
  cases budget <;> exact .early rfl

/-- Without tokens no statement is read. -/
theorem blockStatements_of_ended
    {place : Place}
    {cursor : TokenCursor}
    (ended : cursor.ahead = [])
    (budget : Nat) :
    EarlyOr (· = ([], cursor)) (blockStatements budget grammar place scope cursor) := by
  rcases cursor with ⟨behind, ahead⟩
  cases ended
  cases budget with
  | zero =>
      exact .early rfl
  | succ budget =>
      exact .ok rfl

/-- What follows `return` is seen in the front, unless it is missing. -/
theorem valueFollows_front
    {keyword token : Token}
    {tokens front missing : List Token}
    (shape : tokens = token :: front ++ missing) :
    valueFollows keyword (token :: front) = valueFollows keyword tokens := by
  subst shape
  rfl

/-- One more branch comes before those that are read, or before fewer. -/
theorem EarlyOr.consBranch
    {missing rest : List Token}
    {first : Branch}
    {others : List Branch}
    {reading : Except SyntaxError (List Branch × TokenCursor)}
    (read : EarlyOr (Passes missing rest (others, ·) (BranchesPart others)) reading) :
    EarlyOr (Passes missing rest (first :: others, ·) (BranchesPart (first :: others)))
      (do
        let (others, rest) ← reading
        .ok (first :: others, rest)) := by
  refine read.bindLoose (fun after left cut => .ok (.whole left cut)) ?_
  rintro ⟨part, after⟩ beyond ⟨ended, calls⟩
  refine .ok (.less beyond ⟨ended, ?_⟩)
  simp only [Branch.callsAll]
  exact List.append_subset.mpr
    ⟨List.subset_append_left .., List.subset_append_of_subset_right _ calls⟩

section Statements

variable {place : Place} {tokens rest : List Token} {value : Expr}

/-- A value that is read, or less than it, is made a statement. -/
theorem EarlyOr.toStmt
    {missing : List Token}
    {reading : Except SyntaxError (Expr × TokenCursor)}
    (first : EarlyOr (Passes missing rest (value, ·) (ExprPart value)) reading)
    {next : Expr × TokenCursor → Except SyntaxError (Stmt × Scope × TokenCursor)}
    (make : Expr → Stmt)
    {inside : Scope}
    (makes : ∀ part after, next (part, after) = .ok (make part, inside, after))
    (sameCalls : ∀ part, (make part).calls = part.calls) :
    EarlyOr (Passes missing rest (make value, inside, ·) (StmtPart (make value)))
      (reading >>= next) := by
  refine first.bindLoose (fun after left cut => ?_) ?_
  · rw [makes]
    exact .ok (.whole left cut)
  · rintro ⟨part, after⟩ beyond ⟨ended, calls⟩
    rw [makes]
    refine .ok (.less beyond ⟨ended, ?_⟩)
    rwa [sameCalls, sameCalls]

/-- A declaration after its keyword that is cut misses its value, or has a part of it. -/
private theorem fronts_declaration
    {mutable : Bool}
    {text : String}
    {position : Position}
    {sign : Token}
    (keyword : Token)
    (isSign : sign.kind = .assign)
    (new : scope.current.find? text = none)
    (inner : ReadsExpr grammar scope tokens value rest) :
    Fronts (.name text position :: sign :: tokens) rest
      (declaration · grammar scope mutable keyword)
      (.declare mutable ⟨text, position⟩ value keyword.position,
        scope.define text ⟨mutable, position⟩, ·)
      (StmtPart (.declare mutable ⟨text, position⟩ value keyword.position)) := by
  intro front missing shape cut budget behind
  refine (EarlyOr.name shape cut _).bindFirm fun afterName left cut => ?_
  refine (EarlyOr.want left cut isSign _).bindFirm fun afterSign left cut => ?_
  refine (inner.fronts _ missing left cut budget _).toStmt
    (.declare mutable ⟨text, position⟩ · keyword.position) (fun part after => ?_)
    fun _ => rfl
  simp only [declare, new, ok_bind]

/-- An assignment of a new name that is cut misses its value, or has a part of it. -/
private theorem fronts_assignNew
    {identifier : Identifier}
    (lenient : grammar.strict = false)
    (new : scope.find? identifier.text = none)
    (inner : ReadsExpr grammar scope tokens value rest) :
    Fronts tokens rest (assignment · grammar scope identifier)
      (.assign true identifier value, scope.define identifier.text ⟨true, identifier.position⟩, ·)
      (StmtPart (.assign true identifier value)) := by
  intro front missing shape cut budget behind
  have free := ScopeChain.current_find?_eq_none new
  refine (inner.fronts front missing shape cut budget behind).toStmt
    (.assign true identifier ·) (fun part after => ?_) fun _ => rfl
  simp only [new, lenient, declare, free, Bool.false_eq_true, if_false, ok_bind]

/-- An assignment of a known name that is cut misses its value, or has a part of it. -/
private theorem fronts_assignOld
    {identifier : Identifier}
    {binding : Binding}
    (known : scope.find? identifier.text = some binding)
    (isMutable : binding.mutable = true)
    (inner : ReadsExpr grammar scope tokens value rest) :
    Fronts tokens rest (assignment · grammar scope identifier)
      (.assign false identifier value, scope, ·) (StmtPart (.assign false identifier value)) := by
  intro front missing shape cut budget behind
  refine (inner.fronts front missing shape cut budget behind).toStmt
    (.assign false identifier ·) (fun part after => ?_) fun _ => rfl
  simp only [known, isMutable, if_true]

/-- A return that is cut right after its keyword has no value; after that it misses its value, or
has a part of it. -/
private theorem fronts_return
    {keyword : Token}
    (allowed : place.inFunction = true)
    (hasValue : valueFollows keyword tokens = true)
    (inner : ReadsExpr grammar scope tokens value rest) :
    Fronts tokens rest
      (fun budget cursor => do
        let (result, rest) ← returnStatement budget grammar place scope keyword cursor
        .ok (result, scope, rest))
      (.return (some value) keyword.position, scope, ·)
      (StmtPart (.return (some value) keyword.position)) := by
  intro front missing shape cut budget behind
  cases front with
  | nil =>
      have shorter := inner.shorter
      simp only [returnStatement, allowed, Bool.not_true, Bool.false_eq_true, if_false, ok_bind]
      refine .ok (.less ?_ ⟨rfl, List.nil_subset _⟩)
      rwa [shape] at shorter
  | cons next front =>
      have hasValueThere := (valueFollows_front shape).trans hasValue
      simp only [valueFollows] at hasValueThere
      simp only [returnStatement, allowed, Bool.not_true, Bool.false_eq_true, if_false,
        hasValueThere, if_true, bind_assoc]
      exact (inner.fronts _ missing shape cut budget _).toStmt
        (fun part => .return (some part) keyword.position) (fun _ _ => rfl) fun _ => rfl

/-- A return without a value is not cut. -/
private theorem fronts_returnNothing
    {keyword : Token}
    (allowed : place.inFunction = true)
    (noValue : valueFollows keyword tokens = false) :
    Fronts tokens tokens
      (fun budget cursor => do
        let (result, rest) ← returnStatement budget grammar place scope keyword cursor
        .ok (result, scope, rest))
      (.return none keyword.position, scope, ·) (StmtPart (.return none keyword.position)) := by
  intro front missing shape cut budget behind
  have stops :
      returnStatement budget grammar place scope keyword ⟨behind, front⟩ =
        .ok (.return none keyword.position, ⟨behind, front⟩) := by
    cases front with
    | nil =>
        simp [returnStatement, allowed]
    | cons next front =>
        have noValueThere := (valueFollows_front shape).trans noValue
        simp only [valueFollows] at noValueThere
        simp only [returnStatement, allowed, noValueThere, Bool.not_true, Bool.false_eq_true,
          if_false]
  simp only [stops, ok_bind]
  exact .ok (.whole shape cut)

/-- A loop that is cut misses its end at least. -/
private theorem fronts_forLoop
    {bound : Expr}
    {body : Block}
    {key : String}
    {position keyPosition linkPosition : Position}
    {after : List Token}
    (iterable : checkBound bound = .ok ())
    (boundReads : ReadsCondition grammar scope tokens bound rest)
    (bodyFronts :
      Fronts rest after
        (block · grammar { place with inLoop := true }
          ((scope.push "for loop").define key ⟨false, keyPosition⟩))
        (body, ·) Never) :
    Fronts (.name key keyPosition :: .name "in" linkPosition :: tokens) after
      (forLoop · grammar place scope position)
      (.forEach ⟨key, keyPosition⟩ bound body position, ·) Never :=
  .of_step (fun _ => rfl) fun front missing shape cut budget behind => by
    simp only [forLoop]
    refine (EarlyOr.name shape cut _).bindFirm fun afterKey left cut => ?_
    refine (EarlyOr.name left cut _).bindFirm fun afterLink left cut => ?_
    simp only [ne_eq, not_true_eq_false, if_false]
    refine (boundReads.fronts _ _ missing left cut budget _).bindFirm fun afterBound left cut => ?_
    simp only [iterable, ok_bind, declare_push]
    exact (bodyFronts _ missing left cut budget _).bindFirm fun after left cut =>
      .ok (.whole left cut)

end Statements

mutual

/-- A statement that is cut is missed, read in whole, or read in part. -/
theorem ReadsStmt.fronts
    {place : Place}
    {scope inside : Scope}
    {tokens rest : List Token}
    {value : Stmt}
    (reads : ReadsStmt grammar place scope tokens value inside rest) :
    Fronts tokens rest (statement · grammar place scope) (value, inside, ·) (StmtPart value) :=
  .of_taken (fun _ => rfl) statement_of_ended <| match reads with
    | .declare isKeyword isSign new inner => by
        intro token front missing started cut budget behind
        obtain ⟨rfl, shape⟩ := List.cons_eq_cons.mp started
        obtain ⟨spelling, position, rfl⟩ := eq_mark_of_kind isKeyword
        cases ‹Bool› <;>
          exact fronts_declaration _ isSign new inner front missing shape cut.of_cons budget _
    | .assignNew isSign lenient new inner => by
        intro token front missing started cut budget behind
        obtain ⟨rfl, shape⟩ := List.cons_eq_cons.mp started
        obtain ⟨front, rfl, shapeThere⟩ := cut.exists_cons shape
        simp only [statement, TokenCursor.next_cons, ok_bind, nameStatement, TokenCursor.kind,
          isSign, TokenCursor.skip_cons]
        exact fronts_assignNew lenient new inner front missing shapeThere cut.of_cons.of_cons
          budget _
    | .assignOld isSign known isMutable inner => by
        intro token front missing started cut budget behind
        obtain ⟨rfl, shape⟩ := List.cons_eq_cons.mp started
        obtain ⟨front, rfl, shapeThere⟩ := cut.exists_cons shape
        simp only [statement, TokenCursor.next_cons, ok_bind, nameStatement, TokenCursor.kind,
          isSign, TokenCursor.skip_cons]
        exact fronts_assignOld known isMutable inner front missing shapeThere cut.of_cons.of_cons
          budget _
    | .call opens arguments operation => by
        intro token front missing started cut budget behind
        obtain ⟨rfl, shape⟩ := List.cons_eq_cons.mp started
        have opensThere := cut.nextKind_eq shape opens
        simp only [statement, TokenCursor.next_cons, ok_bind, nameStatement, TokenCursor.kind_eq,
          opensThere]
        refine (arguments.fronts front missing shape cut.of_cons budget _).bindFirm
          fun after left cut => ?_
        exact (operation.fronts _ missing left cut budget _).toStmt .expr (fun _ _ => rfl)
          fun _ => rfl
    | .operate isOperator visible operation => by
        intro token front missing started cut budget behind
        obtain ⟨rfl, shape⟩ := List.cons_eq_cons.mp started
        obtain ⟨binding, found⟩ := Option.isSome_iff_exists.mp visible
        have isOperatorThere := cut.nextKind_eq shape isOperator
        simp only [statement, TokenCursor.next_cons, ok_bind, nameStatement, TokenCursor.kind_eq,
          isOperatorThere, visibleName, found]
        exact (operation.fronts front missing shape cut.of_cons budget _).toStmt .expr
          (fun _ _ => rfl) fun _ => rfl
    | .choice isKeyword first others => by
        have firstFronts := first.fronts
        intro token front missing started cut budget behind
        obtain ⟨rfl, shape⟩ := List.cons_eq_cons.mp started
        obtain ⟨spelling, position, rfl⟩ := eq_mark_of_kind isKeyword
        rw [statement, TokenCursor.next_cons, ok_bind]
        refine (firstFronts front missing shape cut.of_cons budget _).bindFirm
          fun afterFirst left cut => ?_
        refine (others.fronts _ missing left cut budget _).bindLoose (fun after left cut => ?_) ?_
        · exact .ok (.whole left cut)
        · rintro ⟨part, after⟩ beyond ⟨ended, calls⟩
          refine .ok (.less beyond ⟨ended, ?_⟩)
          simp only [Stmt.calls, Branch.callsAll]
          exact List.append_subset.mpr
            ⟨List.subset_append_left .., List.subset_append_of_subset_right _ calls⟩
    | .forEach isKeyword iterable bound body => by
        intro token front missing started cut budget behind
        obtain ⟨rfl, shape⟩ := List.cons_eq_cons.mp started
        obtain ⟨spelling, position, rfl⟩ := eq_mark_of_kind isKeyword
        rw [statement, TokenCursor.next_cons, ok_bind]
        exact (fronts_forLoop iterable bound body.fronts front missing shape cut.of_cons budget
          _).bindFirm fun after left cut => .ok (.whole left cut)
    | .whileLoop isKeyword test body => by
        intro token front missing started cut budget behind
        obtain ⟨rfl, shape⟩ := List.cons_eq_cons.mp started
        obtain ⟨spelling, position, rfl⟩ := eq_mark_of_kind isKeyword
        rw [statement, TokenCursor.next_cons, ok_bind]
        refine (test.fronts _ front missing shape cut.of_cons budget _).bindFirm
          fun afterTest left cut => ?_
        exact (body.fronts _ missing left cut budget _).bindFirm fun after left cut =>
          .ok (.whole left cut)
    | .returnNothing isKeyword allowed noValue => by
        intro token front missing started cut budget behind
        obtain ⟨rfl, shape⟩ := List.cons_eq_cons.mp started
        obtain ⟨spelling, position, rfl⟩ := eq_mark_of_kind isKeyword
        exact fronts_returnNothing allowed noValue front missing shape cut.of_cons budget _
    | .returnValue isKeyword allowed hasValue inner => by
        intro token front missing started cut budget behind
        obtain ⟨rfl, shape⟩ := List.cons_eq_cons.mp started
        obtain ⟨spelling, position, rfl⟩ := eq_mark_of_kind isKeyword
        exact fronts_return allowed hasValue inner front missing shape cut.of_cons budget _
    | .control isKeyword allowed => by
        intro token front missing started cut budget behind
        obtain ⟨rfl, shape⟩ := List.cons_eq_cons.mp started
        obtain ⟨spelling, position, rfl⟩ := eq_mark_of_kind isKeyword
        cases ‹LoopControl› <;>
          simp only [LoopControl.keyword, statement, TokenCursor.next_cons, ok_bind, loopControl,
            allowed, if_true] <;>
          exact .ok (.whole shape cut.of_cons)
termination_by structural reads

/-- A branch that is cut misses its end at least. -/
theorem ReadsBranch.fronts
    {place : Place}
    {scope : Scope}
    {position : Position}
    {context : String}
    {tokens rest : List Token}
    {value : Branch}
    (reads : ReadsBranch grammar place scope position context tokens value rest) :
    Fronts tokens rest (branch · grammar place scope position context) (value, ·) Never :=
  .of_step (fun _ => rfl) <| match reads with
    | .mk test body => fun front missing shape cut budget behind => by
        rw [branch]
        refine (test.fronts _ front missing shape cut budget _).bindFirm
          fun afterTest left cut => ?_
        exact (body.fronts _ missing left cut budget _).bindFirm fun after left cut =>
          .ok (.whole left cut)
termination_by structural reads

/-- Alternatives may be cut between two branches. -/
theorem ReadsAlternatives.fronts
    {place : Place}
    {scope : Scope}
    {tokens rest : List Token}
    {values : List Branch}
    (reads : ReadsAlternatives grammar place scope tokens values rest) :
    Fronts tokens rest (alternatives · grammar place scope) (values, ·) (BranchesPart values) :=
  .of_step (fun _ => rfl) <| match reads with
    | .elseIf isKeyword next others => fun front missing shape cut budget behind => by
        have nextShorter := next.shorter
        have othersShorter := others.notLonger
        rcases List.cons_eq_append_iff.mp shape with ⟨rfl, rfl⟩ | ⟨front, rfl, shapeThere⟩
        · refine .ok (.less ?_ ⟨rfl, List.nil_subset _⟩)
          simp only [sizeAll_cons]
          omega
        · simp only [alternatives, conditionalElse?, TokenCursor.accept?_cons _ _ isKeyword,
            TokenCursor.position]
          refine (next.fronts front missing shapeThere cut.of_cons budget _).bindFirm
            fun afterNext left cut => ?_
          exact (others.fronts _ missing left cut budget _).consBranch
    | .elseThenIf isElse isIf next others => fun front missing shape cut budget behind => by
        have nextShorter := next.shorter
        have othersShorter := others.notLonger
        rcases List.cons_eq_append_iff.mp shape with ⟨rfl, rfl⟩ | ⟨front, rfl, shapeThere⟩
        · refine .ok (.less ?_ ⟨rfl, List.nil_subset _⟩)
          simp only [sizeAll_cons]
          omega
        · rcases List.cons_eq_append_iff.mp shapeThere with ⟨rfl, rfl⟩ | ⟨front, rfl, left⟩
          · -- The `if` of the pair is missing, so that a body without a condition is wanted.
            have noConditional := conditionalElse?_of_else behind isElse
              (show nextKind [] ≠ .keyword .ifWord by simp)
            simp only [alternatives, noConditional, TokenCursor.accept?_cons _ _ isElse]
            exact (block_of_ended budget _).bindNever
          · simp only [alternatives, conditionalElse?, TokenCursor.accept?, isElse, isIf,
              TokenCursor.kind, TokenCursor.secondKind, TokenCursor.skip_cons,
              TokenCursor.position, TokenKind.mark.injEq, Mark.keyword.injEq, reduceCtorEq,
              if_false, decide_true, Bool.and_self, if_true]
            refine (next.fronts front missing left cut.of_cons.of_cons budget _).bindFirm
              fun afterNext left cut => ?_
            exact (others.fronts _ missing left cut budget _).consBranch
    | .otherwise isElse noIf body => fun front missing shape cut budget behind => by
        have bodyShorter := body.shorter
        rcases List.cons_eq_append_iff.mp shape with ⟨rfl, rfl⟩ | ⟨front, rfl, shapeThere⟩
        · refine .ok (.less ?_ ⟨rfl, List.nil_subset _⟩)
          simp only [sizeAll_cons]
          omega
        · have noConditional := conditionalElse?_of_else behind isElse
            (nextKind_front_ne shapeThere noIf)
          simp only [alternatives, noConditional, TokenCursor.accept?_cons _ _ isElse,
            TokenCursor.position]
          exact (body.fronts front missing shapeThere cut.of_cons budget _).bindFirm
            fun after left cut => .ok (.whole left cut)
    | .none noElseIf noElse => fun front missing shape cut budget behind => by
        have noConditional := conditionalElse?_of_other behind (nextKind_front_ne shape noElseIf)
          (nextKind_front_ne shape noElse)
        simp only [alternatives, noConditional,
          TokenCursor.accept?_eq_none _ (nextKind_front_ne shape noElse)]
        exact .ok (.whole shape cut)
termination_by structural reads

/-- A block that is cut misses its end at least. -/
theorem ReadsBlock.fronts
    {place : Place}
    {scope : Scope}
    {tokens rest : List Token}
    {value : Block}
    (reads : ReadsBlock grammar place scope tokens value rest) :
    Fronts tokens rest (block · grammar place scope) (value, ·) Never :=
  .of_step (fun _ => rfl) <| match reads with
    | .mk opens closes statements => fun front missing shape cut budget behind => by
        rw [block]
        refine (EarlyOr.want shape cut opens _).bindFirm fun afterOpening left cut => ?_
        refine (statements.fronts _ missing left cut budget _).bindLoose
          (fun after left cut => ?_) ?_
        · exact (EarlyOr.want left cut closes _).bindFirm fun after left cut =>
            .ok (.whole left cut)
        · rintro ⟨part, after⟩ - ended
          exact (EarlyOr.want_of_ended ended _ _).bindNever
termination_by structural reads

/-- Statements may be cut between two of them, or in one of which a part remains. -/
theorem ReadsStmts.fronts
    {place : Place}
    {scope : Scope}
    {tokens rest : List Token}
    {values : List Stmt}
    (reads : ReadsStmts grammar place scope tokens values rest) :
    Fronts tokens rest (blockStatements · grammar place scope) (values, ·) StmtsPart :=
  .of_step (fun _ => rfl) <| match reads with
    | .nil ends => fun front missing shape cut budget behind => by
        have endsThere : nextKind front = .separator .rightBrace ∨ front = [] := by
          cases front with
          | nil =>
              exact .inr rfl
          | cons token front =>
              rw [shape] at ends
              exact .inl (ends.resolve_right (by simp))
        simp only [blockStatements, TokenCursor.kind_eq, TokenCursor.atEnd]
        rw [if_pos (by simpa using endsThere)]
        exact .ok (.whole shape cut)
    | .cons starts notEmpty first others => fun front missing shape cut budget behind => by
        have firstShorter := first.shorter
        have othersShorter := others.notLonger
        by_cases ended : front = []
        · subst ended
          refine (blockStatements_of_ended rfl _).of_imp ?_
          rintro _ rfl
          refine .less ?_ rfl
          rw [List.nil_append] at shape
          rw [shape] at firstShorter
          omega
        · simp only [blockStatements, TokenCursor.kind_eq, TokenCursor.atEnd,
            nextKind_front_ne shape starts, decide_false, Bool.false_or, List.isEmpty_iff, ended,
            if_false]
          refine (first.fronts front missing shape cut budget _).bindLoose
            (fun between left cut => ?_) ?_
          · refine (others.fronts _ missing left cut budget _).bindLoose
              (fun after left cut => .ok (.whole left cut)) ?_
            rintro ⟨part, after⟩ beyond isEnded
            exact .ok (.less beyond isEnded)
          · rintro ⟨part, inner, between⟩ beyond ⟨isEnded, -⟩
            refine (blockStatements_of_ended isEnded budget).bind ?_
            rintro _ rfl
            exact .ok (.less (by omega) isEnded)
termination_by structural reads

end

/-- A list of parameters that is cut misses its closing parenthesis at least. -/
theorem ReadsNames.fronts
    {tokens rest : List Token}
    {names : List Identifier}
    (reads : ReadsNames tokens names rest)
    (function : String) :
    Fronts tokens rest (parameterList · function) (names, ·) Never := by
  induction reads with
  | @last text position closing after closes =>
      refine .of_step (fun _ => rfl) fun front missing shape cut budget behind => ?_
      have noComma : nextKind (closing :: after) ≠ .separator .comma := by simp [closes]
      rw [parameterList]
      refine (EarlyOr.name shape cut _).bindFirm fun afterName left cut => ?_
      simp only [TokenCursor.accept?_eq_none afterName.behind (nextKind_front_ne left noComma)]
      exact (EarlyOr.want left cut closes _).bindFirm fun after left cut => .ok (.whole left cut)
  | more isComma others inductionHypothesis =>
      refine .of_step (fun _ => rfl) fun front missing shape cut budget behind => ?_
      rw [parameterList]
      refine (EarlyOr.name shape cut _).bindFirm fun afterName left cut => ?_
      rcases afterName with ⟨behind, ahead⟩
      rcases List.cons_eq_append_iff.mp left with ⟨rfl, -⟩ | ⟨ahead, rfl, leftThere⟩
      · exact (EarlyOr.want_of_ended rfl _ _).bindNever
      · simp only [TokenCursor.accept?_cons _ _ isComma]
        exact (inductionHypothesis ahead missing leftThere cut.of_cons budget _).bindFirm
          fun after left cut => .ok (.whole left cut)

/-- The parameters of a function that are cut miss their closing parenthesis at least. -/
theorem ReadsParameters.fronts
    {tokens rest : List Token}
    {names : List Identifier}
    (reads : ReadsParameters tokens names rest)
    (function : String) :
    Fronts tokens rest (parameters · function) (names, ·) Never := by
  intro front missing shape cut budget behind
  cases reads with
  | empty opens closes =>
      refine (EarlyOr.want shape cut opens _).bindFirm fun afterOpening left cut => ?_
      rcases afterOpening with ⟨behind, ahead⟩
      rcases List.cons_eq_append_iff.mp left with ⟨rfl, -⟩ | ⟨ahead, rfl, leftThere⟩
      · cases budget <;> exact .early rfl
      · simp only [TokenCursor.accept?_cons _ _ closes]
        exact .ok (.whole leftThere cut.of_cons)
  | @names tokens _ _ opening opens inner =>
      have notEmpty : nextKind tokens ≠ .separator .rightParen := by simp [inner.nextKind_eq]
      refine (EarlyOr.want shape cut opens _).bindFirm fun afterOpening left cut => ?_
      simp only [TokenCursor.accept?_eq_none afterOpening.behind (nextKind_front_ne left notEmpty)]
      exact inner.fronts function _ missing left cut budget _

/-- Less than an item, at the end of the tokens; what it declares is no function. -/
def ItemPart (known : Declarations) (value : Item) (read : Item × Declarations × TokenCursor) :
    Prop :=
  read.2.2.ahead = [] ∧ read.1.calls ⊆ value.calls ∧ read.2.1.functions = known.functions

/-- A function that is cut misses its end at least, and is not defined in the front. -/
private theorem fronts_function
    {known : Declarations}
    {inside : Scope}
    {text : String}
    {position place : Position}
    {names : List Identifier}
    {body : Block}
    {tokens rest after : List Token}
    (new : known.functions[text]? = none)
    (declares : declareAll (known.scope.push ("function " ++ text)) names = .ok inside)
    (namesRead : ReadsParameters tokens names rest)
    (bodyReads : ReadsBlock grammar ⟨true, false⟩ inside rest body after) :
    Fronts (.name text position :: tokens) after (functionDefinition · grammar known place)
      (⟨⟨text, position⟩, names, body, place⟩, ·) Never := by
  intro front missing shape cut budget behind
  refine (EarlyOr.name shape cut _).bindFirm fun afterName left cut => ?_
  simp only [newFunction, new, ok_bind]
  refine (namesRead.fronts _ _ missing left cut budget _).bindFirm fun afterNames left cut => ?_
  simp only [functionBody, declares, ok_bind]
  refine EarlyOr.bindFirm (EarlyOr.mapError (bodyReads.fronts _ missing left cut budget _)
    fun _ => rfl) fun after left cut => ?_
  exact .ok (.whole left cut)

/-- An item gets through every front that is not empty. -/
theorem ReadsItem.fronts
    {known between : Declarations}
    {tokens rest front missing : List Token}
    {value : Item}
    (reads : ReadsItem grammar known tokens value between rest)
    (shape : tokens = front ++ missing)
    (cut : Cut front missing)
    (notEmpty : front ≠ [])
    (budget : Nat)
    (behind : List Token) :
    EarlyOr (Passes missing rest (value, between, ·) (ItemPart between value))
      (item budget grammar known ⟨behind, front⟩) := by
  obtain ⟨first, front, rfl⟩ := List.exists_cons_of_ne_nil notEmpty
  cases reads with
  | function isKeyword new declares names body =>
      obtain ⟨rfl, left⟩ := List.cons_eq_cons.mp shape
      simp only [item, TokenCursor.kind, isKeyword, TokenCursor.skip_cons, TokenCursor.position]
      exact (fronts_function new declares names body front missing left cut.of_cons budget
        _).bindFirm fun after left cut => .ok (.whole left cut)
  | type isKeyword new =>
      obtain ⟨rfl, left⟩ := List.cons_eq_cons.mp shape
      simp only [item, TokenCursor.kind, isKeyword, TokenCursor.skip_cons, TokenCursor.position]
      refine (EarlyOr.name left cut.of_cons _).bindFirm fun after left cut => ?_
      simp only [declare, new, ok_bind]
      exact .ok (.whole left cut)
  | statement inner =>
      have starts := inner.starts
      rw [shape] at starts
      simp only [item, TokenCursor.kind]
      split
      · next isFunction =>
          simp [isFunction, startsStatement] at starts
      · next isType =>
          simp [isType, startsStatement] at starts
      · refine (inner.fronts _ missing shape cut budget behind).bindLoose
          (fun after left cut => .ok (.whole left cut)) ?_
        rintro ⟨part, scope, after⟩ beyond ⟨ended, calls⟩
        exact .ok (.less beyond ⟨ended, calls, rfl⟩)

end Parser

open Scripting.Parser Token

/-- Among items that are written with tokens, a function is defined whose definition is not wholly
in a front of the tokens. -/
def DefinedBeyond (items : List Item) (tokens front : List Token) (name : String) : Prop :=
  ∃ before declaration after beforeTokens own afterTokens,
    items = before ++ .function declaration :: after ∧
      tokens = beforeTokens ++ (own ++ afterTokens) ∧
      DerivesItems (own ++ afterTokens).head? before beforeTokens ∧
      DerivesItem afterTokens.head? (.function declaration) own ∧
      DerivesItems none after afterTokens ∧
      declaration.name.text = name ∧ ¬beforeTokens ++ own <+: front

/-- What is defined beyond the front of the later items is defined beyond the front of all. -/
theorem DefinedBeyond.cons
    {first : Item}
    {others : List Item}
    {firstTokens othersTokens front othersFront : List Token}
    {name : String}
    (derives : DerivesItem othersTokens.head? first firstTokens)
    (beyond : DefinedBeyond others othersTokens othersFront name)
    (within : front <+: firstTokens ++ othersFront) :
    DefinedBeyond (first :: others) (firstTokens ++ othersTokens) front name := by
  obtain ⟨before, declaration, after, beforeTokens, own, afterTokens, rfl, rfl, beforeDerive,
    ownDerives, afterDerive, named, notWithin⟩ := beyond
  rw [List.head?_append] at derives
  refine ⟨first :: before, declaration, after, firstTokens ++ beforeTokens, own, afterTokens, rfl,
    by simp, .cons derives beforeDerive, ownDerives, afterDerive, named, fun inFront => ?_⟩
  have inOthers := inFront.trans within
  rw [List.append_assoc, List.prefix_append_right_inj] at inOthers
  exact notWithin inOthers

namespace Parser

variable {grammar : Grammar} {known between final : Declarations}
variable {tokens rest : List Token} {values : List Item}

/-- Every function after items is known before them, or defined beyond the empty front. -/
theorem ReadsItems.functions_beyond
    (reads : ReadsItems grammar known tokens values final)
    {name : String}
    {signature : Signature}
    (found : final.functions[name]? = some signature) :
    known.functions[name]? = some signature ∨
      known.functions[name]? = none ∧ DefinedBeyond values tokens [] name := by
  induction reads with
  | nil =>
      exact .inl found
  | @cons known tokens first between rest others final firstReads othersRead inductionHypothesis =>
      obtain ⟨taken, rfl, derives⟩ := firstReads.derives
      have later :
          DefinedBeyond others rest [] name →
            DefinedBeyond (first :: others) (taken ++ rest) [] name :=
        fun beyond => beyond.cons derives (List.nil_prefix)
      rcases firstReads.functions_eq with
        ⟨declaration, rfl, free, functionsEq⟩ | ⟨-, functionsEq⟩
      · by_cases same : declaration.name.text = name
        · refine .inr ⟨same ▸ free, [], declaration, others, [], taken, rest, rfl, rfl, .nil,
            derives, othersRead.derives, same, ?_⟩
          cases derives
          simp
        · have sameThere : between.functions[name]? = known.functions[name]? := by
            rw [functionsEq, Std.ExtTreeMap.getElem?_insert, if_neg (by simpa using same)]
          rw [sameThere] at inductionHypothesis
          exact (inductionHypothesis found).imp_right fun ⟨missing, beyond⟩ =>
            ⟨missing, later beyond⟩
      · rw [functionsEq] at inductionHypothesis
        exact (inductionHypothesis found).imp_right fun ⟨missing, beyond⟩ =>
          ⟨missing, later beyond⟩

/-- What reading the items of a front leads to: an early end, or items with no other calls than
all items have, and with the same functions up to those that are defined beyond the front. -/
inductive FrontRead (final : Declarations) (values : List Item) (tokens front : List Token) :
    Declarations × Except SyntaxError (List Item) → Prop where
  | early {known : Declarations} {error : SyntaxError} (endsEarly : error.endsEarly = true) :
      FrontRead final values tokens front (known, .error error)
  | ok {known : Declarations} {parts : List Item}
      (calls : parts.flatMap Item.calls ⊆ values.flatMap Item.calls)
      (functions :
        ∀ name signature, final.functions[name]? = some signature →
          known.functions[name]? = some signature ∨
            known.functions[name]? = none ∧ DefinedBeyond values tokens front name) :
      FrontRead final values tokens front (known, .ok parts)

namespace FrontRead

/-- At the end of the tokens no item is read. -/
theorem of_ended
    {left : Declarations}
    (reads : ReadsItems grammar known tokens values final)
    (same : left.functions = known.functions)
    (budget : Nat)
    (behind : List Token) :
    FrontRead final values tokens [] (items budget grammar left ⟨behind, []⟩) := by
  cases budget with
  | zero =>
      exact .early rfl
  | succ budget =>
      refine .ok (List.nil_subset _) fun name signature found => ?_
      rw [same]
      exact reads.functions_beyond found

/-- One more item is read before others. -/
theorem cons
    {first part : Item}
    {firstTokens front othersFront : List Token}
    {known : Declarations}
    {parts : List Item}
    (othersRead : FrontRead final values tokens othersFront (known, .ok parts))
    (derives : DerivesItem tokens.head? first firstTokens)
    (within : front <+: firstTokens ++ othersFront)
    (calls : part.calls ⊆ first.calls) :
    FrontRead final (first :: values) (firstTokens ++ tokens) front
      (known, .ok (part :: parts)) := by
  cases othersRead with
  | ok othersCalls functions =>
      refine .ok ?_ fun name signature found => ?_
      · simp only [List.flatMap_cons, List.append_subset]
        exact ⟨List.subset_append_of_subset_left _ calls,
          List.subset_append_of_subset_right _ othersCalls⟩
      · refine (functions name signature found).imp_right (And.imp_right fun beyond => ?_)
        exact beyond.cons derives within

end FrontRead

/-- If less is left than is missing, the front lies within what has been taken. -/
theorem prefix_of_sizeAll_lt
    {taken rest front missing : List Token}
    (same : taken ++ rest = front ++ missing)
    (beyond : sizeAll rest < sizeAll missing) :
    front <+: taken := by
  rcases List.append_eq_append_iff.mp same with ⟨between, rfl, rfl⟩ | ⟨between, rfl, rfl⟩
  · rw [sizeAll_append] at beyond
    omega
  · exact List.prefix_append ..

/-- The parser reads every front of what the rules read, except for what is missing. -/
theorem ReadsItems.fronts
    {front missing : List Token}
    (reads : ReadsItems grammar known tokens values final)
    (shape : tokens = front ++ missing)
    (cut : Cut front missing)
    (budget : Nat)
    (behind : List Token) :
    FrontRead final values tokens front (items budget grammar known ⟨behind, front⟩) := by
  induction reads generalizing front budget behind with
  | nil =>
      obtain ⟨rfl, -⟩ := List.append_eq_nil_iff.mp shape.symm
      exact .of_ended .nil rfl budget behind
  | @cons known tokens first between rest others final firstReads othersRead inductionHypothesis =>
      by_cases ended : front = []
      · subst ended
        exact .of_ended (.cons firstReads othersRead) rfl budget behind
      · cases budget with
        | zero =>
            exact .early rfl
        | succ budget =>
            obtain ⟨taken, rfl, derives⟩ := firstReads.derives
            -- Whether the first item is read to its end or not, the others are read after it.
            have firstRead : EarlyOr
                (fun read => read.1.calls ⊆ first.calls ∧
                  ∃ othersFront, front <+: taken ++ othersFront ∧
                    FrontRead final others rest othersFront
                      (items budget grammar read.2.1 read.2.2))
                (item budget grammar known ⟨behind, front⟩) := by
              refine (firstReads.fronts shape cut ended budget behind).of_imp ?_
              rintro _ (⟨left, cutAfter⟩ | ⟨beyond, isEnded, calls, same⟩)
              · rw [left, ← List.append_assoc, List.append_cancel_right_eq] at shape
                exact ⟨List.Subset.refl _, _, shape ▸ List.prefix_rfl,
                  inductionHypothesis left cutAfter budget _⟩
              · next read =>
                rcases read with ⟨part, left, behind, ahead⟩
                cases isEnded
                exact ⟨calls, [], (prefix_of_sizeAll_lt shape beyond).trans (List.prefix_append ..),
                  .of_ended othersRead same budget behind⟩
            simp only [items, TokenCursor.atEnd, List.isEmpty_iff, ended, if_false]
            generalize item budget grammar known ⟨behind, front⟩ = outcome at firstRead ⊢
            rcases outcome with error | ⟨part, left, after⟩
            · cases firstRead with
              | early endsEarly =>
                  exact .early endsEarly
            · obtain ⟨calls, othersFront, within, othersFrontRead⟩ := firstRead.of_ok
              dsimp only at calls othersFrontRead ⊢
              generalize items budget grammar left after = read at othersFrontRead ⊢
              rcases read with ⟨known, error | parts⟩
              · cases othersFrontRead with
                | early endsEarly =>
                    exact .early endsEarly
              · exact othersFrontRead.cons derives within calls

/-- Calls that are resolved with some functions pass the check with others, or one of them names a
function that is missing. -/
theorem checkCalls_of_missing
    {functions others : Signatures}
    {calls : List CallSite}
    {Missing : String → Prop}
    (resolve : functions.Resolve calls)
    (same :
      ∀ name signature, functions[name]? = some signature →
        others[name]? = some signature ∨ others[name]? = none ∧ Missing name) :
    checkCalls others calls = .ok () ∨
      ∃ call ∈ calls, Missing call.function.text ∧
        checkCalls others calls =
          .error (.rule call.function.position (.undefinedFunction call.function.text)) := by
  induction calls with
  | nil =>
      exact .inl rfl
  | cons first rest inductionHypothesis =>
      obtain ⟨signature, found, sameArity⟩ := resolve first (by simp)
      rcases same _ _ found with foundThere | ⟨notFound, isMissing⟩
      · have firstChecked := checkCall_of_resolved ⟨signature, foundThere, sameArity⟩
        simp only [checkCalls, firstChecked, ok_bind]
        refine (inductionHypothesis fun call isIn => resolve call (by simp [isIn])).imp_right ?_
        rintro ⟨call, isIn, isMissing, refused⟩
        exact ⟨call, by simp [isIn], isMissing, refused⟩
      · refine .inr ⟨first, by simp, isMissing, ?_⟩
        simp only [checkCalls, checkCall, notFound]
        rfl

end Parser

/-- The front of an accepted sequence is never refused as malformed.  If it is refused, it ends
early, or it has a call of a function whose definition is not wholly in it. -/
theorem accepted_front_is_not_malformed
    {grammar : Grammar}
    {known : Declarations}
    {tokens front : List Token}
    {file : File}
    (accepted : (parseTokens grammar known tokens).outcome = .ok file)
    (isFront : front <+: tokens)
    (noName : ∀ last ∈ front.getLast?, last.kind ≠ .name)
    {error : SyntaxError}
    (refused : (parseTokens grammar known front).outcome = .error error) :
    error.endsEarly = true ∨
      ∃ call ∈ file.calls,
        error = .rule call.function.position (.undefinedFunction call.function.text) ∧
          DefinedBeyond file.items tokens front call.function.text := by
  obtain ⟨final, reads, -, -, resolved⟩ := parseTokens_eq_ok accepted
  obtain ⟨missing, shape⟩ := isFront
  have frontRead := reads.fronts shape.symm (fun _ => noName) (budgetFor front) []
  simp only [parseTokens, TokenCursor.ofTokens] at refused
  generalize items (budgetFor front) grammar known ⟨[], front⟩ = read at frontRead refused
  cases frontRead with
  | early endsEarly =>
      cases refused
      exact .inl endsEarly
  | ok calls functions =>
      have resolvedParts := fun call isIn => resolved call (calls isIn)
      rcases checkCalls_of_missing resolvedParts functions with
        checked | ⟨call, isIn, beyond, unchecked⟩
      · simp only [File.calls, checked] at refused
        cases refused
      · simp only [File.calls, unchecked] at refused
        cases refused
        exact .inr ⟨call, calls isIn, rfl, beyond⟩

/-- A script that calls a function before it is defined. -/
def callingScript : String :=
  "later(1)\nfun later(n) \x7b return n \x7d"

/-- The first four tokens of the script, which are the call, end with no name and are refused. -/
theorem callingScript_front :
    ∃ tokens file error, scan "main" callingScript = .ok tokens ∧
      (parseTokens ⟨false, true⟩ .empty tokens).outcome = .ok file ∧
      (parseTokens ⟨false, true⟩ .empty (tokens.take 4)).outcome = .error error ∧
      (error.endsEarly = true ∨
        ∃ call ∈ file.calls,
          error = .rule call.function.position (.undefinedFunction call.function.text) ∧
            DefinedBeyond file.items tokens (tokens.take 4) call.function.text) := by
  have isOk : (parse ⟨false, true⟩ .empty "main" callingScript).outcome.isOk = true := by
    decide +kernel
  have frontRefused :
      (scan "main" callingScript).toOption.all (fun tokens =>
        (tokens.take 4).getLast?.all (·.kind ≠ .name) &&
          !(parseTokens ⟨false, true⟩ .empty (tokens.take 4)).outcome.isOk) = true := by
    decide +kernel
  obtain ⟨tokens, file, scanned, accepted⟩ := exists_of_isOk isOk
  simp only [scanned, Except.toOption, Option.all_some, Bool.and_eq_true, Bool.not_eq_true',
    Option.all_eq_true, decide_eq_true_eq] at frontRefused
  obtain ⟨noName, isError⟩ := frontRefused
  cases refused : (parseTokens ⟨false, true⟩ .empty (tokens.take 4)).outcome with
  | ok part =>
      rw [refused] at isError
      cases isError
  | error error =>
      exact ⟨tokens, file, error, scanned, accepted, refused,
        accepted_front_is_not_malformed accepted (List.take_prefix ..) noName refused⟩

end Scripting
