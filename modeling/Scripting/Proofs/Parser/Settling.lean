import Scripting.Proofs.Parser.Following
import Scripting.Proofs.Token.Unbounded

namespace Scripting

/-!
# The parser stops

Wherever its index is in a sequence of tokens, every program of the parser is over after some steps.
The index has then moved on and is still not beyond the end, and a token has been taken for a
statement, an expression or an operand.  A program ends as the function with a budget does, if the
budget is large enough, and never with an error that is discarded.
-/

namespace Parser.Unbounded

open Token Program

variable {Result Found : Type} {cursor rest : TokenCursor} {least : Nat}

/-- With a budget of eight steps for each token and some more, an action follows a reading. -/
def FollowsWith (shape : Result → TokenCursor → Found) (extra least budget : Nat)
    (action : Action Result)
    (reading : Nat → TokenCursor → Except SyntaxError Found) : Prop :=
  ∀ cursor : TokenCursor,
    8 * sizeAll cursor.ahead + extra ≤ budget →
      Follows shape least action cursor (reading budget cursor)

/-- A task is followed where its program is. -/
theorem FollowsWith.of_step
    (task : Task)
    {shape : task.Answer → TokenCursor → Found}
    {extra budget : Nat}
    {reading : Nat → TokenCursor → Except SyntaxError Found}
    (steps :
      ∀ cursor : TokenCursor,
        8 * sizeAll cursor.ahead + extra ≤ budget + 1 →
          Follows shape least (body task) cursor (reading (budget + 1) cursor)) :
    FollowsWith shape extra least (budget + 1) (.ask task) reading :=
  fun cursor enough => (steps cursor enough).ask

/-- No budget is enough for a reading that takes a step, so there is nothing to follow. -/
theorem FollowsWith.zero
    {shape : Result → TokenCursor → Found}
    {extra : Nat}
    {action : Action Result}
    {reading : Nat → TokenCursor → Except SyntaxError Found}
    (positive : 0 < extra) :
    FollowsWith shape extra least 0 action reading := by
  intro cursor enough
  omega

/-- How the programs for expressions follow the functions with a budget. -/
structure FollowsExprs (budget : Nat) : Prop where
  expr :
    ∀ grammar scope,
      FollowsWith Prod.mk 2 1 budget (expr grammar scope) (Parser.expr · grammar scope)
  operation :
    ∀ grammar scope bound left,
      FollowsWith Prod.mk 1 0 budget (operation grammar scope bound left)
        (Parser.operation · grammar scope bound left)
  operand :
    ∀ grammar scope,
      FollowsWith Prod.mk 1 1 budget (operand grammar scope) (Parser.operand · grammar scope)
  call :
    ∀ grammar scope function,
      FollowsWith Prod.mk 4 1 budget (call grammar scope function)
        (Parser.call · grammar scope function)
  exprList :
    ∀ grammar scope closing context,
      FollowsWith Prod.mk 3 1 budget (exprList grammar scope closing context)
        (Parser.exprList · grammar scope closing context)
  templateParts :
    ∀ grammar scope position parts cursor,
      8 * Part.sizeAll parts + 1 ≤ budget →
        Stays (templateParts grammar scope position parts) cursor
          (Parser.templateParts budget grammar scope position parts)
  interpolation :
    ∀ grammar scope position tokens cursor,
      8 * sizeAll tokens + 3 ≤ budget →
        Stays (interpolation grammar scope position tokens) cursor
          (inTemplate position (Parser.interpolation budget grammar scope tokens))

namespace FollowsExprs

variable {budget : Nat} (smaller : FollowsExprs budget)

include smaller

/-- An expression follows its operand and its operations. -/
private theorem expr_step (grammar : Grammar) (scope : Scope) :
    FollowsWith Prod.mk 2 1 (budget + 1) (Unbounded.expr grammar scope)
      (Parser.expr · grammar scope) := by
  refine .of_step (.expr grammar scope) fun cursor enough => ?_
  rw [Parser.expr]
  refine (smaller.operand grammar scope cursor (by omega)).bind fun left rest fewer => ?_
  exact smaller.operation grammar scope 0 left rest (by omega)

/-- An operation follows its right operand, or stops at once. -/
private theorem operation_step (grammar : Grammar) (scope : Scope) (bound : Nat) (left : Expr) :
    FollowsWith Prod.mk 1 0 (budget + 1) (Unbounded.operation grammar scope bound left)
      (Parser.operation · grammar scope bound left) := by
  refine .of_step (.operation grammar scope bound left) fun cursor enough => ?_
  rw [Parser.operation]
  refine .after comes_cursor ?_
  cases continued : tighterOperator? grammar bound cursor with
  | none =>
      exact .pure left
  | some operator =>
      rcases cursor with ⟨behind, _ | ⟨token, tokens⟩⟩
      · cases continued
      · simp only [sizeAll_cons] at enough
        have := token.size_pos
        -- The operator is there, and so the step over it, which nothing checks, is a good one.
        refine .after (comes_skip behind tokens token) ?_
        refine (smaller.operand grammar scope _ (by dsimp only; omega)).bind
          fun first rest afterFirst => ?_
        dsimp only at afterFirst
        refine (smaller.operation grammar scope _ first rest (by omega)).bind
          fun right rest afterRight => ?_
        exact smaller.operation grammar scope bound _ rest (by omega)

/-- An operand follows what its first token says. -/
private theorem operand_step (grammar : Grammar) (scope : Scope) :
    FollowsWith Prod.mk 1 1 (budget + 1) (Unbounded.operand grammar scope)
      (Parser.operand · grammar scope) := by
  refine .of_step (.operand grammar scope) fun cursor enough => ?_
  rw [Parser.operand]
  rcases cursor with ⟨behind, _ | ⟨token, tokens⟩⟩
  · exact .atEnd .anyToken "value"
  · simp only [sizeAll_cons] at enough
    rw [TokenCursor.next_cons, ok_bind]
    refine .after (comes_take rfl behind tokens "value") ?_
    have positive := token.size_pos
    cases token with
    | literal text value position =>
        exact .pure _
    | template parts position =>
        rw [size_template] at enough
        refine .still (smaller.templateParts grammar scope position parts _ (by omega))
          fun expressions => ?_
        exact .pure _
    | name text position =>
        refine .after comes_cursor ?_
        dsimp only
        split
        · exact (smaller.call grammar scope _ _ (by dsimp only; omega)).weaken (Nat.zero_le 1)
        · exact .checked _
    | mark fixed spelling position =>
        cases fixed with
        | keyword word =>
            cases word with
            | nullWord =>
                exact .pure _
            | _ =>
                exact .refused _
        | separator separator =>
            cases separator with
            | leftParen =>
                refine .bind (smaller.expr grammar scope _ (by dsimp only; omega))
                  fun inner rest afterInner => ?_
                refine .bind (follows_want _ _) fun _ _ _ => ?_
                exact .pure _
            | leftBracket =>
                refine .got (fun rest accepted _ => ?_) (fun refused => ?_)
                · simp only [accepted, if_true]
                  exact .pure _
                · simp only [refused]
                  refine .bind (smaller.exprList grammar scope _ _ _ (by dsimp only; omega))
                    fun elements rest _ => ?_
                  exact .pure _
            | _ =>
                exact .refused _
        | _ =>
            exact .refused _

/-- A call follows its arguments. -/
private theorem call_step (grammar : Grammar) (scope : Scope) (function : Identifier) :
    FollowsWith Prod.mk 4 1 (budget + 1) (Unbounded.call grammar scope function)
      (Parser.call · grammar scope function) := by
  refine .of_step (.call grammar scope function) fun cursor enough => ?_
  rw [Parser.call]
  refine .bind (follows_want _ _) fun _ rest afterOpening => ?_
  refine .got (fun rest accepted _ => ?_) (fun refused => ?_)
  · simp only [accepted, if_true]
    exact .pure _
  · simp only [refused]
    refine .bind (smaller.exprList grammar scope _ _ rest (by omega)) fun arguments _ _ => ?_
    exact .pure _

/-- A list of expressions follows its first expression, and then the others. -/
private theorem exprList_step
    (grammar : Grammar)
    (scope : Scope)
    (closing : Separator)
    (context : String) :
    FollowsWith Prod.mk 3 1 (budget + 1) (Unbounded.exprList grammar scope closing context)
      (Parser.exprList · grammar scope closing context) := by
  refine .of_step (.exprList grammar scope closing context) fun cursor enough => ?_
  rw [Parser.exprList]
  refine .bind (smaller.expr grammar scope cursor (by omega)) fun first rest afterFirst => ?_
  refine .got (fun rest accepted afterComma => ?_) (fun refused => ?_)
  · simp only [accepted, if_true]
    refine .bind (smaller.exprList grammar scope _ _ rest (by omega)) fun others _ _ => ?_
    exact .pure _
  · simp only [refused]
    refine .bind (follows_want _ _) fun _ _ _ => ?_
    exact .pure _

/-- The parts of a template leave the cursor where it is, one after another. -/
private theorem templateParts_step
    (grammar : Grammar)
    (scope : Scope)
    (position : Position)
    (parts : List Part)
    (cursor : TokenCursor)
    (enough : 8 * Part.sizeAll parts + 1 ≤ budget + 1) :
    Stays (Unbounded.templateParts grammar scope position parts) cursor
      (Parser.templateParts (budget + 1) grammar scope position parts) := by
  refine ends_ask ?_
  rcases parts with _ | ⟨text | tokens, others⟩
  · exact .done
  · simp only [Part.sizeAll, Part.size] at enough
    rw [Parser.templateParts]
    refine (smaller.templateParts grammar scope position others cursor (by omega)).bind
      fun expressions => ?_
    exact .done
  · simp only [Part.sizeAll, Part.size] at enough
    cases tokens with
    | nil =>
        exact .fail
    | cons token tokens =>
        simp only [Parser.templateParts]
        refine (smaller.interpolation grammar scope position _ cursor (by omega)).bind
          fun first => ?_
        refine (smaller.templateParts grammar scope position others cursor (by omega)).bind
          fun expressions => ?_
        exact .done

/-- An interpolation leaves the cursor around the template where it is. -/
private theorem interpolation_step
    (grammar : Grammar)
    (scope : Scope)
    (position : Position)
    (tokens : List Token)
    (cursor : TokenCursor)
    (enough : 8 * sizeAll tokens + 3 ≤ budget + 1) :
    Stays (Unbounded.interpolation grammar scope position tokens) cursor
      (inTemplate position (Parser.interpolation (budget + 1) grammar scope tokens)) := by
  have follows := smaller.expr grammar scope (.ofTokens tokens) (Nat.le_of_succ_le_succ enough)
  dsimp only at follows
  rw [Parser.interpolation]
  generalize Parser.expr budget grammar scope (.ofTokens tokens) = reading at follows ⊢
  cases follows with
  | @ok value rest comes =>
      have ends :
          Ends body (Unbounded.interpolation grammar scope position tokens) cursor.pointer
            (ofInterpolation position rest.pointer (.ok value)) cursor.pointer :=
        ends_interpolation comes.ends position
      rw [ofInterpolation_ok] at ends
      exact ends
  | error ends moves =>
      exact ends_interpolation ends position

end FollowsExprs

/-- The readings of expressions follow the programs with every budget. -/
theorem followsExprs (budget : Nat) : FollowsExprs budget := by
  induction budget with
  | zero =>
      exact
        { expr := fun _ _ => FollowsWith.zero (by decide)
          operation := fun _ _ _ _ => FollowsWith.zero (by decide)
          operand := fun _ _ => FollowsWith.zero (by decide)
          call := fun _ _ _ => FollowsWith.zero (by decide)
          exprList := fun _ _ _ _ => FollowsWith.zero (by decide)
          templateParts := fun _ _ _ _ _ enough => absurd enough (by omega)
          interpolation := fun _ _ _ _ _ enough => absurd enough (by omega) }
  | succ budget smaller =>
      exact
        { expr := smaller.expr_step
          operation := smaller.operation_step
          operand := smaller.operand_step
          call := smaller.call_step
          exprList := smaller.exprList_step
          templateParts := smaller.templateParts_step
          interpolation := smaller.interpolation_step }

section Statements

variable {budget : Nat} {grammar : Grammar} {scope : Scope} {place : Place}

/-- A condition follows the expression between its parentheses. -/
theorem follows_condition
    (enough : 8 * sizeAll cursor.ahead + 1 ≤ budget)
    (context : String) :
    Follows Prod.mk 1 (condition grammar scope context) cursor
      (Parser.condition budget grammar scope context cursor) := by
  refine .bind (follows_want _ context) fun _ rest afterOpening => ?_
  refine .bind ((followsExprs budget).expr grammar scope rest (by omega)) fun inner rest _ => ?_
  refine .bind (follows_want _ context) fun _ rest _ => ?_
  exact .pure inner

/-- A return follows its value, if there is one. -/
theorem follows_returnStatement
    (enough : 8 * sizeAll cursor.ahead + 2 ≤ budget)
    (keyword : Token) :
    Follows Prod.mk 0 (returnStatement grammar place scope keyword) cursor
      (Parser.returnStatement budget grammar place scope keyword cursor) := by
  simp only [returnStatement, Parser.returnStatement]
  split
  · exact .refused _
  · refine .after comes_cursor ?_
    cases cursor.ahead with
    | nil =>
        exact .pure _
    | cons following others =>
        dsimp only
        split
        · refine .bind ((followsExprs budget).expr grammar scope cursor enough)
            fun value _ _ => ?_
          exact .pure _
        · exact .pure _

/-- A break or a continue takes no more tokens. -/
theorem follows_loopControl (control : LoopControl) (position : Position) :
    Follows Prod.mk 0 (loopControl place control position) cursor
      (Parser.loopControl place control position cursor) := by
  unfold loopControl Parser.loopControl
  split
  · exact .pure _
  · exact .refused _

/-- A result of two parts, and where it has been read. -/
def withRest {Other : Type} (read : Result × Other) (rest : TokenCursor) :
    Result × Other × TokenCursor :=
  (read.1, read.2, rest)

/-- A declaration follows its name, its sign and its value. -/
theorem follows_declaration
    (enough : 8 * sizeAll cursor.ahead + 1 ≤ budget)
    (mutable : Bool)
    (keyword : Token) :
    Follows withRest 1 (declaration grammar scope mutable keyword) cursor
      (Parser.declaration budget grammar scope mutable keyword cursor) := by
  refine .bind (follows_name _) fun identifier rest afterName => ?_
  refine .bind (follows_want _ _) fun _ rest afterSign => ?_
  refine .bind ((followsExprs budget).expr grammar scope rest (by omega)) fun value rest _ => ?_
  refine .still (stays_check _) fun inside => ?_
  exact .pure _

/-- An assignment follows its value. -/
theorem follows_assignment
    (enough : 8 * sizeAll cursor.ahead + 2 ≤ budget)
    (identifier : Identifier) :
    Follows withRest 1 (assignment grammar scope identifier) cursor
      (Parser.assignment budget grammar scope identifier cursor) := by
  refine .bind ((followsExprs budget).expr grammar scope cursor enough) fun value rest _ => ?_
  dsimp only
  cases scope.find? identifier.text with
  | none =>
      dsimp only
      split
      · exact .refused _
      · refine .still (stays_check _) fun inside => ?_
        exact .pure _
  | some binding =>
      dsimp only
      split
      · exact .pure _
      · exact .refused _

/-- A statement with a name first follows the assignment or the call that it is. -/
theorem follows_nameStatement
    (enough : 8 * sizeAll cursor.ahead + 4 ≤ budget)
    (identifier : Identifier) :
    Follows withRest 0 (nameStatement grammar scope identifier) cursor
      (Parser.nameStatement budget grammar scope identifier cursor) := by
  have exprs := followsExprs budget
  refine .after comes_cursor ?_
  unfold Parser.nameStatement
  cases isNext : cursor.kind with
  | mark fixed =>
      cases fixed with
      | assign =>
          rcases cursor with ⟨behind, _ | ⟨token, tokens⟩⟩
          · cases isNext
          · have fewer := sizeAll_lt_cons token tokens
            refine .after (comes_skip behind tokens token) ?_
            exact (follows_assignment (by dsimp only at enough ⊢; omega) identifier).weaken
              (Nat.zero_le 1)
      | operator operator =>
          refine .still (stays_check _) fun left => ?_
          refine .bind (exprs.operation grammar scope 0 left cursor (by omega))
            fun value _ _ => ?_
          exact .pure _
      | separator separator =>
          cases separator with
          | leftParen =>
              refine .bind (exprs.call grammar scope identifier cursor enough)
                fun left rest _ => ?_
              refine .bind (exprs.operation grammar scope 0 left rest (by omega))
                fun value _ _ => ?_
              exact .pure _
          | _ =>
              exact .refused _
      | _ =>
          exact .refused _
  | _ =>
      exact .refused _

/-- One or two keywords are stepped over before a branch with a condition. -/
theorem comes_conditionalElse
    (follows : conditionalElse? cursor = some rest) :
    Comes 1 conditionalElse cursor true rest := by
  unfold conditionalElse? at follows
  split at follows
  · next accepted =>
      cases follows
      exact (comes_got accepted).after (comes_pure true)
  · next refused =>
      split at follows
      · next isPair =>
          cases follows
          refine (comes_got_false refused).after (comes_cursor.after ?_)
          simp only [isPair, if_true]
          simp only [Bool.and_eq_true, decide_eq_true_eq] at isPair
          rcases cursor with ⟨behind, _ | ⟨token, _ | ⟨second, tokens⟩⟩⟩
          · cases isPair.1
          · cases isPair.2
          · -- Both keywords have been seen, and both are stepped over at once.
            exact (comes_move [token, second] behind tokens).after (comes_pure true)
      · cases follows

/-- Where no condition comes in an alternative, the program says so and stays where it is. -/
theorem comes_conditionalElse_false
    (stops : conditionalElse? cursor = none) :
    Comes 0 conditionalElse cursor false cursor := by
  unfold conditionalElse? at stops
  split at stops
  · cases stops
  · next refused =>
      split at stops
      · cases stops
      · next notPair =>
          refine (comes_got_false refused).after (comes_cursor.after ?_)
          simp only [notPair]
          exact comes_pure false

end Statements

/-- How the programs for statements follow the functions with a budget. -/
structure FollowsStmts (budget : Nat) : Prop where
  statement :
    ∀ grammar place scope,
      FollowsWith withRest 1 1 budget (statement grammar place scope)
        (Parser.statement · grammar place scope)
  branch :
    ∀ grammar place scope position context,
      FollowsWith Prod.mk 2 1 budget (branch grammar place scope position context)
        (Parser.branch · grammar place scope position context)
  alternatives :
    ∀ grammar place scope,
      FollowsWith Prod.mk 1 0 budget (alternatives grammar place scope)
        (Parser.alternatives · grammar place scope)
  forLoop :
    ∀ grammar place scope position,
      FollowsWith Prod.mk 2 1 budget (forLoop grammar place scope position)
        (Parser.forLoop · grammar place scope position)
  block :
    ∀ grammar place scope,
      FollowsWith Prod.mk 1 1 budget (block grammar place scope)
        (Parser.block · grammar place scope)
  blockStatements :
    ∀ grammar place scope,
      FollowsWith Prod.mk 2 0 budget (blockStatements grammar place scope)
        (Parser.blockStatements · grammar place scope)

namespace FollowsStmts

variable {budget : Nat} (smaller : FollowsStmts budget)

include smaller

/-- A statement that is chosen by a keyword takes the keyword. -/
private theorem follows_keyword
    {tokens : List Token}
    (enough : 8 * sizeAll tokens + 8 ≤ budget)
    (grammar : Grammar)
    (place : Place)
    (scope : Scope)
    (behind : List Token)
    (word : Keyword)
    (spelling : String)
    (position : Position) :
    Follows withRest 1 (statementBody grammar place scope)
      ⟨behind, .mark (.keyword word) spelling position :: tokens⟩
      (Parser.statement (budget + 1) grammar place scope
        ⟨behind, .mark (.keyword word) spelling position :: tokens⟩) := by
  -- The keyword that has chosen the production is the token that the production takes first.
  have leads (expected : Expectation) (accepted : expected.accepts (.keyword word) = true)
      (context : String) :
      Comes 1 (leading expected context)
        ⟨behind, .mark (.keyword word) spelling position :: tokens⟩
        (.mark (.keyword word) spelling position)
        ⟨.mark (.keyword word) spelling position :: behind, tokens⟩ :=
    comes_take accepted behind tokens context
  rw [Parser.statement, TokenCursor.next_cons, ok_bind]
  refine .after comes_cursor ?_
  cases word with
  | varWord =>
      exact .after (leads .anyToken rfl _)
        ((follows_declaration (by dsimp only; omega) false _).weaken (Nat.zero_le 1))
  | mutableVarWord =>
      exact .after (leads .anyToken rfl _)
        ((follows_declaration (by dsimp only; omega) true _).weaken (Nat.zero_le 1))
  | ifWord =>
      refine .after (leads (.kind (.keyword .ifWord)) rfl _) ?_
      refine .bind (smaller.branch grammar place scope position _ _ (by dsimp only; omega))
        fun first rest afterFirst => ?_
      dsimp only at afterFirst
      refine .bind (smaller.alternatives grammar place scope rest (by omega))
        fun others _ _ => ?_
      exact .pure _
  | forWord =>
      refine .after (leads (.kind (.keyword .forWord)) rfl _) ?_
      refine .bind (smaller.forLoop grammar place scope position _ (by dsimp only; omega))
        fun loop _ _ => ?_
      exact .pure _
  | whileWord =>
      refine .after (leads (.kind (.keyword .whileWord)) rfl _) ?_
      refine .bind (follows_condition (by dsimp only; omega) _) fun test rest afterTest => ?_
      dsimp only at afterTest
      refine .bind (smaller.block grammar _ _ rest (by omega)) fun body _ _ => ?_
      exact .pure _
  | returnWord =>
      refine .after (leads (.kind (.keyword .returnWord)) rfl _) ?_
      refine .bind (follows_returnStatement (by dsimp only; omega) _) fun result _ _ => ?_
      exact .pure _
  | breakWord =>
      refine .after (leads .anyToken rfl _) ?_
      refine .bind (follows_loopControl .leave position) fun control _ _ => ?_
      exact .pure _
  | continueWord =>
      refine .after (leads .anyToken rfl _) ?_
      refine .bind (follows_loopControl .next position) fun control _ _ => ?_
      exact .pure _
  | funWord =>
      exact .after (leads (.kind (.keyword .funWord)) rfl _) (.refused _)
  | typeWord =>
      exact .after (leads (.kind (.keyword .typeWord)) rfl _) (.refused _)
  | _ =>
      exact .after (comes_take rfl behind tokens _) (.refused _)

/-- A statement follows what its first token says. -/
private theorem statement_step (grammar : Grammar) (place : Place) (scope : Scope) :
    FollowsWith withRest 1 1 (budget + 1) (Unbounded.statement grammar place scope)
      (Parser.statement · grammar place scope) := by
  refine .of_step (.statement grammar place scope) fun cursor enough => ?_
  rcases cursor with ⟨behind, _ | ⟨token, tokens⟩⟩
  · rw [Parser.statement]
    refine .after comes_cursor ?_
    exact .atEnd .anyToken "start of statement"
  · have positive := token.size_pos
    simp only [sizeAll_cons] at enough
    cases token with
    | name text position =>
        rw [Parser.statement, TokenCursor.next_cons, ok_bind]
        refine .after comes_cursor ?_
        exact .after (comes_take rfl behind tokens _)
          (follows_nameStatement (by dsimp only; omega) _)
    | mark fixed spelling position =>
        cases fixed with
        | keyword word =>
            exact smaller.follows_keyword (by omega) grammar place scope behind word spelling
              position
        | _ =>
            rw [Parser.statement, TokenCursor.next_cons, ok_bind]
            refine .after comes_cursor ?_
            exact .after (comes_take rfl behind tokens _) (.refused _)
    | _ =>
        rw [Parser.statement, TokenCursor.next_cons, ok_bind]
        refine .after comes_cursor ?_
        exact .after (comes_take rfl behind tokens _) (.refused _)

/-- A branch follows its condition and its block. -/
private theorem branch_step
    (grammar : Grammar)
    (place : Place)
    (scope : Scope)
    (position : Position)
    (context : String) :
    FollowsWith Prod.mk 2 1 (budget + 1)
      (Unbounded.branch grammar place scope position context)
      (Parser.branch · grammar place scope position context) := by
  refine .of_step (.branch grammar place scope position context) fun cursor enough => ?_
  rw [Parser.branch]
  refine .bind (follows_condition (by omega) context) fun test rest afterTest => ?_
  refine .bind (smaller.block grammar place _ rest (by omega)) fun body _ _ => ?_
  exact .pure _

/-- Alternatives follow the next one, and then the others. -/
private theorem alternatives_step (grammar : Grammar) (place : Place) (scope : Scope) :
    FollowsWith Prod.mk 1 0 (budget + 1) (Unbounded.alternatives grammar place scope)
      (Parser.alternatives · grammar place scope) := by
  refine .of_step (.alternatives grammar place scope) fun cursor enough => ?_
  rw [Parser.alternatives]
  refine .after comes_cursor ?_
  cases conditional : conditionalElse? cursor with
  | some rest =>
      have comes := comes_conditionalElse conditional
      have afterElse := TokenCursor.fewer_of_moves comes.moves
      refine .after comes ?_
      refine .bind (smaller.branch grammar place scope _ _ rest (by omega))
        fun next rest afterNext => ?_
      refine .bind (smaller.alternatives grammar place scope rest (by omega))
        fun others _ _ => ?_
      exact .pure _
  | none =>
      refine .after (comes_conditionalElse_false conditional) ?_
      refine .got (fun rest accepted afterElse => ?_) (fun refused => ?_)
      · simp only [accepted]
        refine .bind (smaller.block grammar place _ rest (by omega)) fun body _ _ => ?_
        exact .pure _
      · simp only [refused]
        exact .pure _

/-- A loop over values follows its header and its block. -/
private theorem forLoop_step
    (grammar : Grammar)
    (place : Place)
    (scope : Scope)
    (position : Position) :
    FollowsWith Prod.mk 2 1 (budget + 1) (Unbounded.forLoop grammar place scope position)
      (Parser.forLoop · grammar place scope position) := by
  refine .of_step (.forLoop grammar place scope position) fun cursor enough => ?_
  rw [Parser.forLoop]
  refine .bind (follows_name _) fun key rest afterKey => ?_
  refine .bind (follows_name _) fun link rest afterLink => ?_
  dsimp only
  split
  · exact .refused _
  · refine .bind (follows_condition (by omega) _) fun bound rest afterBound => ?_
    refine .still (stays_check _) fun _ => ?_
    refine .still (stays_check _) fun inside => ?_
    refine .bind (smaller.block grammar _ inside rest (by omega)) fun body _ _ => ?_
    exact .pure _

/-- A block follows its statements. -/
private theorem block_step (grammar : Grammar) (place : Place) (scope : Scope) :
    FollowsWith Prod.mk 1 1 (budget + 1) (Unbounded.block grammar place scope)
      (Parser.block · grammar place scope) := by
  refine .of_step (.block grammar place scope) fun cursor enough => ?_
  rw [Parser.block]
  refine .bind (follows_want _ _) fun opening rest afterOpening => ?_
  refine .bind (smaller.blockStatements grammar place scope rest (by omega))
    fun statements rest _ => ?_
  refine .bind (follows_want _ _) fun closing _ _ => ?_
  exact .pure _

/-- The statements of a block follow the first one, and then the others. -/
private theorem blockStatements_step (grammar : Grammar) (place : Place) (scope : Scope) :
    FollowsWith Prod.mk 2 0 (budget + 1) (Unbounded.blockStatements grammar place scope)
      (Parser.blockStatements · grammar place scope) := by
  refine .of_step (.blockStatements grammar place scope) fun cursor enough => ?_
  rw [Parser.blockStatements]
  refine .after comes_cursor ?_
  split
  · exact .pure _
  · refine .bind (smaller.statement grammar place scope cursor (by omega))
      fun first rest afterFirst => ?_
    refine .bind (smaller.blockStatements grammar place _ rest (by omega))
      fun others _ _ => ?_
    exact .pure _

end FollowsStmts

/-- The readings of statements follow the programs with every budget. -/
theorem followsStmts (budget : Nat) : FollowsStmts budget := by
  induction budget with
  | zero =>
      constructor <;> intros <;> exact FollowsWith.zero (by decide)
  | succ budget smaller =>
      exact
        { statement := smaller.statement_step
          branch := smaller.branch_step
          alternatives := smaller.alternatives_step
          forLoop := smaller.forLoop_step
          block := smaller.block_step
          blockStatements := smaller.blockStatements_step }

section Items

/-- A list of parameters follows its first name, and then the others. -/
theorem parameterList_follows (function : String) (budget : Nat) :
    FollowsWith Prod.mk 1 1 budget (parameterList function)
      (Parser.parameterList · function) := by
  induction budget with
  | zero =>
      exact FollowsWith.zero (by decide)
  | succ budget inductionHypothesis =>
      refine .of_step (.parameterList function) fun cursor enough => ?_
      rw [Parser.parameterList]
      refine .bind (follows_name _) fun first rest afterFirst => ?_
      refine .got (fun rest accepted afterComma => ?_) (fun refused => ?_)
      · simp only [accepted, if_true]
        refine .bind (inductionHypothesis rest (by omega)) fun others _ _ => ?_
        exact .pure _
      · simp only [refused]
        refine .bind (follows_want _ _) fun _ _ _ => ?_
        exact .pure _

variable {budget : Nat} {grammar : Grammar}

/-- Parameters follow the list between their parentheses. -/
theorem follows_parameters
    (enough : 8 * sizeAll cursor.ahead + 1 ≤ budget)
    (function : String) :
    Follows Prod.mk 1 (parameters function) cursor
      (Parser.parameters budget function cursor) := by
  refine .bind (follows_want _ _) fun _ rest afterOpening => ?_
  refine .got (fun rest accepted _ => ?_) (fun refused => ?_)
  · simp only [accepted, if_true]
    exact .pure _
  · simp only [refused]
    exact (parameterList_follows function budget rest (by omega)).weaken (Nat.zero_le 1)

/-- The body of a function follows its block. -/
theorem follows_functionBody
    (enough : 8 * sizeAll cursor.ahead + 1 ≤ budget)
    (scope : Scope)
    (function : String)
    (names : List Identifier) :
    Follows Prod.mk 1 (functionBody grammar scope function names) cursor
      (Parser.functionBody budget grammar scope function names cursor) := by
  refine .still (stays_check _) fun inside => ?_
  exact (followsStmts budget).block grammar _ inside cursor enough

/-- The definition of a function follows its name, its parameters and its body. -/
theorem follows_functionDefinition
    (enough : 8 * sizeAll cursor.ahead + 1 ≤ budget)
    (known : Declarations)
    (position : Position) :
    Follows Prod.mk 1 (functionDefinition grammar known position) cursor
      (Parser.functionDefinition budget grammar known position cursor) := by
  refine .bind (follows_name _) fun identifier rest afterName => ?_
  refine .still (stays_check _) fun _ => ?_
  refine .bind (follows_parameters (by omega) _) fun names rest afterParameters => ?_
  refine .bind (.inside (follows_functionBody (by omega) _ _ _) _ _) fun body _ _ => ?_
  exact .pure _

/-- An item that neither word of a definition starts is a statement. -/
theorem follows_item
    (enough : 8 * sizeAll cursor.ahead + 1 ≤ budget)
    (known : Declarations) :
    Follows withRest 1 (item grammar known) cursor
      (Parser.item budget grammar known cursor) := by
  have statements :
      Follows withRest 1
        (do
          let read ← statement grammar ⟨false, false⟩ known.scope
          return (Item.statement read.1, { known with scope := read.2 }))
        cursor
        (do
          let read ← Parser.statement budget grammar ⟨false, false⟩ known.scope cursor
          .ok (.statement read.1, { known with scope := read.2.1 }, read.2.2)) := by
    refine .bind ((followsStmts budget).statement grammar _ known.scope cursor enough)
      fun read _ _ => ?_
    exact .pure _
  refine .after comes_cursor ?_
  unfold Parser.item
  rcases cursor with ⟨behind, _ | ⟨token, tokens⟩⟩
  · exact statements
  · have fewer := sizeAll_lt_cons token tokens
    dsimp only at enough
    cases token with
    | mark fixed spelling position =>
        cases fixed with
        | keyword word =>
            cases word with
            | funWord =>
                refine .after (comes_take rfl behind tokens _) ?_
                refine .bind (follows_functionDefinition (by dsimp only; omega) known position)
                  fun definition _ _ => ?_
                exact .pure _
            | typeWord =>
                refine .after (comes_take rfl behind tokens _) ?_
                refine .bind (follows_name _) fun identifier _ _ => ?_
                refine .still (stays_check _) fun scope => ?_
                exact .pure _
            | _ =>
                exact statements
        | _ =>
            exact statements
    | _ =>
        exact statements

/-- All items and what is known after them, unless there is an error. -/
def itemsRead (budget : Nat) (grammar : Grammar) (known : Declarations) (cursor : TokenCursor) :
    Except SyntaxError (List Item × Declarations) :=
  let (after, read) := Parser.items budget grammar known cursor
  read.map (·, after)

/-- Items go on with the first one as long as there are tokens. -/
theorem itemsRead_succ
    {known : Declarations}
    (goesOn : cursor.atEnd = false) :
    itemsRead (budget + 1) grammar known cursor =
      (do
        let (first, known, rest) ← Parser.item budget grammar known cursor
        let (others, known) ← itemsRead budget grammar known rest
        .ok (first :: others, known)) := by
  simp only [itemsRead, Parser.items, goesOn, Bool.false_eq_true, if_false]
  rcases Parser.item budget grammar known cursor with error | ⟨first, known, rest⟩
  · rfl
  · simp only [ok_bind]
    rcases Parser.items budget grammar known rest with ⟨known, error | others⟩ <;> rfl

/-- The items of a file follow the first one, and then the others. -/
theorem items_follows (known : Declarations) (budget : Nat) :
    FollowsWith (fun read _ => read) 2 0 budget (items grammar known)
      (itemsRead · grammar known) := by
  induction budget generalizing known with
  | zero =>
      exact FollowsWith.zero (by decide)
  | succ budget inductionHypothesis =>
      refine .of_step (.items grammar known) fun cursor enough => ?_
      refine .after comes_cursor ?_
      cases ended : cursor.atEnd with
      | true =>
          simp only [itemsRead, Parser.items, ended, if_true]
          exact .pure ([], known)
      | false =>
          rw [itemsRead_succ ended]
          refine .bind (follows_item (by omega) known) fun first rest afterFirst => ?_
          refine .bind (inductionHypothesis first.2 rest (by omega)) fun others _ _ => ?_
          exact .pure _

/-- A file is its items, if all calls in them are to known functions. -/
theorem outcome_parseTokens (known : Declarations) (tokens : List Token) :
    (parseTokens grammar known tokens).outcome =
      (do
        let (items, after) ← itemsRead (budgetFor tokens) grammar known (.ofTokens tokens)
        let file : File := ⟨items, (TokenCursor.ofTokens tokens).position⟩
        checkCalls after.functions file.calls
        .ok file) := by
  simp only [parseTokens, itemsRead]
  rcases Parser.items (budgetFor tokens) grammar known (.ofTokens tokens) with
    ⟨after, error | items⟩
  · rfl
  · dsimp only [Except.map, ok_bind]
    cases checkCalls after.functions
      (File.calls ⟨items, (TokenCursor.ofTokens tokens).position⟩) <;> rfl

/-- A file follows its items, and the check of their calls. -/
theorem follows_file (grammar : Grammar) (known : Declarations) (tokens : List Token) :
    Follows (fun read _ => read) 0 (file grammar known) (.ofTokens tokens)
      (parseTokens grammar known tokens).outcome := by
  rw [outcome_parseTokens]
  refine .after comes_cursor ?_
  have enough : 8 * sizeAll tokens + 2 ≤ budgetFor tokens := by
    unfold budgetFor
    omega
  refine .bind (items_follows known _ (.ofTokens tokens) enough) fun read rest _ => ?_
  refine .still (stays_check _) fun _ => ?_
  exact .pure _

end Items

/-- How an action ends from every index that is not beyond the end.  It has an end, and no other.
The index has then moved on, by some number of tokens at least if there is a result, and is not
beyond the end.  The answer is what a reading with any large enough budget gives, so that no error
is one that is discarded. -/
def Settles (shape : Result → TokenCursor → Found) (least : Nat) (action : Action Result)
    (reading : Nat → TokenCursor → Except SyntaxError Found) : Prop :=
  ∀ pointer : Pointer, pointer.index ≤ pointer.tokens.length →
    ∃ (answer : Except SyntaxError Result) (final : Pointer),
      Ends body action pointer (answer.mapError .refused) final ∧
      pointer.Moves 0 final ∧
      (∀ result, answer = .ok result → pointer.Moves least final) ∧
      ∀ budget ≥ budgetFor pointer.cursor.ahead,
        reading budget pointer.cursor = answer.map (shape · final.cursor)

/-- What is followed with every budget settles: with any budget that is large enough the outcome is
the same. -/
theorem settles
    {shape : Result → TokenCursor → Found}
    {extra : Nat}
    {action : Action Result}
    {reading : Nat → TokenCursor → Except SyntaxError Found}
    (follows : ∀ budget, FollowsWith shape extra least budget action reading)
    (small : extra ≤ 8) :
    Settles shape least action reading := by
  intro pointer within
  have enough {budget : Nat} (large : budgetFor pointer.cursor.ahead ≤ budget) :=
    follows budget pointer.cursor (by unfold budgetFor at large; omega)
  have ended := (enough (Nat.le_refl _)).ended
  rw [Pointer.pointer_cursor within] at ended
  obtain ⟨answer, final, ends, moves, takes⟩ := ended
  refine ⟨answer, final, ends, moves, takes, fun budget large => ?_⟩
  refine (enough large).reading_eq ?_
  rw [Pointer.pointer_cursor within]
  exact ends

/-- How the parser stops: every program of it settles, wherever its index is in whatever tokens; a
statement, an expression and an operand take a token at least; templates leave the index where it
is, for their interpolations have indices of their own; and the whole program ends as the parser
does. -/
structure Stops (grammar : Grammar) : Prop where
  expr : ∀ scope, Settles Prod.mk 1 (expr grammar scope) (Parser.expr · grammar scope)
  operation :
    ∀ scope bound left,
      Settles Prod.mk 0 (operation grammar scope bound left)
        (Parser.operation · grammar scope bound left)
  operand :
    ∀ scope, Settles Prod.mk 1 (operand grammar scope) (Parser.operand · grammar scope)
  call :
    ∀ scope function,
      Settles Prod.mk 1 (call grammar scope function) (Parser.call · grammar scope function)
  exprList :
    ∀ scope closing context,
      Settles Prod.mk 1 (exprList grammar scope closing context)
        (Parser.exprList · grammar scope closing context)
  templateParts :
    ∀ scope position parts (cursor : TokenCursor), ∀ budget ≥ 8 * Part.sizeAll parts + 1,
      Stays (templateParts grammar scope position parts) cursor
        (Parser.templateParts budget grammar scope position parts)
  interpolation :
    ∀ scope position tokens (cursor : TokenCursor), ∀ budget ≥ 8 * sizeAll tokens + 3,
      Stays (interpolation grammar scope position tokens) cursor
        (inTemplate position (Parser.interpolation budget grammar scope tokens))
  condition :
    ∀ scope context,
      Settles Prod.mk 1 (condition grammar scope context)
        (Parser.condition · grammar scope context)
  returnStatement :
    ∀ place scope keyword,
      Settles Prod.mk 0 (returnStatement grammar place scope keyword)
        (Parser.returnStatement · grammar place scope keyword)
  declaration :
    ∀ scope mutable keyword,
      Settles withRest 1 (declaration grammar scope mutable keyword)
        (Parser.declaration · grammar scope mutable keyword)
  nameStatement :
    ∀ scope identifier,
      Settles withRest 0 (nameStatement grammar scope identifier)
        (Parser.nameStatement · grammar scope identifier)
  statement :
    ∀ place scope,
      Settles withRest 1 (statement grammar place scope)
        (Parser.statement · grammar place scope)
  branch :
    ∀ place scope position context,
      Settles Prod.mk 1 (branch grammar place scope position context)
        (Parser.branch · grammar place scope position context)
  alternatives :
    ∀ place scope,
      Settles Prod.mk 0 (alternatives grammar place scope)
        (Parser.alternatives · grammar place scope)
  forLoop :
    ∀ place scope position,
      Settles Prod.mk 1 (forLoop grammar place scope position)
        (Parser.forLoop · grammar place scope position)
  block :
    ∀ place scope,
      Settles Prod.mk 1 (block grammar place scope) (Parser.block · grammar place scope)
  blockStatements :
    ∀ place scope,
      Settles Prod.mk 0 (blockStatements grammar place scope)
        (Parser.blockStatements · grammar place scope)
  parameterList :
    ∀ function, Settles Prod.mk 1 (parameterList function) (Parser.parameterList · function)
  parameters :
    ∀ function, Settles Prod.mk 1 (parameters function) (Parser.parameters · function)
  functionDefinition :
    ∀ known position,
      Settles Prod.mk 1 (functionDefinition grammar known position)
        (Parser.functionDefinition · grammar known position)
  item :
    ∀ known, Settles withRest 1 (item grammar known) (Parser.item · grammar known)
  items :
    ∀ known, Settles (fun read _ => read) 0 (items grammar known) (itemsRead · grammar known)
  file :
    ∀ known tokens, ∃ final,
      Ends body (file grammar known) (.ofTokens tokens)
          ((parseTokens grammar known tokens).outcome.mapError .refused) final ∧
        (Pointer.ofTokens tokens).Moves 0 final

theorem stops (grammar : Grammar) : Stops grammar where
  expr := fun scope => settles (fun budget => (followsExprs budget).expr grammar scope) (by decide)
  operation := fun scope bound left =>
    settles (fun budget => (followsExprs budget).operation grammar scope bound left) (by decide)
  operand := fun scope =>
    settles (fun budget => (followsExprs budget).operand grammar scope) (by decide)
  call := fun scope function =>
    settles (fun budget => (followsExprs budget).call grammar scope function) (by decide)
  exprList := fun scope closing context =>
    settles (fun budget => (followsExprs budget).exprList grammar scope closing context) (by decide)
  templateParts := fun scope position parts cursor budget =>
    (followsExprs budget).templateParts grammar scope position parts cursor
  interpolation := fun scope position tokens cursor budget =>
    (followsExprs budget).interpolation grammar scope position tokens cursor
  condition := fun scope context =>
    settles (fun _ _ enough => follows_condition enough context) (by decide)
  returnStatement := fun place scope keyword =>
    settles (fun _ _ enough => follows_returnStatement enough keyword) (by decide)
  declaration := fun scope mutable keyword =>
    settles (fun _ _ enough => follows_declaration enough mutable keyword) (by decide)
  nameStatement := fun scope identifier =>
    settles (fun _ _ enough => follows_nameStatement enough identifier) (by decide)
  statement := fun place scope =>
    settles (fun budget => (followsStmts budget).statement grammar place scope) (by decide)
  branch := fun place scope position context =>
    settles (fun budget => (followsStmts budget).branch grammar place scope position context)
      (by decide)
  alternatives := fun place scope =>
    settles (fun budget => (followsStmts budget).alternatives grammar place scope) (by decide)
  forLoop := fun place scope position =>
    settles (fun budget => (followsStmts budget).forLoop grammar place scope position) (by decide)
  block := fun place scope =>
    settles (fun budget => (followsStmts budget).block grammar place scope) (by decide)
  blockStatements := fun place scope =>
    settles (fun budget => (followsStmts budget).blockStatements grammar place scope) (by decide)
  parameterList := fun function => settles (parameterList_follows function) (by decide)
  parameters := fun function =>
    settles (fun _ _ enough => follows_parameters enough function) (by decide)
  functionDefinition := fun known position =>
    settles (fun _ _ enough => follows_functionDefinition enough known position) (by decide)
  item := fun known => settles (fun _ _ enough => follows_item enough known) (by decide)
  items := fun known => settles (items_follows known) (by decide)
  file := by
    intro known tokens
    have follows := follows_file grammar known tokens
    obtain ⟨answer, final, ends, moves, -⟩ := follows.ended
    have parsed : (parseTokens grammar known tokens).outcome = answer := by
      rw [follows.reading_eq ends]
      cases answer <;> rfl
    exact ⟨final, parsed ▸ ends, moves⟩

end Parser.Unbounded

/-- The scanner and the parser take something in every round and before they come back to themselves,
never go beyond the end, and stop on every text and all tokens. -/
theorem scanner_and_parser_stop (file text : String) (grammar : Grammar) :
    Scanner.Unbounded.Stops file text.toList ∧ Parser.Unbounded.Stops grammar :=
  ⟨Scanner.Unbounded.stops file text.toList, Parser.Unbounded.stops grammar⟩

end Scripting
