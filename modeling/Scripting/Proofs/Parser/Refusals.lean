import Scripting.Proofs.Parser.Places
import Scripting.Proofs.Token.Coverage
import Scripting.Proofs.Token.Faults

namespace Scripting

/-!
# Refusals point into the script

A script that is refused is refused at a place in it: because of a character, or because of a token.
Calls are checked when nothing is left to read, but each of them starts with the token of its
function, in an interpolation as well.
-/

open Token

/-- Every call among some starts with a token of a sequence, or of an interpolation in it. -/
def CallsStandIn (calls : List CallSite) (tokens : List Token) : Prop :=
  ∀ call ∈ calls, call.function.token ∈ flattenedAll tokens

namespace CallsStandIn

variable {calls others : List CallSite} {tokens more : List Token}

/-- Calls stand in any tokens that include theirs. -/
theorem mono (stand : CallsStandIn calls tokens) (subset : tokens ⊆ more) :
    CallsStandIn calls more := by
  intro call member
  obtain ⟨token, isOne, inside⟩ := mem_flattenedAll.mp (stand call member)
  exact mem_flattenedAll.mpr ⟨token, subset isOne, inside⟩

/-- Two lists of calls stand in tokens together. -/
theorem append (first : CallsStandIn calls tokens) (second : CallsStandIn others tokens) :
    CallsStandIn (calls ++ others) tokens :=
  List.forall_mem_append.mpr ⟨first, second⟩

/-- Calls of two parts of a tree stand in the tokens of both parts. -/
theorem parts (first : CallsStandIn calls tokens) (second : CallsStandIn others more) :
    CallsStandIn (calls ++ others) (tokens ++ more) :=
  append (first.mono (List.subset_append_left _ _)) (second.mono (List.subset_append_right _ _))

/-- A token before them changes nothing. -/
theorem cons (stand : CallsStandIn calls tokens) (token : Token) :
    CallsStandIn calls (token :: tokens) :=
  stand.mono (List.subset_cons_self _ _)

/-- Nor do two tokens around them. -/
theorem enclosed (stand : CallsStandIn calls tokens) (opening closing : Token) :
    CallsStandIn calls (opening :: (tokens ++ [closing])) :=
  cons (stand.mono (List.subset_append_left _ _)) opening

end CallsStandIn

mutual

/-- The names of the calls of an expression are among its tokens. -/
theorem DerivesExpr.callsStandIn
    {value : Expr}
    {tokens : List Token} :
    DerivesExpr value tokens → CallsStandIn value.calls tokens
  | .node form _ => form.callsStandIn

/-- Every form has its calls in its parts, and a call its own name besides. -/
theorem ExprForm.callsStandIn
    {value : Expr}
    {tokens : List Token} :
    ExprForm value tokens → CallsStandIn value.calls tokens
  | .name => nofun
  | .literal => nofun
  | .null _ => nofun
  | .template parts => fun call member =>
      mem_flattenedAll.mpr
        ⟨_, List.mem_cons_self, List.mem_cons_of_mem _ (parts.callsStandIn call member)⟩
  | .binary _ left right => left.callsStandIn.parts (right.callsStandIn.cons _)
  | .call _ _ arguments =>
      .append ((arguments.callsStandIn.enclosed _ _).cons _)
        (List.forall_mem_singleton.mpr (mem_flattenedAll_of_mem List.mem_cons_self))
  | .list _ _ elements => elements.callsStandIn.enclosed _ _
  | .paren _ _ inner => inner.callsStandIn.enclosed _ _

/-- The calls of expressions in a row stand in all their tokens. -/
theorem DerivesExprs.callsStandIn
    {values : List Expr}
    {tokens : List Token} :
    DerivesExprs values tokens → CallsStandIn (Expr.callsAll values) tokens
  | .nil => nofun
  | .last value => by
      rw [Expr.callsAll, Expr.callsAll, List.append_nil]
      exact value.callsStandIn
  | .more _ _ first others => first.callsStandIn.parts (others.callsStandIn.cons _)

/-- Calls in a template start with tokens of its interpolations. -/
theorem DerivesParts.callsStandIn
    {position : Position}
    {values : List Expr}
    {parts : List Part} :
    DerivesParts position values parts →
    ∀ call ∈ Expr.callsAll values, call.function.token ∈ Part.flattenedAll parts
  | .nil => nofun
  | .fragment others => others.callsStandIn
  | .interpolation first others => fun call member =>
      List.mem_append.mpr
        ((List.mem_append.mp member).imp (first.callsStandIn call) (others.callsStandIn call))

end

theorem DerivesCondition.callsStandIn
    {test : Expr}
    {tokens : List Token} :
    DerivesCondition test tokens → CallsStandIn test.calls tokens
  | .parens _ _ inner => inner.callsStandIn.enclosed _ _

mutual

/-- The names of the calls of a statement are among its tokens. -/
theorem DerivesStmt.callsStandIn
    {following : Option Token}
    {value : Stmt}
    {tokens : List Token} :
    DerivesStmt following value tokens → CallsStandIn value.calls tokens
  | .node form _ => form.callsStandIn

/-- Every form has its calls in the expressions and blocks that it is made of. -/
theorem StmtForm.callsStandIn
    {following : Option Token}
    {value : Stmt}
    {tokens : List Token} :
    StmtForm following value tokens → CallsStandIn value.calls tokens
  | .expr _ _ value => value.callsStandIn
  | .declare _ _ value => ((value.callsStandIn.cons _).cons _).cons _
  | .assign _ value => (value.callsStandIn.cons _).cons _
  | .choice _ first others => first.callsStandIn.parts others.callsStandIn
  | .forEach _ _ bound body => (((bound.callsStandIn.parts body.callsStandIn).cons _).cons _).cons _
  | .whileLoop _ test body => (test.callsStandIn.parts body.callsStandIn).cons _
  | .returnNothing _ _ => nofun
  | .returnValue _ _ value => value.callsStandIn.cons _
  | .control _ => nofun

/-- The calls of a branch stand in its condition and its block. -/
theorem DerivesBranch.callsStandIn
    {leading tokens : List Token}
    {value : Branch} :
    DerivesBranch leading value tokens → CallsStandIn value.calls tokens
  | .node _ test body =>
      (test.callsStandIn.parts body.callsStandIn).mono (List.subset_append_right _ _)

/-- The calls of alternatives stand in all their tokens. -/
theorem DerivesAlternatives.callsStandIn
    {values : List Branch}
    {tokens : List Token} :
    DerivesAlternatives values tokens → CallsStandIn (Branch.callsAll values) tokens
  | .nil => nofun
  | .elseIf _ next others => next.callsStandIn.parts others.callsStandIn
  | .elseThenIf _ _ next others => next.callsStandIn.parts others.callsStandIn
  | .otherwise _ body => by
      rw [Branch.callsAll, Branch.callsAll, List.append_nil]
      exact body.callsStandIn.cons _

/-- The calls of a block stand between its braces. -/
theorem DerivesBlock.callsStandIn
    {value : Block}
    {tokens : List Token} :
    DerivesBlock value tokens → CallsStandIn value.calls tokens
  | .node _ _ statements => statements.callsStandIn.enclosed _ _

/-- The calls of statements in a row stand in all their tokens. -/
theorem DerivesStmts.callsStandIn
    {following : Option Token}
    {values : List Stmt}
    {tokens : List Token} :
    DerivesStmts following values tokens → CallsStandIn (Stmt.callsAll values) tokens
  | .nil => nofun
  | .cons first others => first.callsStandIn.parts others.callsStandIn

end

/-- The calls of an item stand in its tokens, those of a function in its body. -/
theorem DerivesItem.callsStandIn
    {following : Option Token}
    {value : Item}
    {tokens : List Token} :
    DerivesItem following value tokens → CallsStandIn value.calls tokens
  | .function _ _ body =>
      ((body.callsStandIn.mono (List.subset_append_right _ _)).cons _).cons _
  | .type _ => nofun
  | .statement inner => inner.callsStandIn

/-- The calls of a file stand in its tokens. -/
theorem DerivesItems.callsStandIn
    {following : Option Token}
    {values : List Item}
    {tokens : List Token}
    (derives : DerivesItems following values tokens) :
    CallsStandIn (values.flatMap Item.calls) tokens := by
  induction derives with
  | nil =>
      nofun
  | cons first _ inductionHypothesis =>
      exact first.callsStandIn.parts inductionHypothesis

namespace Parser

variable {grammar : Grammar} {known : Declarations} {tokens : List Token}

/-- A call that is refused is refused at its name. -/
theorem points_checkCalls
    {places : Position → Prop}
    {calls : List CallSite}
    (arePlaces : ∀ call ∈ calls, places call.function.position)
    (functions : Signatures) :
    Points places Any (checkCalls functions calls) := by
  induction calls with
  | nil =>
      exact .ok trivial
  | cons first rest inductionHypothesis =>
      obtain ⟨firstIsPlace, others⟩ := List.forall_mem_cons.mp arePlaces
      have checked : Points places Any (checkCall functions first) := by
        unfold checkCall
        split
        · exact .error firstIsPlace
        · split
          · exact .ok trivial
          · split
            · exact .ok trivial
            · exact .error firstIsPlace
      refine checked.bind ?_
      rintro _ -
      exact inductionHypothesis others

/-- A token of a sequence, or of an interpolation in it, is at a position. -/
def IsPlaceIn (tokens : List Token) (position : Position) : Prop :=
  ∃ token ∈ flattenedAll tokens, token.position = position

/-- Where no tokens are left from the start, nothing is refused. -/
theorem points_items_ofTokens :
    Points (IsPlaceIn tokens) Any
      (items (budgetFor tokens) grammar known (.ofTokens tokens)).2 := by
  cases tokens with
  | nil =>
      exact .ok trivial
  | cons token rest =>
      refine points_items (TokenCursor.among_ofTokens fun inner member => ⟨inner, member, rfl⟩) ?_
      simp only [budgetFor, TokenCursor.ofTokens]
      omega

end Parser

variable {grammar : Grammar} {known : Declarations} {error : SyntaxError}

/-- A sequence of tokens is refused at one of them, or at one in an interpolation. -/
theorem pointsTo_of_parseTokens
    {tokens : List Token}
    (refused : (parseTokens grammar known tokens).outcome = .error error) :
    error.PointsTo (Parser.IsPlaceIn tokens) := by
  have points := @Parser.points_items_ofTokens grammar known tokens
  rcases read : Parser.items (Parser.budgetFor tokens) grammar known (.ofTokens tokens) with
    ⟨after, early | values⟩
  · rw [read] at points
    cases points with
    | error pointsTo =>
        simp only [parseTokens, read, Except.error.injEq] at refused
        rwa [← refused]
  · have derives := (Parser.ReadsItems.of_items read).derives
    have arePlaces : ∀ call ∈ values.flatMap Item.calls,
        Parser.IsPlaceIn tokens call.function.position :=
      fun call member => ⟨call.function.token, derives.callsStandIn call member, rfl⟩
    have checked := Parser.points_checkCalls arePlaces after.functions
    simp only [parseTokens, read] at refused
    split at refused
    · next unresolved =>
        rw [File.calls] at unresolved
        rw [unresolved] at checked
        cases checked with
        | error pointsTo =>
            rwa [← Except.error.inj refused]
    · cases refused

namespace SyntaxError

/-- Where an error points. -/
def position : SyntaxError → Position
  | .lexical error => error.position
  | .unexpected position .. => position
  | .rule position _ => position
  | .inside position .. => position

/-- An error, and after it the causes that it encloses. -/
def chain : SyntaxError → List SyntaxError
  | .inside position enclosure cause => .inside position enclosure cause :: cause.chain
  | error => [error]

/-- Where an outcome of a script points, if the script is refused. -/
def positionsOf : Except SyntaxError File → List Position
  | .ok _ => []
  | .error error => error.chain.map position

/-- How an error points into a script: to a valid position in it, which is that of a character or of
the end of the script if characters are refused, and that of a token otherwise. -/
structure PointsInto (file text : String) (error : SyntaxError) : Prop where
  inFile : error.position.file = file
  isValid : error.position.isValid = true
  atCharacter :
    ∀ fault, error = .lexical fault →
      ∃ offset ≤ text.toList.length,
        fault.position = (Source.atOffset file text.toList offset).position
  atToken :
    (∀ fault, error ≠ .lexical fault) →
      ∃ tokens, scan file text = .ok tokens ∧
        ∃ token ∈ flattenedAll tokens, token.position = error.position

/-- Every link of the chain of an error that points to some places is at one of them. -/
theorem PointsTo.chain
    {places : Position → Prop}
    (pointsTo : error.PointsTo places) :
    ∀ link ∈ error.chain, (∀ fault, link ≠ .lexical fault) ∧ places link.position := by
  induction error with
  | lexical fault =>
      exact pointsTo.elim
  | unexpected position expected got context =>
      exact List.forall_mem_singleton.mpr ⟨nofun, pointsTo⟩
  | rule position fault =>
      exact List.forall_mem_singleton.mpr ⟨nofun, pointsTo⟩
  | inside position enclosure cause inductionHypothesis =>
      obtain ⟨isPlace, causePointsTo⟩ := pointsTo
      exact List.forall_mem_cons.mpr ⟨⟨nofun, isPlace⟩, inductionHypothesis causePointsTo⟩

variable {file text : String}

/-- An error of the scanner points to where the scanner stopped. -/
theorem pointsInto_of_fault
    {fault : LexicalError}
    (short : text.toList.length < UInt32.size)
    (refused : scan file text = .error fault) :
    (lexical fault).PointsInto file text := by
  obtain ⟨offset, notBeyond, isThere⟩ := exists_offset_of_fault refused
  exact
    { inFile := congrArg Position.file isThere
      isValid := isValid_position_of_fault short refused
      atCharacter := by
        rintro _ ⟨⟩
        exact ⟨offset, notBeyond, isThere⟩
      atToken := fun notLexical => absurd rfl (notLexical fault) }

/-- An error at the place of a token points to that token. -/
theorem pointsInto_of_token
    {tokens : List Token}
    (short : text.toList.length < UInt32.size)
    (scanned : scan file text = .ok tokens)
    (notLexical : ∀ fault, error ≠ .lexical fault)
    (isPlace : Parser.IsPlaceIn tokens error.position) :
    error.PointsInto file text := by
  obtain ⟨token, member, isThere⟩ := isPlace
  have within := (Scanner.partitions_of_scan short scanned).within
  obtain ⟨inside, -, -, -, stands⟩ := within.placed token member
  rw [isThere] at stands
  exact
    { inFile := stands.inFile
      isValid := by
        rw [Position.isValid, decide_eq_true_eq, UInt32.lt_iff_toNat_lt, stands.onLine]
        exact Nat.lt_add_right _ Nat.one_pos
      atCharacter := fun fault isLexical => absurd isLexical (notLexical fault)
      atToken := fun _ => ⟨tokens, scanned, token, member, isThere⟩ }

/-- Whatever a script is refused for, in whatever grammar and after whatever declarations: the error
and all its causes point into the script. -/
theorem refusals_point_into_the_script
    (short : text.toList.length < UInt32.size)
    (refused : (parse grammar known file text).outcome = .error error) :
    ∀ link ∈ error.chain, link.PointsInto file text := by
  unfold parse at refused
  split at refused
  · next fault faulty =>
      cases refused
      exact List.forall_mem_singleton.mpr (pointsInto_of_fault short faulty)
  · next tokens scanned =>
      intro link member
      obtain ⟨notLexical, isPlace⟩ := (pointsTo_of_parseTokens refused).chain link member
      exact pointsInto_of_token short scanned notLexical isPlace

/-- A script with a function in which an interpolation misses an operand at its end. -/
def brokenTemplateScript : String :=
  "fun show(n) \x7b\n  x = 'n is \x7bn +\x7d'\n\x7d"

/-- The function, the template and the last token of the interpolation are pointed at. -/
theorem refusals_of_brokenTemplateScript :
    brokenTemplateScript.toList.length < UInt32.size ∧
      ∃ error, (parse ⟨false, false⟩ .empty "main" brokenTemplateScript).outcome = .error error ∧
        error.chain.map position = [⟨"main", 1, 1⟩, ⟨"main", 2, 7⟩, ⟨"main", 2, 16⟩] ∧
        ∀ link ∈ error.chain, link.PointsInto "main" brokenTemplateScript := by
  have short : brokenTemplateScript.toList.length < UInt32.size := by decide +kernel
  have positions :
      positionsOf (parse ⟨false, false⟩ .empty "main" brokenTemplateScript).outcome =
        [⟨"main", 1, 1⟩, ⟨"main", 2, 7⟩, ⟨"main", 2, 16⟩] := by
    decide +kernel
  refine ⟨short, ?_⟩
  cases refused : (parse ⟨false, false⟩ .empty "main" brokenTemplateScript).outcome with
  | ok parsed =>
      rw [refused] at positions
      cases positions
  | error error =>
      rw [refused] at positions
      exact ⟨error, rfl, positions, refusals_point_into_the_script short refused⟩

end SyntaxError

end Scripting
