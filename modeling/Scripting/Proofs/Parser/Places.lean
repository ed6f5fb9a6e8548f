import Scripting.Proofs.Parser.Derivation
import Scripting.Proofs.Parser.Stop
import Scripting.Proofs.Token.Partition

namespace Scripting

/-!
# Where the parser refuses tokens

Whatever the parser refuses, it points at a token: at one that it has found, at one that it has
taken, or, where tokens run out, at the last of them.  An interpolation has tokens of its own, and is never
read without one.

The budget is followed along: a template without a budget for its parts would point nowhere.
-/

/-- An error, and every cause of it, points at one of some places. -/
def SyntaxError.PointsTo (places : Position → Prop) : SyntaxError → Prop
  | .lexical _ => False
  | .unexpected position .. => places position
  | .rule position _ => places position
  | .inside position _ cause => places position ∧ cause.PointsTo places

namespace TokenCursor

open Token

/-- A cursor before tokens that are at some places; where no token is left, it still points at one
of the places. -/
structure Among (places : Position → Prop) (cursor : TokenCursor) : Prop where
  tokens : ∀ token ∈ flattenedAll cursor.ahead, places token.position
  position : places cursor.position

/-- A cursor among tokens at some places, with fewer tokens ahead than a number. -/
structure Below (places : Position → Prop) (limit : Nat) (cursor : TokenCursor) : Prop where
  among : cursor.Among places
  fewer : sizeAll cursor.ahead < limit

variable {places : Position → Prop} {behind tokens : List Token} {token : Token}

/-- The next token has its places among those of the cursor, with the tokens inside it. -/
theorem Among.first (among : Among places ⟨behind, token :: tokens⟩) :
    ∀ inner ∈ token.flattened, places inner.position :=
  fun inner member => among.tokens inner (List.mem_append_left _ member)

/-- A cursor that is moved by one token is still among the places. -/
theorem Among.rest (among : Among places ⟨behind, token :: tokens⟩) :
    Among places ⟨token :: behind, tokens⟩ := by
  have others : ∀ inner ∈ flattenedAll tokens, places inner.position :=
    fun inner member => among.tokens inner (List.mem_append_right _ member)
  refine ⟨others, ?_⟩
  cases tokens with
  | nil =>
      -- The token that has just been taken is now the last one.
      exact among.position
  | cons next tokens =>
      exact others next (mem_flattenedAll_of_mem List.mem_cons_self)

/-- Behind its next token a cursor has fewer tokens ahead. -/
theorem Among.below (among : Among places ⟨behind, token :: tokens⟩) :
    Below places (sizeAll (token :: tokens)) ⟨token :: behind, tokens⟩ :=
  ⟨among.rest, Parser.sizeAll_lt_cons token tokens⟩

/-- A cursor before all tokens is among the places of the tokens. -/
theorem among_ofTokens
    (stand : ∀ inner ∈ flattenedAll (token :: tokens), places inner.position) :
    Among places (.ofTokens (token :: tokens)) :=
  ⟨stand, stand token (mem_flattenedAll_of_mem List.mem_cons_self)⟩

/-- A cursor that is not at its end has fewer tokens ahead once it is moved. -/
theorem Among.skip
    {cursor : TokenCursor}
    (among : cursor.Among places)
    (notAtEnd : cursor.ahead ≠ []) :
    cursor.skip.Below places (sizeAll cursor.ahead) := by
  rcases cursor with ⟨behind, _ | ⟨token, tokens⟩⟩
  · exact absurd rfl notAtEnd
  · exact among.below

/-- Where a mark comes next, some token is ahead. -/
theorem ahead_ne_nil_of_kind
    {cursor : TokenCursor}
    {fixed : Mark}
    (isMark : cursor.kind = .mark fixed) :
    cursor.ahead ≠ [] := by
  intro atEnd
  simp [kind, atEnd] at isMark

/-- A token that is accepted leaves fewer tokens ahead. -/
theorem Among.accept?
    {cursor rest : TokenCursor}
    {kind : TokenKind}
    (among : cursor.Among places)
    (accepted : cursor.accept? kind = some rest) :
    rest.Below places (sizeAll cursor.ahead) := by
  rcases cursor with ⟨behind, _ | ⟨token, tokens⟩⟩
  · cases accepted
  · simp only [TokenCursor.accept?] at accepted
    split at accepted
    · cases accepted
      exact among.below
    · cases accepted

end TokenCursor

namespace Parser

open Token

/-- What a reading leads to: a good result, or an error that points at one of some places. -/
inductive Points {Result : Type} (places : Position → Prop) (Good : Result → Prop) :
    Except SyntaxError Result → Prop where
  | ok {result : Result} (isGood : Good result) : Points places Good (.ok result)
  | error {error : SyntaxError} (pointsTo : error.PointsTo places) :
      Points places Good (.error error)

/-- Pairs of things that are good. -/
inductive Both {Tree Other : Type} (GoodTree : Tree → Prop) (Good : Other → Prop) :
    Tree × Other → Prop where
  | mk {tree : Tree} {other : Other} (treeIsGood : GoodTree tree) (isGood : Good other) :
      Both GoodTree Good (tree, other)

/-- Anything is good. -/
def Any {Result : Type} (_ : Result) : Prop :=
  True

variable {places : Position → Prop}

/-- A tree, and a cursor with fewer tokens ahead than a larger number. -/
theorem Both.below
    {Tree : Type}
    {GoodTree : Tree → Prop}
    {tree : Tree}
    {rest : TokenCursor}
    {limit larger : Nat}
    (treeIsGood : GoodTree tree)
    (below : rest.Below places limit)
    (notLess : limit ≤ larger) :
    Both GoodTree (TokenCursor.Below places larger) (tree, rest) :=
  ⟨treeIsGood, below.among, Nat.lt_of_lt_of_le below.fewer notLess⟩

namespace Points

/-- A reading after another refuses something inside the script if both of them do. -/
theorem bind
    {First Second : Type}
    {GoodFirst : First → Prop}
    {GoodSecond : Second → Prop}
    {reading : Except SyntaxError First}
    {next : First → Except SyntaxError Second}
    (first : Points places GoodFirst reading)
    (second : ∀ result, GoodFirst result → Points places GoodSecond (next result)) :
    Points places GoodSecond (reading >>= next) := by
  cases first with
  | ok isGood =>
      exact second _ isGood
  | error pointsTo =>
      exact .error pointsTo

/-- What a reading yields may be weakened. -/
theorem of_imp
    {Result : Type}
    {Good Better : Result → Prop}
    {reading : Except SyntaxError Result}
    (points : Points places Better reading)
    (imp : ∀ result, Better result → Good result) :
    Points places Good reading := by
  cases points with
  | ok isGood =>
      exact .ok (imp _ isGood)
  | error pointsTo =>
      exact .error pointsTo

/-- A result is the one that was read. -/
theorem withReading
    {Result : Type}
    {Good : Result → Prop}
    {reading : Except SyntaxError Result}
    (points : Points places Good reading) :
    Points places (fun result => reading = .ok result ∧ Good result) reading := by
  cases points with
  | ok isGood =>
      exact .ok ⟨rfl, isGood⟩
  | error pointsTo =>
      exact .error pointsTo

/-- An error is enclosed in a construct that is at one of the places. -/
theorem inside
    {Result : Type}
    {Good : Result → Prop}
    {reading : Except SyntaxError Result}
    {position : Position}
    (points : Points places Good reading)
    (isPlace : places position)
    (enclosure : Enclosure) :
    Points places Good (reading.mapError (.inside position enclosure)) := by
  cases points with
  | ok isGood =>
      exact .ok isGood
  | error pointsTo =>
      exact .error ⟨isPlace, pointsTo⟩

/-- A bound on the tokens ahead may be raised. -/
theorem weaken
    {Tree : Type}
    {limit larger : Nat}
    {reading : Except SyntaxError (Tree × TokenCursor)}
    (points : Points places (Both Any (TokenCursor.Below places limit)) reading)
    (notLess : limit ≤ larger) :
    Points places (Both Any (TokenCursor.Below places larger)) reading := by
  refine points.of_imp ?_
  rintro _ ⟨-, below⟩
  exact .below trivial below notLess

end Points

variable {cursor : TokenCursor}

/-- Any token is taken, with the tokens inside it. -/
theorem points_next
    (among : cursor.Among places)
    (context : String) :
    Points places
      (fun taken =>
        (∀ inner ∈ taken.1.flattened, places inner.position) ∧
          taken.2.Among places ∧ taken.1.size + sizeAll taken.2.ahead = sizeAll cursor.ahead)
      (cursor.next context) := by
  rcases cursor with ⟨behind, _ | ⟨token, tokens⟩⟩
  · exact .error among.position
  · exact .ok ⟨among.first, among.rest, (sizeAll_cons token tokens).symm⟩

/-- A token that is wanted has a place in the script, or is refused at one. -/
theorem points_want
    (among : cursor.Among places)
    (kind : TokenKind)
    (context : String) :
    Points places
      (Both (fun token => places token.position)
        (TokenCursor.Below places (sizeAll cursor.ahead)))
      (cursor.want kind context) := by
  rcases cursor with ⟨behind, _ | ⟨token, tokens⟩⟩
  · exact .error among.position
  · simp only [TokenCursor.want, TokenCursor.expect]
    split
    · exact .ok ⟨among.position, among.below⟩
    · exact .error among.position

/-- A name that is wanted has a place in the script, or is refused at one. -/
theorem points_name
    (among : cursor.Among places)
    (context : String) :
    Points places
      (Both (fun identifier => places identifier.position)
        (TokenCursor.Below places (sizeAll cursor.ahead)))
      (name cursor context) := by
  refine (points_want among .name context).bind ?_
  rintro _ ⟨isPlace, rest⟩
  exact .ok ⟨isPlace, rest⟩

/-- A name that is not visible is refused at its place. -/
theorem points_visibleName
    {identifier : Identifier}
    (isPlace : places identifier.position)
    (scope : Scope) :
    Points places Any (visibleName scope identifier) := by
  unfold visibleName
  split
  · exact .ok trivial
  · exact .error isPlace

/-- Tokens after an interpolation are refused where they stand. -/
theorem points_endOfInterpolation (among : cursor.Among places) :
    Points places Any (endOfInterpolation cursor) := by
  rcases cursor with ⟨behind, _ | ⟨token, tokens⟩⟩
  · exact .ok trivial
  · exact .error among.position

/-- With a budget of eight steps for each token and some more, a reading among tokens at some places
points at one of them if it fails.  What it leaves is less than the tokens and some slack. -/
def Locates {Result : Type} (places : Position → Prop) (extra slack budget : Nat)
    (lift : (TokenCursor → Prop) → Result → Prop)
    (reading : Nat → TokenCursor → Except SyntaxError Result) : Prop :=
  ∀ cursor : TokenCursor,
    cursor.Among places → 8 * sizeAll cursor.ahead + extra ≤ budget →
      Points places (lift (TokenCursor.Below places (sizeAll cursor.ahead + slack)))
        (reading budget cursor)

/-- A reading refuses something inside the script from a cursor that its budget is enough for. -/
theorem Locates.points
    {Result : Type}
    {extra slack budget : Nat}
    {lift : (TokenCursor → Prop) → Result → Prop}
    {reading : Nat → TokenCursor → Except SyntaxError Result}
    (locates : Locates places extra slack budget lift reading)
    (among : cursor.Among places)
    (enough : 8 * sizeAll cursor.ahead + extra ≤ budget) :
    Points places (lift (TokenCursor.Below places (sizeAll cursor.ahead + slack)))
      (reading budget cursor) :=
  locates cursor among enough

/-- With one step more than none, only cursors that the step can be paid for are to be looked at. -/
theorem Locates.of_step
    {Result : Type}
    {extra slack budget : Nat}
    {lift : (TokenCursor → Prop) → Result → Prop}
    {reading : Nat → TokenCursor → Except SyntaxError Result}
    (steps :
      ∀ cursor : TokenCursor,
        cursor.Among places → 8 * sizeAll cursor.ahead + extra ≤ budget + 1 →
          Points places (lift (TokenCursor.Below places (sizeAll cursor.ahead + slack)))
            (reading (budget + 1) cursor)) :
    Locates places extra slack (budget + 1) lift reading :=
  steps

/-- A reading that has no budget for a first step need not be looked at. -/
theorem Locates.zero
    {Result : Type}
    {extra slack : Nat}
    {lift : (TokenCursor → Prop) → Result → Prop}
    {reading : Nat → TokenCursor → Except SyntaxError Result}
    (positive : 0 < extra) :
    Locates places extra slack 0 lift reading := by
  intro cursor among enough
  omega

/-- How the functions for expressions point with a budget. -/
structure LocatesExprs (places : Position → Prop) (budget : Nat) : Prop where
  expr : ∀ grammar scope, Locates places 2 0 budget (Both Any) (Parser.expr · grammar scope)
  operation :
    ∀ grammar scope bound left,
      Locates places 1 1 budget (Both Any) (Parser.operation · grammar scope bound left)
  operand :
    ∀ grammar scope, Locates places 1 0 budget (Both Any) (Parser.operand · grammar scope)
  call :
    ∀ grammar scope function,
      Locates places 4 0 budget (Both Any) (Parser.call · grammar scope function)
  exprList :
    ∀ grammar scope closing context,
      Locates places 3 0 budget (Both Any) (Parser.exprList · grammar scope closing context)
  templateParts :
    ∀ grammar scope {position parts}, places position →
      (∀ inner ∈ Part.flattenedAll parts, places inner.position) →
      8 * Part.sizeAll parts + 1 ≤ budget →
      Points places Any (Parser.templateParts budget grammar scope position parts)
  interpolation :
    ∀ grammar scope {token tokens},
      (∀ inner ∈ flattenedAll (token :: tokens), places inner.position) →
      8 * sizeAll (token :: tokens) + 3 ≤ budget →
      Points places Any (Parser.interpolation budget grammar scope (token :: tokens))

namespace LocatesExprs

variable {budget : Nat} (smaller : LocatesExprs places budget)

include smaller

/-- An expression is refused inside the script if its operand or its operations are. -/
private theorem expr_step (grammar : Grammar) (scope : Scope) :
    Locates places 2 0 (budget + 1) (Both Any) (Parser.expr · grammar scope) := by
  refine .of_step fun cursor among enough => ?_
  rw [Parser.expr]
  refine ((smaller.operand grammar scope).points among (by omega)).bind ?_
  rintro _ ⟨-, amongRest, fewer⟩
  exact ((smaller.operation grammar scope 0 _).points amongRest (by omega)).weaken (by omega)

/-- An operation is refused inside the script if its right operand or what goes on after it is. -/
private theorem operation_step (grammar : Grammar) (scope : Scope) (bound : Nat) (left : Expr) :
    Locates places 1 1 (budget + 1) (Both Any)
      (Parser.operation · grammar scope bound left) := by
  refine .of_step fun cursor among enough => ?_
  rw [Parser.operation]
  cases continued : tighterOperator? grammar bound cursor with
  | none =>
      exact .ok ⟨trivial, among, Nat.lt_succ_self _⟩
  | some operator =>
      obtain ⟨token, rest, shape, -, -⟩ := shape_of_tighterOperator? continued
      obtain ⟨amongOperand, afterOperator⟩ := among.skip (by simp [shape])
      refine ((smaller.operand grammar scope).points amongOperand (by omega)).bind ?_
      rintro _ ⟨-, amongFirst, afterFirst⟩
      refine ((smaller.operation grammar scope _ _).points amongFirst (by omega)).bind ?_
      rintro _ ⟨-, amongRight, afterRight⟩
      exact ((smaller.operation grammar scope bound _).points amongRight (by omega)).weaken
        (by omega)

/-- An operand is refused at its first token, or where something inside it is. -/
private theorem operand_step (grammar : Grammar) (scope : Scope) :
    Locates places 1 0 (budget + 1) (Both Any) (Parser.operand · grammar scope) := by
  refine .of_step fun cursor among enough => ?_
  rw [Parser.operand]
  refine (points_next among _).bind ?_
  rintro ⟨token, rest⟩ ⟨inner, amongRest, whole⟩
  dsimp only at inner amongRest whole ⊢
  have isPlace := inner token token.mem_flattened_self
  have positive := token.size_pos
  have below : rest.Below places (sizeAll cursor.ahead) := ⟨amongRest, by omega⟩
  cases token with
  | literal text value position =>
      exact .ok (.below trivial below (by omega))
  | template parts position =>
      rw [size_template] at whole
      refine (smaller.templateParts grammar scope isPlace ?_ (by omega)).bind ?_
      · exact fun token member => inner token (List.mem_cons_of_mem _ member)
      · rintro _ -
        exact .ok (.below trivial below (by omega))
  | name text position =>
      dsimp only
      split
      · exact ((smaller.call grammar scope _).points amongRest (by omega)).weaken (by omega)
      · refine (points_visibleName isPlace scope).bind ?_
        rintro _ -
        exact .ok (.below trivial below (by omega))
  | mark fixed spelling position =>
      cases fixed with
      | keyword word =>
          cases word with
          | nullWord =>
              exact .ok (.below trivial below (by omega))
          | _ =>
              exact .error isPlace
      | separator separator =>
          cases separator with
          | leftParen =>
              refine ((smaller.expr grammar scope).points amongRest (by omega)).bind ?_
              rintro _ ⟨-, amongInner, afterInner⟩
              refine (points_want amongInner _ _).bind ?_
              rintro _ ⟨-, closing⟩
              exact .ok (.below trivial closing (by omega))
          | leftBracket =>
              dsimp only
              split
              · next accepted =>
                  exact .ok (.below trivial (amongRest.accept? accepted) (by omega))
              · refine ((smaller.exprList grammar scope _ _).points amongRest (by omega)).bind ?_
                rintro _ ⟨-, elements⟩
                exact .ok (.below trivial elements (by omega))
          | _ =>
              exact .error isPlace
      | _ =>
          exact .error isPlace

/-- A call is refused inside the script if one of its arguments is. -/
private theorem call_step (grammar : Grammar) (scope : Scope) (function : Identifier) :
    Locates places 4 0 (budget + 1) (Both Any) (Parser.call · grammar scope function) := by
  refine .of_step fun cursor among enough => ?_
  rw [Parser.call]
  refine (points_want among _ _).bind ?_
  rintro _ ⟨-, amongOpening, afterOpening⟩
  dsimp only
  split
  · next accepted =>
      exact .ok (.below trivial (amongOpening.accept? accepted) (by omega))
  · refine ((smaller.exprList grammar scope _ _).points amongOpening (by omega)).bind ?_
    rintro _ ⟨-, arguments⟩
    exact .ok (.below trivial arguments (by omega))

/-- A list of expressions is refused inside the script if one of them is, or at the token that
should close it. -/
private theorem exprList_step
    (grammar : Grammar)
    (scope : Scope)
    (closing : Separator)
    (context : String) :
    Locates places 3 0 (budget + 1) (Both Any)
      (Parser.exprList · grammar scope closing context) := by
  refine .of_step fun cursor among enough => ?_
  rw [Parser.exprList]
  refine ((smaller.expr grammar scope).points among (by omega)).bind ?_
  rintro _ ⟨-, amongFirst, afterFirst⟩
  dsimp only
  split
  · next accepted =>
      obtain ⟨amongComma, afterComma⟩ := amongFirst.accept? accepted
      refine ((smaller.exprList grammar scope _ _).points amongComma (by omega)).bind ?_
      rintro _ ⟨-, others⟩
      exact .ok (.below trivial others (by omega))
  · refine (points_want amongFirst _ _).bind ?_
    rintro _ ⟨-, closing⟩
    exact .ok (.below trivial closing (by omega))

/-- A template is refused at its place or inside one of its interpolations. -/
private theorem templateParts_step
    (grammar : Grammar)
    (scope : Scope)
    {position : Position}
    {parts : List Part}
    (isPlace : places position)
    (stand : ∀ inner ∈ Part.flattenedAll parts, places inner.position)
    (enough : 8 * Part.sizeAll parts + 1 ≤ budget + 1) :
    Points places Any (Parser.templateParts (budget + 1) grammar scope position parts) := by
  rcases parts with _ | ⟨text | tokens, others⟩
  · exact .ok trivial
  · simp only [Part.sizeAll, Part.size] at enough
    have outside : ∀ inner ∈ Part.flattenedAll others, places inner.position := stand
    rw [Parser.templateParts]
    refine (smaller.templateParts grammar scope isPlace outside (by omega)).bind ?_
    rintro _ -
    exact .ok trivial
  · simp only [Part.sizeAll, Part.size] at enough
    obtain ⟨inside, outside⟩ := List.forall_mem_append.mp stand
    cases tokens with
    | nil =>
        -- There is no token inside to point at, but the template is one.
        exact .error isPlace
    | cons token tokens =>
        simp only [Parser.templateParts, inTemplate]
        refine ((smaller.interpolation grammar scope inside (by omega)).inside isPlace _).bind ?_
        rintro _ -
        refine (smaller.templateParts grammar scope isPlace outside (by omega)).bind ?_
        rintro _ -
        exact .ok trivial

/-- An interpolation is refused inside the script if its expression is, or at a token after that. -/
private theorem interpolation_step
    (grammar : Grammar)
    (scope : Scope)
    {token : Token}
    {tokens : List Token}
    (stand : ∀ inner ∈ flattenedAll (token :: tokens), places inner.position)
    (enough : 8 * sizeAll (token :: tokens) + 3 ≤ budget + 1) :
    Points places Any (Parser.interpolation (budget + 1) grammar scope (token :: tokens)) := by
  have among := TokenCursor.among_ofTokens stand
  rw [Parser.interpolation]
  refine ((smaller.expr grammar scope).points among ?_).bind ?_
  · simp only [TokenCursor.ofTokens]
    omega
  · rintro _ ⟨-, amongRest, -⟩
    refine (points_endOfInterpolation amongRest).bind ?_
    rintro _ -
    exact .ok trivial

end LocatesExprs

/-- Whatever refuses an expression is inside the script, for every budget. -/
theorem locatesExprs (places : Position → Prop) (budget : Nat) : LocatesExprs places budget := by
  induction budget with
  | zero =>
      exact
        { expr := fun _ _ => Locates.zero (by decide)
          operation := fun _ _ _ _ => Locates.zero (by decide)
          operand := fun _ _ => Locates.zero (by decide)
          call := fun _ _ _ => Locates.zero (by decide)
          exprList := fun _ _ _ _ => Locates.zero (by decide)
          templateParts := fun _ _ _ _ _ _ enough => absurd enough (by omega)
          interpolation := fun _ _ _ _ _ enough => absurd enough (by omega) }
  | succ budget smaller =>
      exact
        { expr := smaller.expr_step
          operation := smaller.operation_step
          operand := smaller.operand_step
          call := smaller.call_step
          exprList := smaller.exprList_step
          templateParts := smaller.templateParts_step
          interpolation := smaller.interpolation_step }

section Statements

/-- A name that cannot be declared is refused at its place. -/
theorem points_declare
    {identifier : Identifier}
    (isPlace : places identifier.position)
    (scope : Scope)
    (mutable : Bool) :
    Points places Any (declare scope identifier mutable) := by
  unfold declare
  split
  · exact .error isPlace
  · exact .ok trivial

/-- A constant that cannot be visited by a loop is refused at its place. -/
theorem points_checkBound
    {bound : Expr}
    (isPlace : places bound.position) :
    Points places Any (checkBound bound) := by
  unfold checkBound
  split
  · exact .ok trivial
  · exact .error isPlace
  · exact .error isPlace
  · exact .ok trivial

/-- A break or a continue outside of loops is refused at its place. -/
theorem points_loopControl
    {position : Position}
    (isPlace : places position)
    (among : cursor.Among places)
    (place : Place)
    (control : LoopControl) :
    Points places (Both Any (TokenCursor.Below places (sizeAll cursor.ahead + 1)))
      (loopControl place control position cursor) := by
  unfold loopControl
  split
  · exact .ok ⟨trivial, among, Nat.lt_succ_self _⟩
  · exact .error isPlace

/-- An expression that is read is at one of the places. -/
theorem place_of_readsExpr
    {grammar : Grammar}
    {scope : Scope}
    {value : Expr}
    {after : List Token}
    (among : cursor.Among places)
    (reads : ReadsExpr grammar scope cursor.ahead value after) :
    places value.position := by
  obtain ⟨taken, shape, derives⟩ := reads.derives
  have starts := derives.startsAt
  cases taken with
  | nil =>
      cases starts
  | cons first others =>
      rw [← Option.some.inj starts]
      refine among.tokens first (mem_flattenedAll_of_mem ?_)
      rw [shape]
      exact List.mem_cons_self

variable {budget : Nat} {grammar : Grammar} {scope : Scope} {place : Place}
variable (among : cursor.Among places)

include among

/-- A condition is refused inside the script. -/
theorem points_condition
    (enough : 8 * sizeAll cursor.ahead + 1 ≤ budget)
    (context : String) :
    Points places
      (Both (fun test => places test.position) (TokenCursor.Below places (sizeAll cursor.ahead)))
      (condition budget grammar scope context cursor) := by
  have exprs := locatesExprs places budget
  refine (points_want among _ context).bind ?_
  rintro _ ⟨-, amongOpening, afterOpening⟩
  refine ((exprs.expr grammar scope).points amongOpening (by omega)).withReading.bind ?_
  rintro _ ⟨read, ⟨-, amongInner, afterInner⟩⟩
  have isPlace := place_of_readsExpr amongOpening ((acceptsExprs budget).expr read)
  refine (points_want amongInner _ context).bind ?_
  rintro _ ⟨-, closing⟩
  exact .ok (.below isPlace closing (by omega))

/-- A declaration is refused inside the script. -/
theorem points_declaration
    (enough : 8 * sizeAll cursor.ahead + 1 ≤ budget)
    (mutable : Bool)
    (keyword : Token) :
    Points places (Both Any (Both Any (TokenCursor.Below places (sizeAll cursor.ahead))))
      (declaration budget grammar scope mutable keyword cursor) := by
  have exprs := locatesExprs places budget
  refine (points_name among _).bind ?_
  rintro _ ⟨isPlace, amongName, afterName⟩
  refine (points_want amongName _ _).bind ?_
  rintro _ ⟨-, amongSign, afterSign⟩
  refine ((exprs.expr grammar scope).points amongSign (by omega)).bind ?_
  rintro _ ⟨-, value⟩
  refine (points_declare isPlace scope mutable).bind ?_
  rintro _ -
  exact .ok ⟨trivial, .below trivial value (by omega)⟩

/-- An assignment is refused inside the script. -/
theorem points_assignment
    {identifier : Identifier}
    (isPlace : places identifier.position)
    (enough : 8 * sizeAll cursor.ahead + 2 ≤ budget) :
    Points places (Both Any (Both Any (TokenCursor.Below places (sizeAll cursor.ahead))))
      (assignment budget grammar scope identifier cursor) := by
  refine (((locatesExprs places budget).expr grammar scope).points among enough).bind ?_
  rintro _ ⟨-, value⟩
  dsimp only
  split
  · split
    · exact .error isPlace
    · refine (points_declare isPlace scope true).bind ?_
      rintro _ -
      exact .ok ⟨trivial, .below trivial value (Nat.le_refl _)⟩
  · split
    · exact .ok ⟨trivial, .below trivial value (Nat.le_refl _)⟩
    · exact .error isPlace

/-- A statement with a name first is refused inside the script. -/
theorem points_nameStatement
    {identifier : Identifier}
    (isPlace : places identifier.position)
    (enough : 8 * sizeAll cursor.ahead + 4 ≤ budget) :
    Points places (Both Any (Both Any (TokenCursor.Below places (sizeAll cursor.ahead + 1))))
      (nameStatement budget grammar scope identifier cursor) := by
  have exprs := locatesExprs places budget
  unfold nameStatement
  split
  · next isSign =>
      obtain ⟨amongSign, afterSign⟩ := among.skip (TokenCursor.ahead_ne_nil_of_kind isSign)
      refine (points_assignment amongSign isPlace (by omega)).of_imp ?_
      rintro _ ⟨-, -, value⟩
      exact ⟨trivial, .below trivial value (by omega)⟩
  · refine ((exprs.call grammar scope identifier).points among (by omega)).bind ?_
    rintro _ ⟨-, amongCall, afterCall⟩
    refine ((exprs.operation grammar scope 0 _).points amongCall (by omega)).bind ?_
    rintro _ ⟨-, value⟩
    exact .ok ⟨trivial, .below trivial value (by omega)⟩
  · refine (points_visibleName isPlace scope).bind ?_
    rintro left -
    refine ((exprs.operation grammar scope 0 left).points among (by omega)).bind ?_
    rintro _ ⟨-, value⟩
    exact .ok ⟨trivial, .below trivial value (by omega)⟩
  · exact .error isPlace

/-- A return is refused inside the script. -/
theorem points_returnStatement
    (keyword : Token)
    (isPlace : places keyword.position)
    (enough : 8 * sizeAll cursor.ahead + 2 ≤ budget) :
    Points places (Both Any (TokenCursor.Below places (sizeAll cursor.ahead + 1)))
      (returnStatement budget grammar place scope keyword cursor) := by
  simp only [returnStatement]
  split
  · exact .error isPlace
  · split
    · exact .ok ⟨trivial, among, Nat.lt_succ_self _⟩
    · split
      · refine (((locatesExprs places budget).expr grammar scope).points among enough).bind ?_
        rintro _ ⟨-, value⟩
        exact .ok (.below trivial value (by omega))
      · exact .ok ⟨trivial, among, Nat.lt_succ_self _⟩

omit among in
/-- A branch with a condition follows one or two keywords. -/
theorem below_of_conditionalElse?
    {rest : TokenCursor}
    (among : cursor.Among places)
    (follows : conditionalElse? cursor = some rest) :
    rest.Below places (sizeAll cursor.ahead) := by
  unfold conditionalElse? at follows
  split at follows
  · next accepted =>
      cases follows
      exact among.accept? accepted
  · split at follows
    · next isPair =>
        simp only [Bool.and_eq_true, decide_eq_true_eq] at isPair
        cases follows
        rcases cursor with ⟨behind, _ | ⟨token, _ | ⟨second, tokens⟩⟩⟩
        · cases isPair.1
        · cases isPair.2
        · obtain ⟨amongSecond, fewer⟩ := among.rest.below
          exact ⟨amongSecond, Nat.lt_trans fewer (sizeAll_lt_cons token _)⟩
    · cases follows

end Statements

/-- How the functions for statements point with a budget. -/
structure LocatesStmts (places : Position → Prop) (budget : Nat) : Prop where
  statement :
    ∀ grammar place scope,
      Locates places 1 0 budget (fun good => Both Any (Both Any good))
        (Parser.statement · grammar place scope)
  branch :
    ∀ grammar place scope position context,
      Locates places 2 0 budget (Both Any)
        (Parser.branch · grammar place scope position context)
  alternatives :
    ∀ grammar place scope,
      Locates places 1 1 budget (Both Any) (Parser.alternatives · grammar place scope)
  forLoop :
    ∀ grammar place scope position,
      Locates places 2 0 budget (Both Any) (Parser.forLoop · grammar place scope position)
  block :
    ∀ grammar place scope,
      Locates places 1 0 budget (Both Any) (Parser.block · grammar place scope)
  blockStatements :
    ∀ grammar place scope,
      Locates places 2 1 budget (Both Any) (Parser.blockStatements · grammar place scope)

namespace LocatesStmts

variable {budget : Nat} (smaller : LocatesStmts places budget)

include smaller

/-- A statement after its keyword. -/
private theorem points_keyword
    {rest : TokenCursor}
    {word : Keyword}
    {spelling : String}
    {position : Position}
    (taken :
      cursor.next "start of statement" = .ok (.mark (.keyword word) spelling position, rest))
    (isPlace : places position)
    (amongRest : rest.Among places)
    (enough : 8 * sizeAll rest.ahead + 8 ≤ budget)
    (grammar : Grammar)
    (place : Place)
    (scope : Scope) :
    Points places (Both Any (Both Any (TokenCursor.Below places (sizeAll rest.ahead + 1))))
      (Parser.statement (budget + 1) grammar place scope cursor) := by
  rw [Parser.statement, taken, ok_bind]
  cases word with
  | varWord =>
      refine (points_declaration amongRest (by omega) false _).of_imp ?_
      rintro _ ⟨-, -, value⟩
      exact ⟨trivial, .below trivial value (by omega)⟩
  | mutableVarWord =>
      refine (points_declaration amongRest (by omega) true _).of_imp ?_
      rintro _ ⟨-, -, value⟩
      exact ⟨trivial, .below trivial value (by omega)⟩
  | ifWord =>
      refine ((smaller.branch grammar place scope position _).points amongRest (by omega)).bind ?_
      rintro _ ⟨-, amongFirst, afterFirst⟩
      refine ((smaller.alternatives grammar place scope).points amongFirst (by omega)).bind ?_
      rintro _ ⟨-, others⟩
      exact .ok ⟨trivial, .below trivial others (by omega)⟩
  | forWord =>
      refine ((smaller.forLoop grammar place scope position).points amongRest (by omega)).bind ?_
      rintro _ ⟨-, loop⟩
      exact .ok ⟨trivial, .below trivial loop (by omega)⟩
  | whileWord =>
      refine (points_condition amongRest (by omega) _).bind ?_
      rintro _ ⟨-, amongTest, afterTest⟩
      refine ((smaller.block grammar _ _).points amongTest (by omega)).bind ?_
      rintro _ ⟨-, body⟩
      exact .ok ⟨trivial, .below trivial body (by omega)⟩
  | returnWord =>
      refine (points_returnStatement amongRest (.mark (.keyword .returnWord) spelling position)
        isPlace (by omega)).bind ?_
      rintro _ ⟨-, value⟩
      exact .ok ⟨trivial, .below trivial value (by omega)⟩
  | breakWord =>
      refine (points_loopControl isPlace amongRest place .leave).bind ?_
      rintro _ ⟨-, control⟩
      exact .ok ⟨trivial, .below trivial control (by omega)⟩
  | continueWord =>
      refine (points_loopControl isPlace amongRest place .next).bind ?_
      rintro _ ⟨-, control⟩
      exact .ok ⟨trivial, .below trivial control (by omega)⟩
  | _ =>
      exact .error isPlace

/-- A statement is refused at its first token, or where something inside it is. -/
private theorem statement_step (grammar : Grammar) (place : Place) (scope : Scope) :
    Locates places 1 0 (budget + 1) (fun good => Both Any (Both Any good))
      (Parser.statement · grammar place scope) := by
  refine .of_step fun cursor among enough => ?_
  have points := points_next among "start of statement"
  cases taken : cursor.next "start of statement" with
  | error error =>
      rw [taken] at points
      rw [Parser.statement, taken]
      cases points with
      | error pointsTo =>
          exact .error pointsTo
  | ok first =>
      obtain ⟨token, rest⟩ := first
      rw [taken] at points
      obtain ⟨inner, amongRest, whole⟩ := points
      dsimp only at inner amongRest whole
      have isPlace := inner token token.mem_flattened_self
      cases token with
      | literal text value position =>
          rw [Parser.statement, taken, ok_bind]
          exact .error isPlace
      | template parts position =>
          rw [Parser.statement, taken, ok_bind]
          exact .error isPlace
      | name text position =>
          rw [size_name] at whole
          rw [Parser.statement, taken, ok_bind]
          refine (points_nameStatement amongRest isPlace (by omega)).of_imp ?_
          rintro _ ⟨-, -, value⟩
          exact ⟨trivial, .below trivial value (by omega)⟩
      | mark fixed spelling position =>
          rw [size_mark] at whole
          cases fixed with
          | keyword word =>
              refine (smaller.points_keyword taken isPlace amongRest (by omega) grammar place
                scope).of_imp ?_
              rintro _ ⟨-, -, value⟩
              exact ⟨trivial, .below trivial value (by omega)⟩
          | _ =>
              rw [Parser.statement, taken, ok_bind]
              exact .error isPlace

/-- A branch is refused inside the script if its condition or its block is. -/
private theorem branch_step
    (grammar : Grammar)
    (place : Place)
    (scope : Scope)
    (position : Position)
    (context : String) :
    Locates places 2 0 (budget + 1) (Both Any)
      (Parser.branch · grammar place scope position context) := by
  refine .of_step fun cursor among enough => ?_
  rw [Parser.branch]
  refine (points_condition among (by omega) context).bind ?_
  rintro _ ⟨-, amongTest, afterTest⟩
  refine ((smaller.block grammar place _).points amongTest (by omega)).bind ?_
  rintro _ ⟨-, body⟩
  exact .ok (.below trivial body (by omega))

/-- Alternatives are refused inside the script if one of them is. -/
private theorem alternatives_step (grammar : Grammar) (place : Place) (scope : Scope) :
    Locates places 1 1 (budget + 1) (Both Any) (Parser.alternatives · grammar place scope) := by
  refine .of_step fun cursor among enough => ?_
  rw [Parser.alternatives]
  split
  · next follows =>
      obtain ⟨amongElse, afterElse⟩ := below_of_conditionalElse? among follows
      refine ((smaller.branch grammar place scope cursor.position _).points amongElse
        (by omega)).bind ?_
      rintro _ ⟨-, amongNext, afterNext⟩
      refine ((smaller.alternatives grammar place scope).points amongNext (by omega)).bind ?_
      rintro _ ⟨-, others⟩
      exact .ok (.below trivial others (by omega))
  · split
    · exact .ok ⟨trivial, among, Nat.lt_succ_self _⟩
    · next accepted =>
        obtain ⟨amongElse, afterElse⟩ := among.accept? accepted
        refine ((smaller.block grammar place _).points amongElse (by omega)).bind ?_
        rintro _ ⟨-, body⟩
        exact .ok (.below trivial body (by omega))

/-- A loop over values is refused inside the script if its header or its block is. -/
private theorem forLoop_step
    (grammar : Grammar)
    (place : Place)
    (scope : Scope)
    (position : Position) :
    Locates places 2 0 (budget + 1) (Both Any)
      (Parser.forLoop · grammar place scope position) := by
  refine .of_step fun cursor among enough => ?_
  rw [Parser.forLoop]
  refine (points_name among _).bind ?_
  rintro _ ⟨keyIsPlace, amongKey, afterKey⟩
  refine (points_name amongKey _).bind ?_
  rintro _ ⟨linkIsPlace, amongLink, afterLink⟩
  dsimp only
  split
  · exact .error linkIsPlace
  · refine (points_condition amongLink (by omega) _).bind ?_
    rintro bound ⟨boundIsPlace, amongBound, afterBound⟩
    refine (points_checkBound boundIsPlace).bind ?_
    rintro _ -
    refine (points_declare keyIsPlace _ false).bind ?_
    rintro inside -
    refine ((smaller.block grammar _ inside).points amongBound (by omega)).bind ?_
    rintro _ ⟨-, body⟩
    exact .ok (.below trivial body (by omega))

/-- A block is refused inside the script if one of its statements is. -/
private theorem block_step (grammar : Grammar) (place : Place) (scope : Scope) :
    Locates places 1 0 (budget + 1) (Both Any) (Parser.block · grammar place scope) := by
  refine .of_step fun cursor among enough => ?_
  rw [Parser.block]
  refine (points_want among _ _).bind ?_
  rintro _ ⟨-, amongOpening, afterOpening⟩
  refine ((smaller.blockStatements grammar place scope).points amongOpening (by omega)).bind ?_
  rintro _ ⟨-, amongStatements, afterStatements⟩
  refine (points_want amongStatements _ _).bind ?_
  rintro _ ⟨-, closing⟩
  exact .ok (.below trivial closing (by omega))

/-- The statements of a block are refused inside the script if one of them is. -/
private theorem blockStatements_step (grammar : Grammar) (place : Place) (scope : Scope) :
    Locates places 2 1 (budget + 1) (Both Any)
      (Parser.blockStatements · grammar place scope) := by
  refine .of_step fun cursor among enough => ?_
  rw [Parser.blockStatements]
  split
  · exact .ok ⟨trivial, among, Nat.lt_succ_self _⟩
  · refine ((smaller.statement grammar place scope).points among (by omega)).bind ?_
    rintro _ ⟨-, -, amongFirst, afterFirst⟩
    refine ((smaller.blockStatements grammar place _).points amongFirst (by omega)).bind ?_
    rintro _ ⟨-, others⟩
    exact .ok (.below trivial others (by omega))

end LocatesStmts

/-- Whatever refuses a statement is inside the script, for every budget. -/
theorem locatesStmts (places : Position → Prop) (budget : Nat) : LocatesStmts places budget := by
  induction budget with
  | zero =>
      constructor <;> intros <;> exact Locates.zero (by decide)
  | succ budget smaller =>
      exact
        { statement := smaller.statement_step
          branch := smaller.branch_step
          alternatives := smaller.alternatives_step
          forLoop := smaller.forLoop_step
          block := smaller.block_step
          blockStatements := smaller.blockStatements_step }

section Items

/-- A function with a name that is taken is refused at its place. -/
theorem points_newFunction
    {identifier : Identifier}
    (isPlace : places identifier.position)
    (functions : Signatures) :
    Points places Any (newFunction functions identifier) := by
  unfold newFunction
  split
  · exact .ok trivial
  · split <;> exact .error isPlace

/-- Names are at some places. -/
def AtPlaces (places : Position → Prop) (names : List Identifier) : Prop :=
  ∀ identifier ∈ names, places identifier.position

/-- Parameters of one name are refused at the place of the later one. -/
theorem points_declareAll
    {names : List Identifier}
    (arePlaces : AtPlaces places names)
    (scope : Scope) :
    Points places Any (declareAll scope names) := by
  induction names generalizing scope with
  | nil =>
      exact .ok trivial
  | cons first rest inductionHypothesis =>
      obtain ⟨firstIsPlace, others⟩ := List.forall_mem_cons.mp arePlaces
      refine (points_declare firstIsPlace scope false).bind ?_
      rintro inside -
      exact inductionHypothesis others inside

/-- A list of parameters is refused inside the script, for every budget. -/
theorem parameterList_locates (function : String) (budget : Nat) :
    Locates places 1 0 budget (Both (AtPlaces places)) (parameterList · function) := by
  induction budget with
  | zero =>
      exact Locates.zero (by decide)
  | succ budget inductionHypothesis =>
      refine .of_step fun cursor among enough => ?_
      rw [parameterList]
      refine (points_name among _).bind ?_
      rintro _ ⟨isPlace, amongName, afterName⟩
      dsimp only
      split
      · next accepted =>
          obtain ⟨amongComma, afterComma⟩ := amongName.accept? accepted
          refine (inductionHypothesis.points amongComma (by omega)).bind ?_
          rintro _ ⟨arePlaces, others⟩
          exact .ok (.below (List.forall_mem_cons.mpr ⟨isPlace, arePlaces⟩) others (by omega))
      · refine (points_want amongName _ _).bind ?_
        rintro _ ⟨-, closing⟩
        exact .ok (.below (List.forall_mem_singleton.mpr isPlace) closing (by omega))

variable {budget : Nat} {grammar : Grammar} {known : Declarations}
variable (among : cursor.Among places)

include among

/-- Parameters are refused inside the script. -/
theorem points_parameters
    (enough : 8 * sizeAll cursor.ahead + 1 ≤ budget)
    (function : String) :
    Points places (Both (AtPlaces places) (TokenCursor.Below places (sizeAll cursor.ahead)))
      (parameters budget function cursor) := by
  refine (points_want among _ _).bind ?_
  rintro _ ⟨-, amongOpening, afterOpening⟩
  dsimp only
  split
  · next accepted =>
      exact .ok (.below (List.forall_mem_nil _) (amongOpening.accept? accepted) (by omega))
  · refine ((parameterList_locates function budget).points amongOpening (by omega)).of_imp ?_
    rintro _ ⟨arePlaces, names⟩
    exact .below arePlaces names (by omega)

/-- The body of a function is refused inside the script. -/
theorem points_functionBody
    {names : List Identifier}
    (arePlaces : AtPlaces places names)
    (enough : 8 * sizeAll cursor.ahead + 1 ≤ budget)
    (scope : Scope)
    (function : String) :
    Points places (Both Any (TokenCursor.Below places (sizeAll cursor.ahead)))
      (functionBody budget grammar scope function names cursor) := by
  refine (points_declareAll arePlaces _).bind ?_
  rintro inside -
  exact ((locatesStmts places budget).block grammar _ inside).points among enough

/-- The definition of a function is refused inside the script. -/
theorem points_functionDefinition
    {position : Position}
    (isPlace : places position)
    (enough : 8 * sizeAll cursor.ahead + 1 ≤ budget) :
    Points places (Both Any (TokenCursor.Below places (sizeAll cursor.ahead)))
      (functionDefinition budget grammar known position cursor) := by
  refine (points_name among _).bind ?_
  rintro _ ⟨nameIsPlace, amongName, afterName⟩
  refine (points_newFunction nameIsPlace known.functions).bind ?_
  rintro _ -
  refine (points_parameters amongName (by omega) _).bind ?_
  rintro _ ⟨arePlaces, amongParameters, afterParameters⟩
  refine ((points_functionBody amongParameters arePlaces (by omega) known.scope _).inside isPlace
    _).bind ?_
  rintro _ ⟨-, closing⟩
  exact .ok (.below trivial closing (by omega))

/-- An item of a file is refused inside the script. -/
theorem points_item
    (notAtEnd : cursor.ahead ≠ [])
    (enough : 8 * sizeAll cursor.ahead + 1 ≤ budget) :
    Points places (Both Any (Both Any (TokenCursor.Below places (sizeAll cursor.ahead))))
      (item budget grammar known cursor) := by
  obtain ⟨amongKeyword, afterKeyword⟩ := among.skip notAtEnd
  unfold item
  split
  · refine (points_functionDefinition amongKeyword among.position (by omega)).bind ?_
    rintro _ ⟨-, definition⟩
    exact .ok ⟨trivial, .below trivial definition (by omega)⟩
  · refine (points_name amongKeyword _).bind ?_
    rintro _ ⟨isPlace, name⟩
    refine (points_declare isPlace _ false).bind ?_
    rintro _ -
    exact .ok ⟨trivial, .below trivial name (by omega)⟩
  · refine (((locatesStmts places budget).statement grammar _ known.scope).points among
      enough).bind ?_
    rintro _ ⟨-, -, rest⟩
    exact .ok ⟨trivial, .below trivial rest (by omega)⟩

omit among in
/-- The items of a file are refused inside the script. -/
theorem points_items
    (among : cursor.Among places)
    (enough : 8 * sizeAll cursor.ahead + 2 ≤ budget) :
    Points places Any (items budget grammar known cursor).2 := by
  induction budget generalizing known cursor with
  | zero =>
      omega
  | succ budget inductionHypothesis =>
      cases ended : cursor.atEnd with
      | true =>
          simp only [items, ended, if_true]
          exact .ok trivial
      | false =>
          have notAtEnd : cursor.ahead ≠ [] := by
            simpa [TokenCursor.atEnd] using ended
          rw [items_snd ended]
          refine (points_item among notAtEnd (by omega)).bind ?_
          rintro _ ⟨-, -, amongRest, afterFirst⟩
          refine (inductionHypothesis amongRest (by omega)).bind ?_
          rintro _ -
          exact .ok trivial

end Items

end Parser

end Scripting
