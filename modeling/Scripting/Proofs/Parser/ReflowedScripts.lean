import Scripting.Proofs.Parser.Reflow

namespace Scripting

/-!
# Scripts in another layout

Two scripts with the same tokens at other positions are parsed to files that are equal up to
positions, or refused with errors that are.  A single decision of the parser looks at positions:
whether `return` has a value depends on the line of the next token.  So the two have to agree on
which tokens are on the line of the `return` before them.
-/

/-- Declarations that are equal up to positions. -/
structure Declarations.Alike (known other : Declarations) : Prop where
  scope : known.scope.Alike other.scope
  functions : other.functions = known.functions

theorem Identifier.Alike.map_text_eq
    {names others : List Identifier}
    (alike : List.Forall₂ Identifier.Alike names others) :
    others.map Identifier.text = names.map Identifier.text := by
  induction alike with
  | nil =>
      rfl
  | cons first _ inductionHypothesis =>
      cases first
      simp only [List.map_cons, inductionHypothesis]

namespace Parser

section Names

variable {keepsReturns : Bool} {cursor otherCursor : TokenCursor}

/-- A name is read alike, or its absence refused alike, wherever the lines break. -/
theorem name_agrees
    (reflowed : cursor.Reflowed keepsReturns otherCursor)
    (context : String) :
    Agrees (Together Identifier.Alike (TokenCursor.Reflowed keepsReturns)) (name cursor context)
      (name otherCursor context) := by
  refine (reflowed.want _ _).bind ?_
  rintro _ _ ⟨sameForm, rest⟩
  have alike : ∀ {token other : Token}, token.SameForm other →
      (identifierOf token).Alike (identifierOf other) := by
    intro token other sameForm
    cases sameForm <;> exact .mk
  exact .alike ⟨alike sameForm, rest⟩

end Names

section Declaring

variable {scope otherScope : Scope}

/-- A variable is declared where names are free on both sides, or refused on both. -/
theorem declare_agrees
    (scopes : scope.Alike otherScope)
    {identifier other : Identifier}
    (alike : identifier.Alike other)
    (mutable : Bool) :
    Agrees Scope.Alike (declare scope identifier mutable) (declare otherScope other mutable) := by
  obtain ⟨⟩ := alike
  next word place otherPlace =>
  have sameFound := congrArg (fun layout => layout.current.find? word) scopes.layout
  simp only [ScopeChain.current_layout, Frame.find?_layout] at sameFound
  unfold declare
  cases found : scope.current.find? word with
  | none =>
      have otherFound := scopes.suits.current_find?_eq_none found
      simp only [otherFound]
      exact .alike (scopes.define word mutable place otherPlace)
  | some previous =>
      rw [found, Option.map_some, Option.map_eq_some_iff] at sameFound
      obtain ⟨otherPrevious, otherFound, -⟩ := sameFound
      simp only [otherFound]
      exact .refused (.rule .variableRedefined)

/-- Declaring the same names in like scopes succeeds with like scopes, or is refused alike. -/
theorem declareAll_agrees
    (scopes : scope.Alike otherScope)
    {names others : List Identifier}
    (alike : List.Forall₂ Identifier.Alike names others) :
    Agrees Scope.Alike (declareAll scope names) (declareAll otherScope others) := by
  induction alike generalizing scope otherScope with
  | nil =>
      exact .alike scopes
  | cons first _ inductionHypothesis =>
      refine (declare_agrees scopes first false).bind ?_
      intro inside otherInside insideAlike
      exact inductionHypothesis insideAlike

/-- The bound of a loop is admitted or refused whatever places its parts stand at. -/
theorem checkBound_agrees
    {bound other : Expr}
    (alike : bound.Alike other) :
    Agrees (· = ·) (checkBound bound) (checkBound other) := by
  cases alike with
  | @literal word value place otherPlace =>
      cases value with
      | string => exact .alike rfl
      | _ => exact .refused (.rule .refl)
  | null =>
      exact .refused (.rule .refl)
  | _ =>
      exact .alike rfl

end Declaring

section Statements

variable {budget : Nat} {grammar : Grammar} {place : Place} {scope otherScope : Scope}
variable {cursor otherCursor : TokenCursor}

/-- A condition and its check for a missing one agree on reflowed tokens. -/
theorem condition_agrees
    {keepsReturns : Bool}
    (budget : Nat)
    (grammar : Grammar)
    (context : String) :
    ReadsAgree keepsReturns Expr.Alike (condition budget grammar · context)
      (condition budget grammar · context) := by
  intro scope otherScope scopes cursor otherCursor reflowed
  refine (reflowed.want _ _).bind ?_
  rintro _ _ ⟨-, afterOpening⟩
  refine ((exprsAgree budget).expr grammar scopes afterOpening).bind ?_
  rintro _ _ ⟨inner, afterInner⟩
  refine (afterInner.want _ _).bind ?_
  rintro _ _ ⟨-, afterClosing⟩
  exact .alike ⟨inner, afterClosing⟩

/-- The token after `return` is looked at for its line, which is that of the `return` on both sides
or on neither. -/
theorem returnStatement_agrees
    (scopes : scope.Alike otherScope)
    {keyword other : Token}
    (reflowed : cursor.Reflowed true otherCursor)
    (sameLine :
      ∀ next ∈ cursor.ahead.head?, ∀ otherNext ∈ otherCursor.ahead.head?,
        (otherNext.position.line = other.position.line ↔
          next.position.line = keyword.position.line)) :
    Agrees (Together Stmt.Alike (TokenCursor.Reflowed true))
      (returnStatement budget grammar place scope keyword cursor)
      (returnStatement budget grammar place otherScope other otherCursor) := by
  unfold returnStatement
  split
  · exact .refused (.rule .refl)
  · have read := (exprsAgree budget).expr grammar scopes reflowed
    rcases cursor with ⟨behind, tokens⟩
    rcases otherCursor with ⟨otherBehind, others⟩
    cases reflowed with
    | nil =>
        exact .alike ⟨.returnNothing, .nil⟩
    | cons same keepsLine rest =>
        have sameKind := (Token.sameForm_of_bare same).kind_eq
        simp only [sameKind, sameLine _ rfl _ rfl]
        split
        · refine read.bind ?_
          rintro _ _ ⟨value, afterValue⟩
          exact .alike ⟨.returnValue value, afterValue⟩
        · exact .alike ⟨.returnNothing, .cons same keepsLine rest⟩

/-- A break or a continue is read alike; whether it stands in a loop is the place's matter. -/
theorem loopControl_agrees
    (reflowed : cursor.Reflowed true otherCursor)
    (place : Place)
    (control : LoopControl)
    (position otherPosition : Position) :
    Agrees (Together Stmt.Alike (TokenCursor.Reflowed true))
      (loopControl place control position cursor)
      (loopControl place control otherPosition otherCursor) := by
  unfold loopControl
  split
  · exact .alike ⟨.control, reflowed⟩
  · exact .refused (.rule .refl)

/-- A statement is read alike: so is the scope after it, and the same tokens are left. -/
abbrev StmtAlike : Stmt × Scope × TokenCursor → Stmt × Scope × TokenCursor → Prop :=
  Together Stmt.Alike (Together Scope.Alike (TokenCursor.Reflowed true))

/-- Like declarations are read after the keyword, and like scopes left. -/
theorem declaration_agrees
    (scopes : scope.Alike otherScope)
    (reflowed : cursor.Reflowed true otherCursor)
    (mutable : Bool)
    {keyword other : Token}
    (sameKind : other.kind = keyword.kind) :
    Agrees StmtAlike (declaration budget grammar scope mutable keyword cursor)
      (declaration budget grammar otherScope mutable other otherCursor) := by
  simp only [declaration, sameKind]
  refine (name_agrees reflowed _).bind ?_
  rintro _ _ ⟨⟨⟩, afterName⟩
  refine (afterName.want _ _).bind ?_
  rintro _ _ ⟨-, afterSign⟩
  refine ((exprsAgree budget).expr grammar scopes afterSign).bind ?_
  rintro _ _ ⟨value, afterValue⟩
  refine (declare_agrees scopes .mk mutable).bind ?_
  intro inside otherInside insideAlike
  exact .alike ⟨.declare value, insideAlike, afterValue⟩

/-- Like assignments are read, and a refused target is refused in both readings. -/
theorem assignment_agrees
    (scopes : scope.Alike otherScope)
    (reflowed : cursor.Reflowed true otherCursor)
    (word : String)
    (position otherPosition : Position) :
    Agrees StmtAlike (assignment budget grammar scope ⟨word, position⟩ cursor)
      (assignment budget grammar otherScope ⟨word, otherPosition⟩ otherCursor) := by
  refine ((exprsAgree budget).expr grammar scopes reflowed).bind ?_
  rintro _ _ ⟨value, afterValue⟩
  cases found : scope.find? word with
  | none =>
      have otherFound := scopes.suits.find?_eq_none found
      simp only [otherFound]
      split
      · exact .refused (.rule .refl)
      · refine (declare_agrees scopes .mk true).bind ?_
        intro inside otherInside insideAlike
        exact .alike ⟨.assign value, insideAlike, afterValue⟩
  | some binding =>
      obtain ⟨otherBinding, otherFound, sameMutable⟩ := scopes.suits.find?_eq_some found
      simp only [otherFound, sameMutable]
      split
      · exact .alike ⟨.assign value, scopes, afterValue⟩
      · exact .refused (.rule .immutable)

/-- A statement that starts with a name is the same form in both readings. -/
theorem nameStatement_agrees
    (scopes : scope.Alike otherScope)
    (reflowed : cursor.Reflowed true otherCursor)
    (word : String)
    (position otherPosition : Position) :
    Agrees StmtAlike (nameStatement budget grammar scope ⟨word, position⟩ cursor)
      (nameStatement budget grammar otherScope ⟨word, otherPosition⟩ otherCursor) := by
  have exprs := exprsAgree budget
  simp only [nameStatement, reflowed.kind_eq]
  split
  · exact assignment_agrees scopes reflowed.skip word position otherPosition
  · refine (exprs.call grammar word position otherPosition scopes reflowed).bind ?_
    rintro _ _ ⟨left, afterCall⟩
    refine (exprs.operation grammar 0 left scopes afterCall).bind ?_
    rintro _ _ ⟨value, afterValue⟩
    exact .alike ⟨.expr value, scopes, afterValue⟩
  · refine (visibleName_agrees scopes word position otherPosition).bind ?_
    intro left otherLeft leftAlike
    refine (exprs.operation grammar 0 leftAlike scopes reflowed).bind ?_
    rintro _ _ ⟨value, afterValue⟩
    exact .alike ⟨.expr value, scopes, afterValue⟩
  · exact .refused (.rule .refl)

/-- A branch with a condition follows on both sides or on neither. -/
theorem conditionalElse?_agrees
    (reflowed : cursor.Reflowed true otherCursor) :
    conditionalElse? cursor = none ∧ conditionalElse? otherCursor = none ∨
      ∃ rest otherRest, conditionalElse? cursor = some rest ∧
        conditionalElse? otherCursor = some otherRest ∧ rest.Reflowed true otherRest := by
  unfold conditionalElse?
  rcases reflowed.accept? (.keyword .elseIfWord) with
    ⟨none, otherNone⟩ | ⟨rest, otherRest, some, otherSome, afterElse⟩
  · simp only [none, otherNone, reflowed.kind_eq, reflowed.secondKind_eq]
    split
    · exact .inr ⟨_, _, rfl, rfl, reflowed.skip.skip⟩
    · exact .inl ⟨rfl, rfl⟩
  · simp only [some, otherSome]
    exact .inr ⟨_, _, rfl, rfl, afterElse⟩

end Statements

/-- With a budget, the functions for statements agree with themselves. -/
structure StmtsAgree (budget : Nat) : Prop where
  statement :
    ∀ grammar place {scope otherScope : Scope} {cursor otherCursor : TokenCursor},
      scope.Alike otherScope → cursor.Reflowed true otherCursor →
        Agrees StmtAlike (statement budget grammar place scope cursor)
          (statement budget grammar place otherScope otherCursor)
  branch :
    ∀ grammar place position otherPosition context,
      ReadsAgree true Branch.Alike (branch budget grammar place · position context)
        (branch budget grammar place · otherPosition context)
  alternatives :
    ∀ grammar place,
      ReadsAgree true Branch.AllAlike (alternatives budget grammar place)
        (alternatives budget grammar place)
  forLoop :
    ∀ grammar place position otherPosition,
      ReadsAgree true Stmt.Alike (forLoop budget grammar place · position)
        (forLoop budget grammar place · otherPosition)
  block :
    ∀ grammar place,
      ReadsAgree true Block.Alike (block budget grammar place) (block budget grammar place)
  blockStatements :
    ∀ grammar place,
      ReadsAgree true Stmt.AllAlike (blockStatements budget grammar place)
        (blockStatements budget grammar place)

namespace StmtsAgree

variable {budget : Nat} (smaller : StmtsAgree budget) (grammar : Grammar) (place : Place)

include smaller

/-- A statement that starts with a keyword is read alike, keyword by keyword. -/
private theorem keyword_agrees
    {scope otherScope : Scope}
    {behind otherBehind tokens others : List Token}
    {word : Keyword}
    {spelling : String}
    {position otherPosition : Position}
    (scopes : scope.Alike otherScope)
    (reflowed :
      Token.Reflowed true (.mark (.keyword word) spelling position :: tokens)
        (.mark (.keyword word) spelling otherPosition :: others)) :
    Agrees StmtAlike
      (Parser.statement (budget + 1) grammar place scope
        ⟨behind, .mark (.keyword word) spelling position :: tokens⟩)
      (Parser.statement (budget + 1) grammar place otherScope
        ⟨otherBehind, .mark (.keyword word) spelling otherPosition :: others⟩) := by
  obtain ⟨⟩ | ⟨-, sameLine, following⟩ := reflowed
  have rest (first other : Token) :
      TokenCursor.Reflowed true ⟨first :: behind, tokens⟩ ⟨other :: otherBehind, others⟩ :=
    .of_tokens following ..
  rw [Parser.statement, Parser.statement, TokenCursor.next_cons, TokenCursor.next_cons, ok_bind,
    ok_bind]
  cases word with
  | varWord =>
      exact declaration_agrees scopes (rest _ _) false rfl
  | mutableVarWord =>
      exact declaration_agrees scopes (rest _ _) true rfl
  | ifWord =>
      refine (smaller.branch grammar place _ _ _ scopes (rest _ _)).bind ?_
      rintro _ _ ⟨first, afterFirst⟩
      refine (smaller.alternatives grammar place scopes afterFirst).bind ?_
      rintro _ _ ⟨others, afterOthers⟩
      exact .alike ⟨.choice (.cons first others), scopes, afterOthers⟩
  | forWord =>
      refine (smaller.forLoop grammar place _ _ scopes (rest _ _)).bind ?_
      rintro _ _ ⟨loop, afterLoop⟩
      exact .alike ⟨loop, scopes, afterLoop⟩
  | whileWord =>
      refine (condition_agrees budget grammar _ scopes (rest _ _)).bind ?_
      rintro _ _ ⟨test, afterTest⟩
      refine (smaller.block grammar _ (scopes.push _) afterTest).bind ?_
      rintro _ _ ⟨body, afterBody⟩
      exact .alike ⟨.whileLoop test body, scopes, afterBody⟩
  | returnWord =>
      refine (returnStatement_agrees scopes (rest _ _) (sameLine rfl rfl)).bind ?_
      rintro _ _ ⟨result, afterResult⟩
      exact .alike ⟨result, scopes, afterResult⟩
  | breakWord =>
      refine (loopControl_agrees (rest _ _) place .leave _ _).bind ?_
      rintro _ _ ⟨control, afterControl⟩
      exact .alike ⟨control, scopes, afterControl⟩
  | continueWord =>
      refine (loopControl_agrees (rest _ _) place .next _ _).bind ?_
      rintro _ _ ⟨control, afterControl⟩
      exact .alike ⟨control, scopes, afterControl⟩
  | funWord =>
      exact .refused (.rule .refl)
  | typeWord =>
      exact .refused (.rule .refl)
  | _ =>
      exact .refused (.rule (.badStart rfl))

/-- One budget more for statements: the first token says which form is read. -/
private theorem statement_step
    {scope otherScope : Scope}
    {cursor otherCursor : TokenCursor}
    (scopes : scope.Alike otherScope)
    (reflowed : cursor.Reflowed true otherCursor) :
    Agrees StmtAlike (Parser.statement (budget + 1) grammar place scope cursor)
      (Parser.statement (budget + 1) grammar place otherScope otherCursor) := by
  rcases cursor with ⟨behind, tokens⟩
  rcases otherCursor with ⟨otherBehind, others⟩
  cases reflowed with
  | nil =>
      exact .refused (.unexpected rfl)
  | cons same sameLine following =>
      cases Token.sameForm_of_bare same with
      | name =>
          rw [Parser.statement, Parser.statement, TokenCursor.next_cons, TokenCursor.next_cons,
            ok_bind, ok_bind]
          exact nameStatement_agrees scopes (.of_tokens following ..) _ _ _
      | @mark fixed =>
          cases fixed with
          | keyword word =>
              exact smaller.keyword_agrees grammar place scopes (.cons same sameLine following)
          | _ =>
              exact .refused (.rule (.badStart same))
      | _ =>
          exact .refused (.rule (.badStart same))

/-- One budget more for a branch, which is a condition and a block. -/
private theorem branch_step
    (position otherPosition : Position)
    (context : String) :
    ReadsAgree true Branch.Alike (Parser.branch (budget + 1) grammar place · position context)
      (Parser.branch (budget + 1) grammar place · otherPosition context) := by
  intro scope otherScope scopes cursor otherCursor reflowed
  simp only [Parser.branch]
  refine (condition_agrees budget grammar context scopes reflowed).bind ?_
  rintro _ _ ⟨test, afterTest⟩
  refine (smaller.block grammar place (scopes.push context) afterTest).bind ?_
  rintro _ _ ⟨body, afterBody⟩
  exact .alike ⟨.mk test body, afterBody⟩

/-- One budget more for the alternatives, which go on after every branch. -/
private theorem alternatives_step :
    ReadsAgree true Branch.AllAlike (Parser.alternatives (budget + 1) grammar place)
      (Parser.alternatives (budget + 1) grammar place) := by
  intro scope otherScope scopes cursor otherCursor reflowed
  rw [Parser.alternatives, Parser.alternatives]
  rcases conditionalElse?_agrees reflowed with
    ⟨first, second⟩ | ⟨_, _, first, second, afterElse⟩
  · simp only [first, second]
    rcases reflowed.accept? (.keyword .elseWord) with
      ⟨noElse, otherNoElse⟩ | ⟨_, _, isElse, otherIsElse, afterElse⟩
    · simp only [noElse, otherNoElse]
      exact .alike ⟨.nil, reflowed⟩
    · simp only [isElse, otherIsElse]
      refine (smaller.block grammar place (scopes.push _) afterElse).bind ?_
      rintro _ _ ⟨body, afterBody⟩
      exact .alike ⟨.cons (.mk .literal body) .nil, afterBody⟩
  · simp only [first, second]
    refine (smaller.branch grammar place _ _ _ scopes afterElse).bind ?_
    rintro _ _ ⟨next, afterNext⟩
    refine (smaller.alternatives grammar place scopes afterNext).bind ?_
    rintro _ _ ⟨others, afterOthers⟩
    exact .alike ⟨.cons next others, afterOthers⟩

/-- One budget more for a loop over a list or a range. -/
private theorem forLoop_step
    (position otherPosition : Position) :
    ReadsAgree true Stmt.Alike (Parser.forLoop (budget + 1) grammar place · position)
      (Parser.forLoop (budget + 1) grammar place · otherPosition) := by
  intro scope otherScope scopes cursor otherCursor reflowed
  simp only [Parser.forLoop]
  refine (name_agrees reflowed _).bind ?_
  rintro _ _ ⟨⟨⟩, afterKey⟩
  refine (name_agrees afterKey _).bind ?_
  rintro _ _ ⟨⟨⟩, afterLink⟩
  dsimp only
  split
  · exact .refused (.rule .refl)
  · refine (condition_agrees budget grammar _ scopes afterLink).bind ?_
    rintro _ _ ⟨bound, afterBound⟩
    refine (checkBound_agrees bound).bind ?_
    rintro _ _ -
    refine (declare_agrees (scopes.push _) .mk false).bind ?_
    intro inside otherInside insideAlike
    refine (smaller.block grammar _ insideAlike afterBound).bind ?_
    rintro _ _ ⟨body, afterBody⟩
    exact .alike ⟨.forEach bound body, afterBody⟩

/-- One budget more for a block, which is read in a scope of its own. -/
private theorem block_step :
    ReadsAgree true Block.Alike (Parser.block (budget + 1) grammar place)
      (Parser.block (budget + 1) grammar place) := by
  intro scope otherScope scopes cursor otherCursor reflowed
  rw [Parser.block, Parser.block]
  refine (reflowed.want _ _).bind ?_
  rintro _ _ ⟨-, afterOpening⟩
  refine (smaller.blockStatements grammar place scopes afterOpening).bind ?_
  rintro _ _ ⟨statements, afterStatements⟩
  refine (afterStatements.want _ _).bind ?_
  rintro _ _ ⟨-, afterClosing⟩
  exact .alike ⟨.mk statements, afterClosing⟩

/-- One budget more for the statements up to the end of a block. -/
private theorem blockStatements_step :
    ReadsAgree true Stmt.AllAlike (Parser.blockStatements (budget + 1) grammar place)
      (Parser.blockStatements (budget + 1) grammar place) := by
  intro scope otherScope scopes cursor otherCursor reflowed
  simp only [Parser.blockStatements, reflowed.kind_eq, reflowed.atEnd_eq]
  split
  · exact .alike ⟨.nil, reflowed⟩
  · refine (smaller.statement grammar place scopes reflowed).bind ?_
    rintro _ _ ⟨first, ⟨insideAlike, afterFirst⟩⟩
    refine (smaller.blockStatements grammar place insideAlike afterFirst).bind ?_
    rintro _ _ ⟨others, afterOthers⟩
    exact .alike ⟨.cons first others, afterOthers⟩

end StmtsAgree

/-- The recursive readers of statements agree on reflowed tokens, by induction on the budget. -/
theorem stmtsAgree (budget : Nat) : StmtsAgree budget := by
  induction budget with
  | zero =>
      -- Without a budget both sides are refused, wherever they stand.
      constructor <;> intros <;> (try intro _ _ _ _ _ _) <;> exact tokensEnded_agrees ..
  | succ budget smaller =>
      exact
        { statement := smaller.statement_step
          branch := smaller.branch_step
          alternatives := smaller.alternatives_step
          forLoop := smaller.forLoop_step
          block := smaller.block_step
          blockStatements := smaller.blockStatements_step }

section Files

variable {budget : Nat} {grammar : Grammar} {cursor otherCursor : TokenCursor}

/-- Like parameters are read, one after each comma. -/
theorem parameterList_agrees
    (budget : Nat)
    (function : String)
    (reflowed : cursor.Reflowed true otherCursor) :
    Agrees (Together (List.Forall₂ Identifier.Alike) (TokenCursor.Reflowed true))
      (parameterList budget function cursor) (parameterList budget function otherCursor) := by
  induction budget generalizing cursor otherCursor with
  | zero =>
      exact tokensEnded_agrees ..
  | succ budget inductionHypothesis =>
      rw [parameterList, parameterList]
      refine (name_agrees reflowed _).bind ?_
      rintro _ _ ⟨first, afterFirst⟩
      refine afterFirst.accept ?_ ?_
      · intro rest otherRest afterComma
        refine (inductionHypothesis afterComma).bind ?_
        rintro _ _ ⟨others, afterOthers⟩
        exact .alike ⟨.cons first others, afterOthers⟩
      · refine (afterFirst.want _ _).bind ?_
        rintro _ _ ⟨-, afterClosing⟩
        exact .alike ⟨.cons first .nil, afterClosing⟩

/-- A list of parameters agrees, the empty one included. -/
theorem parameters_agrees
    (reflowed : cursor.Reflowed true otherCursor)
    (function : String) :
    Agrees (Together (List.Forall₂ Identifier.Alike) (TokenCursor.Reflowed true))
      (parameters budget function cursor) (parameters budget function otherCursor) := by
  refine (reflowed.want _ _).bind ?_
  rintro _ _ ⟨-, afterOpening⟩
  refine afterOpening.accept ?_ ?_
  · intro rest otherRest afterClosing
    exact .alike ⟨.nil, afterClosing⟩
  · exact parameterList_agrees budget function afterOpening

/-- The body of a function is read alike in the scope of its parameters. -/
theorem functionBody_agrees
    {scope otherScope : Scope}
    (scopes : scope.Alike otherScope)
    (reflowed : cursor.Reflowed true otherCursor)
    (function : String)
    {names others : List Identifier}
    (alike : List.Forall₂ Identifier.Alike names others) :
    Agrees (Together Block.Alike (TokenCursor.Reflowed true))
      (functionBody budget grammar scope function names cursor)
      (functionBody budget grammar otherScope function others otherCursor) := by
  refine (declareAll_agrees (scopes.push _) alike).bind ?_
  intro inside otherInside insideAlike
  exact (stmtsAgree budget).block grammar _ insideAlike reflowed

/-- Whether a function is new is asked of its name, not of its place. -/
theorem newFunction_agrees
    (functions : Signatures)
    (word : String)
    (place otherPlace : Position) :
    Agrees (· = ·) (newFunction functions ⟨word, place⟩)
      (newFunction functions ⟨word, otherPlace⟩) := by
  unfold newFunction
  dsimp only
  split
  · exact .alike rfl
  · split <;> exact .refused (.rule .refl)

/-- Like functions are read after the keyword, known functions being the same. -/
theorem functionDefinition_agrees
    {known other : Declarations}
    (sameKnown : known.Alike other)
    (reflowed : cursor.Reflowed true otherCursor)
    (position otherPosition : Position) :
    Agrees (Together FunctionDecl.Alike (TokenCursor.Reflowed true))
      (functionDefinition budget grammar known position cursor)
      (functionDefinition budget grammar other otherPosition otherCursor) := by
  simp only [functionDefinition, sameKnown.functions]
  refine (name_agrees reflowed _).bind ?_
  rintro _ _ ⟨⟨⟩, afterName⟩
  refine (newFunction_agrees known.functions _ _ _).bind ?_
  rintro _ _ -
  refine (parameters_agrees afterName _).bind ?_
  rintro _ _ ⟨names, afterParameters⟩
  refine ((functionBody_agrees sameKnown.scope afterParameters _ names).mapError (.function _)
    position otherPosition).bind ?_
  rintro _ _ ⟨body, afterBody⟩
  exact .alike ⟨⟨rfl, Identifier.Alike.map_text_eq names, body⟩, afterBody⟩

/-- An item is read alike, and leaves like declarations to the items after it. -/
theorem item_agrees
    {known other : Declarations}
    (sameKnown : known.Alike other)
    (reflowed : cursor.Reflowed true otherCursor) :
    Agrees (Together Item.Alike (Together Declarations.Alike (TokenCursor.Reflowed true)))
      (item budget grammar known cursor) (item budget grammar other otherCursor) := by
  simp only [item, reflowed.kind_eq]
  split
  · refine (functionDefinition_agrees sameKnown reflowed.skip _ _).bind ?_
    rintro ⟨declaration, rest⟩ ⟨otherDeclaration, otherRest⟩ ⟨alike, afterFunction⟩
    have sameLength : otherDeclaration.parameters.length = declaration.parameters.length := by
      simpa using congrArg List.length alike.parameters
    have afterwards : Declarations.Alike
        { known with
          functions := known.functions.insert declaration.name.text
            ⟨some declaration.parameters.length, false⟩ }
        { other with
          functions := other.functions.insert otherDeclaration.name.text
            ⟨some otherDeclaration.parameters.length, false⟩ } :=
      ⟨sameKnown.scope, by rw [sameKnown.functions, alike.name, sameLength]⟩
    exact .alike ⟨.function alike, afterwards, afterFunction⟩
  · refine (name_agrees reflowed.skip _).bind ?_
    rintro _ _ ⟨⟨⟩, afterName⟩
    refine (declare_agrees sameKnown.scope .mk false).bind ?_
    intro scope otherScope scopes
    exact .alike ⟨.type, ⟨scopes, sameKnown.functions⟩, afterName⟩
  · refine ((stmtsAgree budget).statement grammar _ sameKnown.scope reflowed).bind ?_
    rintro _ _ ⟨inner, ⟨scopes, afterStatement⟩⟩
    exact .alike ⟨.statement inner, ⟨scopes, sameKnown.functions⟩, afterStatement⟩

/-- After an item that is read come the items of what is left. -/
theorem items_of_ok
    {known between : Declarations}
    {first : Item}
    {rest : TokenCursor}
    (goesOn : cursor.atEnd = false)
    (read : item budget grammar known cursor = .ok (first, between, rest)) :
    items (budget + 1) grammar known cursor =
      ((items budget grammar between rest).1,
        (items budget grammar between rest).2.map (first :: ·)) := by
  simp only [items, goesOn, read, Bool.false_eq_true, if_false]
  rcases items budget grammar between rest with ⟨after, error | others⟩ <;> rfl

/-- Items are read alike, and so is what is known when the parser stops, also where it stops at an
error. -/
theorem items_agree
    (grammar : Grammar)
    (budget : Nat)
    {known other : Declarations}
    (sameKnown : known.Alike other)
    (reflowed : cursor.Reflowed true otherCursor) :
    (items budget grammar known cursor).1.Alike (items budget grammar other otherCursor).1 ∧
      Agrees (List.Forall₂ Item.Alike) (items budget grammar known cursor).2
        (items budget grammar other otherCursor).2 := by
  induction budget generalizing known other cursor otherCursor with
  | zero =>
      exact ⟨sameKnown, tokensEnded_agrees ..⟩
  | succ budget inductionHypothesis =>
      cases atEnd : cursor.atEnd with
      | true =>
          simp only [items, reflowed.atEnd_eq, atEnd, if_true]
          exact ⟨sameKnown, .alike .nil⟩
      | false =>
          have otherGoesOn := reflowed.atEnd_eq.trans atEnd
          have firstAgrees : Agrees
              (Together Item.Alike (Together Declarations.Alike (TokenCursor.Reflowed true)))
              (item budget grammar known cursor) (item budget grammar other otherCursor) :=
            item_agrees sameKnown reflowed
          generalize read : item budget grammar known cursor = first at firstAgrees
          generalize otherRead : item budget grammar other otherCursor = otherFirst at firstAgrees
          cases firstAgrees with
          | alike alike =>
              obtain ⟨firstAlike, ⟨between, rest⟩⟩ := alike
              obtain ⟨known, others⟩ := inductionHypothesis between rest
              rw [items_of_ok atEnd read, items_of_ok otherGoesOn otherRead]
              exact ⟨known, others.map fun _ _ alike => .cons firstAlike alike⟩
          | refused refused =>
              simp only [items, atEnd, otherGoesOn, read, otherRead, Bool.false_eq_true, if_false]
              exact ⟨sameKnown, .refused refused⟩

/-- Calls of the same functions pass the check, or break the same rule. -/
theorem checkCalls_agrees
    (functions : Signatures)
    {calls others : List CallSite}
    (same : CallSite.SameCalls calls others) :
    Agrees (· = ·) (checkCalls functions calls) (checkCalls functions others) := by
  induction same with
  | nil =>
      exact .alike rfl
  | cons first _ inductionHypothesis =>
      obtain ⟨sameName, sameCount⟩ := first
      have checked {call other : CallSite}
          (sameName : other.function.text = call.function.text)
          (sameCount : other.argumentCount = call.argumentCount) :
          Agrees (· = ·) (checkCall functions call) (checkCall functions other) := by
        unfold checkCall
        rw [sameName, sameCount]
        split
        · exact .refused (.rule .refl)
        · split
          · exact .alike rfl
          · split
            · exact .alike rfl
            · exact .refused (.rule .refl)
      refine (checked sameName sameCount).bind ?_
      rintro _ _ -
      exact inductionHypothesis

end Files

end Parser

/-- Like items make the same calls. -/
theorem Item.sameCalls_of_alike
    {values others : List Item}
    (alike : List.Forall₂ Item.Alike values others) :
    CallSite.SameCalls (values.flatMap Item.calls) (others.flatMap Item.calls) := by
  induction alike with
  | nil =>
      exact .nil
  | cons first _ inductionHypothesis =>
      exact List.rel_append first.calls inductionHypothesis

mutual

/-- How many tokens there are does not depend on positions. -/
theorem Token.size_bare : (token : Token) → token.bare.size = token.size
  | .name _ _ => rfl
  | .literal _ _ _ => rfl
  | .template parts _ => by
      simp only [Token.bare, Token.size, Part.sizeAll_bareAll parts]
  | .mark _ _ _ => rfl

theorem Part.sizeAll_bareAll :
    (parts : List Part) → Part.sizeAll (Part.bareAll parts) = Part.sizeAll parts
  | [] => rfl
  | .fragment _ :: rest => by
      simp only [Part.bareAll, Part.sizeAll, Part.size, Part.sizeAll_bareAll rest]
  | .interpolation tokens :: rest => by
      simp only [Part.bareAll, Part.sizeAll, Part.size, Part.sizeAll_bareAll rest,
        Token.sizeAll_bareAll tokens]

theorem Token.sizeAll_bareAll :
    (tokens : List Token) → Token.sizeAll (Token.bareAll tokens) = Token.sizeAll tokens
  | [] => rfl
  | first :: rest => by
      simp only [Token.bareAll, Token.sizeAll, Token.size_bare first, Token.sizeAll_bareAll rest]

end

/-- Reflowed tokens are as many, those inside of templates included, so the same budget is enough.
-/
theorem Token.Reflowed.sizeAll_eq
    {keepsReturns : Bool}
    {tokens others : List Token}
    (reflowed : Token.Reflowed keepsReturns tokens others) :
    Token.sizeAll others = Token.sizeAll tokens := by
  induction reflowed with
  | nil =>
      rfl
  | @cons _ _ first other same _ _ inductionHypothesis =>
      have sameSize : other.size = first.size := by
        rw [← Token.size_bare first, same, Token.size_bare]
      simp only [Token.sizeAll, sameSize, inductionHypothesis]

/-- The layout of a script does not matter, except after `return`.  For the same tokens at other
positions, and the same declarations known before, the parser succeeds with files that are equal up
to positions, or fails with errors of the same type that wrap the same causes and have the same
message, all up to positions.  What it declares is the same up to positions in both cases. -/
theorem layout_matters_only_after_return
    (grammar : Grammar)
    {known other : Declarations}
    {tokens others : List Token}
    (sameKnown : known.Alike other)
    (reflowed : Token.Reflowed true tokens others) :
    Declarations.Alike
        ⟨(parseTokens grammar known tokens).scope, (parseTokens grammar known tokens).functions⟩
        ⟨(parseTokens grammar other others).scope, (parseTokens grammar other others).functions⟩ ∧
      ((∃ file otherFile,
          (parseTokens grammar known tokens).outcome = .ok file ∧
            (parseTokens grammar other others).outcome = .ok otherFile ∧
            List.Forall₂ Item.Alike file.items otherFile.items) ∨
        ∃ error otherError,
          (parseTokens grammar known tokens).outcome = .error error ∧
            (parseTokens grammar other others).outcome = .error otherError ∧
            error.Alike otherError ∧ SameWording error.message otherError.message) := by
  -- There are as many tokens, so that both runs have the same budget.
  have sameBudget : Parser.budgetFor others = Parser.budgetFor tokens := by
    simp only [Parser.budgetFor, reflowed.sizeAll_eq]
  have cursors : (TokenCursor.ofTokens tokens).Reflowed true (.ofTokens others) :=
    .of_tokens reflowed [] []
  have read := Parser.items_agree grammar (Parser.budgetFor tokens) sameKnown cursors
  simp only [parseTokens, sameBudget]
  generalize Parser.items (Parser.budgetFor tokens) grammar known (.ofTokens tokens) =
    first at read ⊢
  generalize Parser.items (Parser.budgetFor tokens) grammar other (.ofTokens others) =
    second at read ⊢
  rcases first with ⟨after, outcome⟩
  rcases second with ⟨otherAfter, otherOutcome⟩
  obtain ⟨⟨scopes, sameFunctions⟩, outcomes⟩ := read
  dsimp only at scopes sameFunctions outcomes
  cases outcomes with
  | refused alike =>
      exact ⟨⟨scopes, sameKnown.functions⟩, .inr ⟨_, _, rfl, rfl, alike, alike.message⟩⟩
  | @alike items otherItems itemsAlike =>
      have checked := Parser.checkCalls_agrees after.functions (Item.sameCalls_of_alike itemsAlike)
      simp only [File.calls, sameFunctions]
      generalize Parser.checkCalls after.functions (items.flatMap Item.calls) =
        check at checked ⊢
      generalize Parser.checkCalls after.functions (otherItems.flatMap Item.calls) =
        otherCheck at checked ⊢
      cases checked with
      | refused alike =>
          exact ⟨⟨scopes, sameKnown.functions⟩, .inr ⟨_, _, rfl, rfl, alike, alike.message⟩⟩
      | alike _ =>
          exact ⟨⟨scopes, rfl⟩, .inl ⟨_, _, rfl, rfl, itemsAlike⟩⟩

/-- The tokens of a function that returns a constant, with its body on a line and its end on
another. -/
def Token.returning (bodyLine endLine : UInt32) : List Token :=
  [.mark (.keyword .funWord) "fun" ⟨"main", 1, 1⟩, .name "one" ⟨"main", 1, 5⟩,
    .mark (.separator .leftParen) "(" ⟨"main", 1, 8⟩,
    .mark (.separator .rightParen) ")" ⟨"main", 1, 9⟩,
    .mark (.separator .leftBrace) "\x7b" ⟨"main", 1, 11⟩,
    .mark (.keyword .returnWord) "return" ⟨"main", bodyLine, 1⟩,
    .literal "1" (.integer 1) ⟨"main", bodyLine, 8⟩,
    .mark (.separator .rightBrace) "\x7d" ⟨"main", endLine, 1⟩]

/-- Only the lines of its tokens tell two texts of the returning function apart. -/
theorem Token.reflowed_returning (bodyLine endLine otherBodyLine otherEndLine : UInt32) :
    Token.Reflowed true (Token.returning bodyLine endLine)
      (Token.returning otherBodyLine otherEndLine) := by
  unfold Token.returning
  refine .cons rfl ?_ <| .cons rfl ?_ <| .cons rfl ?_ <| .cons rfl ?_ <| .cons rfl ?_ <|
    .cons rfl ?_ <| .cons rfl ?_ <| .cons rfl ?_ .nil
  all_goals simp [Token.kind, Token.position]

theorem layout_of_returning_does_not_matter :
    Declarations.Alike .empty .empty ∧
      Token.Reflowed true (Token.returning 1 1) (Token.returning 2 3) ∧
      ∃ file otherFile,
        (parseTokens ⟨true, true⟩ .empty (Token.returning 1 1)).outcome = .ok file ∧
          (parseTokens ⟨true, true⟩ .empty (Token.returning 2 3)).outcome = .ok otherFile ∧
          List.Forall₂ Item.Alike file.items otherFile.items := by
  have sameKnown : Declarations.Alike .empty .empty := ⟨.refl _, rfl⟩
  have reflowed := Token.reflowed_returning 1 1 2 3
  refine ⟨sameKnown, reflowed, ?_⟩
  have isOk : (parseTokens ⟨true, true⟩ .empty (Token.returning 1 1)).outcome.isOk = true := by
    decide +kernel
  rcases (layout_matters_only_after_return ⟨true, true⟩ sameKnown reflowed).2 with
    accepted | ⟨error, -, refused, -⟩
  · exact accepted
  · rw [refused] at isOk
    cases isOk

/-- A line break after `return` ends it. -/
example :
    (parse ⟨true, true⟩ .empty "main" "fun one() \x7b return 1 \x7d").outcome.isOk = true ∧
      (parse ⟨true, true⟩ .empty "main" "fun one() \x7b return\n1 \x7d").outcome.isOk = false := by
  decide +kernel

end Scripting
