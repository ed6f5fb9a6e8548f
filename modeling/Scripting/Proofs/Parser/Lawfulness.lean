import Scripting.Proofs.Parser.Derivation
import Scripting.Proofs.Session.Declarations

namespace Scripting

/-!
# Accepted files obey the static rules

The static rules are stated on trees: where statements may stand, which variables may be read,
declared and assigned, and which functions may be defined and called.  Definitions of functions
and types are items and no statements, so that they cannot stand inside anything.
-/

mutual

/-- A statement may stand where it does.  Only a function is returned from, and only a loop of the
same function, or of the same code outside functions, is left or continued.  An assignment declares
a variable only if the grammar is not strict. -/
def Stmt.Allowed (grammar : Grammar) (place : Parser.Place) : Stmt → Prop
  | .expr _ => True
  | .declare .. => True
  | .assign defines _ _ => defines = true → grammar.strict = false
  | .choice branches _ => Branch.AllowedAll grammar place branches
  | .forEach _ _ body _ => body.Allowed grammar { place with inLoop := true }
  | .whileLoop _ body _ => body.Allowed grammar { place with inLoop := true }
  | .return _ _ => place.inFunction = true
  | .control .. => place.inLoop = true

/-- Statements may stand where they do. -/
def Stmt.AllowedAll (grammar : Grammar) (place : Parser.Place) : List Stmt → Prop
  | [] => True
  | first :: rest => first.Allowed grammar place ∧ Stmt.AllowedAll grammar place rest

/-- The statements of branches may stand where they do. -/
def Branch.AllowedAll (grammar : Grammar) (place : Parser.Place) : List Branch → Prop
  | [] => True
  | .mk _ body _ :: rest => body.Allowed grammar place ∧ Branch.AllowedAll grammar place rest

/-- The statements of a block may stand where they do. -/
def Block.Allowed (grammar : Grammar) (place : Parser.Place) : Block → Prop
  | .mk statements _ _ => Stmt.AllowedAll grammar place statements

end

namespace Item

/-- The statements of an item may stand where they do.  The body of a function is in no loop. -/
def Allowed (grammar : Grammar) : Item → Prop
  | .function declaration => declaration.body.Allowed grammar ⟨true, false⟩
  | .type _ => True
  | .statement inner => inner.Allowed grammar ⟨false, false⟩

/-- An item obeys the scoping rules where a layout is visible.  The body of a function has a scope
that holds its parameters, which differ. -/
def ScopedIn (layout : Layout) : Item → Prop
  | .function declaration =>
      (declaration.parameters.map Identifier.text).Nodup ∧
        declaration.body.Scoped
          ((declaration.parameters.map Identifier.text).foldl
            (fun inside name => inside.define name false) (layout.push ""))
  | .type declaration => layout.current.find? declaration.name.text = none
  | .statement inner => inner.Scoped layout

/-- Items obey the scoping rules one after another. -/
def ScopedAllIn (layout : Layout) : List Item → Prop
  | [] => True
  | first :: rest =>
      first.ScopedIn layout ∧ ScopedAllIn (layout.declare first.declared?) rest

end Item

/-- A call names a function among some items and passes as many arguments as it has
parameters. -/
def CallSite.AnsweredBy (items : List Item) (call : CallSite) : Prop :=
  ∃ declaration, .function declaration ∈ items ∧
    declaration.name.text = call.function.text ∧
    declaration.parameters.length = call.argumentCount

/-- A file obeys the static rules, given what is known before it. -/
structure File.Lawful (grammar : Grammar) (known : Declarations) (file : File) : Prop where
  /-- Statements stand where they may. -/
  placement : ∀ item ∈ file.items, item.Allowed grammar
  /-- Variables are declared once in a scope, before they are read and assigned. -/
  scoping : Item.ScopedAllIn known.scope.layout file.items
  /-- No function is defined twice. -/
  functionsDiffer :
    ((file.items.filterMap Item.function?).map fun declaration => declaration.name.text).Nodup
  /-- No known function is defined again. -/
  functionsNew :
    ∀ declaration ∈ file.items.filterMap Item.function?,
      known.functions[declaration.name.text]? = none
  /-- A call, wherever it is, names a known function or one of the file, and passes as many
  arguments as it takes. -/
  calls :
    ∀ call ∈ file.calls, call.Resolved known.functions ∨ call.AnsweredBy file.items

namespace Parser

variable {grammar : Grammar}

mutual

/-- A statement that is read may stand where it does. -/
theorem ReadsStmt.allowed
    {place : Place}
    {scope inside : Scope}
    {tokens rest : List Token}
    {value : Stmt} :
    ReadsStmt grammar place scope tokens value inside rest → value.Allowed grammar place
  | .declare _ _ _ _ => trivial
  | .assignNew _ lenient _ _ => fun _ => lenient
  | .assignOld _ _ _ _ => nofun
  | .call _ _ _ => trivial
  | .operate _ _ _ => trivial
  | .choice _ first others => first.allowed others.allowed
  | .forEach _ _ _ body => body.allowed
  | .whileLoop _ _ body => body.allowed
  | .returnNothing _ allowed _ => allowed
  | .returnValue _ allowed _ _ => allowed
  | .control _ allowed => allowed

theorem ReadsBranch.allowed
    {place : Place}
    {scope : Scope}
    {position : Position}
    {context : String}
    {tokens rest : List Token}
    {value : Branch}
    {others : List Branch} :
    ReadsBranch grammar place scope position context tokens value rest →
    Branch.AllowedAll grammar place others →
    Branch.AllowedAll grammar place (value :: others)
  | .mk _ body, othersAllowed => ⟨body.allowed, othersAllowed⟩

theorem ReadsAlternatives.allowed
    {place : Place}
    {scope : Scope}
    {tokens rest : List Token}
    {values : List Branch} :
    ReadsAlternatives grammar place scope tokens values rest →
    Branch.AllowedAll grammar place values
  | .elseIf _ next others => next.allowed others.allowed
  | .elseThenIf _ _ next others => next.allowed others.allowed
  | .otherwise _ _ body => ⟨body.allowed, trivial⟩
  | .none _ _ => trivial

theorem ReadsBlock.allowed
    {place : Place}
    {scope : Scope}
    {tokens rest : List Token}
    {value : Block} :
    ReadsBlock grammar place scope tokens value rest → value.Allowed grammar place
  | .mk _ _ statements => statements.allowed

theorem ReadsStmts.allowed
    {place : Place}
    {scope : Scope}
    {tokens rest : List Token}
    {values : List Stmt} :
    ReadsStmts grammar place scope tokens values rest → Stmt.AllowedAll grammar place values
  | .nil _ => trivial
  | .cons _ _ first others => ⟨first.allowed, others.allowed⟩

end

/-- Names that are declared one after another differ from each other and from those that the
innermost frame binds. -/
theorem nodup_of_declareAll
    {scope inside : Scope}
    {names : List Identifier}
    (declares : declareAll scope names = .ok inside) :
    (names.map Identifier.text).Nodup ∧
      ∀ name ∈ names.map Identifier.text, scope.current.find? name = none := by
  induction names generalizing scope with
  | nil =>
      exact ⟨List.nodup_nil, nofun⟩
  | cons first rest inductionHypothesis =>
      simp only [declareAll, bind_eq_ok] at declares
      obtain ⟨between, firstDeclared, restDeclared⟩ := declares
      obtain ⟨new, rfl⟩ := declare_eq_ok.mp firstDeclared
      obtain ⟨restDistinct, restNew⟩ := inductionHypothesis restDeclared
      have current (name : String) :
          (scope.define first.text ⟨false, first.position⟩).current.find? name =
            (scope.current.define first.text ⟨false, first.position⟩).find? name := by
        simp [Frame.find?, Frame.define]
      refine ⟨List.nodup_cons.mpr ⟨fun again => ?_, restDistinct⟩, ?_⟩
      · have free := restNew _ again
        rw [current, Frame.find?_define_self] at free
        cases free
      · intro name isIn
        rcases List.mem_cons.mp isIn with rfl | later
        · exact new
        · have free := restNew name later
          rw [current, Frame.find?_define] at free
          split at free
          · cases free
          · exact free

section Items

variable {known between final : Declarations} {tokens rest : List Token}

theorem ReadsItem.allowed
    {value : Item}
    (reads : ReadsItem grammar known tokens value between rest) :
    value.Allowed grammar := by
  cases reads with
  | function _ _ _ _ body =>
      exact body.allowed
  | type _ _ =>
      trivial
  | statement inner =>
      exact inner.allowed

theorem ReadsItems.allowed
    {values : List Item}
    (reads : ReadsItems grammar known tokens values final) :
    ∀ value ∈ values, value.Allowed grammar := by
  induction reads with
  | nil =>
      nofun
  | cons first _ inductionHypothesis =>
      intro value isIn
      rcases List.mem_cons.mp isIn with rfl | later
      · exact first.allowed
      · exact inductionHypothesis value later

/-- An item obeys the scoping rules where the layout of the known scope is visible. -/
theorem ReadsItem.scopedIn
    {value : Item}
    (reads : ReadsItem grammar known tokens value between rest) :
    value.ScopedIn known.scope.layout := by
  cases reads with
  | function _ _ declares _ body =>
      have bodyScoped := body.scoped
      rw [layout_declareAll declares, ScopeChain.layout_push] at bodyScoped
      exact ⟨(nodup_of_declareAll declares).1, bodyScoped⟩
  | type _ new =>
      simpa [Item.ScopedIn] using new
  | statement inner =>
      exact inner.scoped

theorem ReadsItems.scopedAllIn
    {values : List Item}
    (reads : ReadsItems grammar known tokens values final) :
    Item.ScopedAllIn known.scope.layout values := by
  induction reads with
  | nil =>
      trivial
  | cons first _ inductionHypothesis =>
      rw [first.scope_eq, Scope.layout_extend] at inductionHypothesis
      exact ⟨first.scopedIn, inductionHypothesis⟩

/-- A function that is known after items was known before them or is one of theirs. -/
theorem ReadsItems.getElem?_functions
    {values : List Item}
    (reads : ReadsItems grammar known tokens values final)
    {name : String}
    {signature : Signature}
    (found : final.functions[name]? = some signature) :
    known.functions[name]? = some signature ∨
      ∃ declaration, .function declaration ∈ values ∧ declaration.name.text = name ∧
        signature = ⟨some declaration.parameters.length, false⟩ := by
  rw [reads.gains_functions.getElem?, Option.or_eq_some_iff] at found
  rcases found with added | ⟨-, before⟩
  · obtain ⟨earlier, later, shape, -⟩ := List.lookup_eq_some_iff.mp added
    have isAdded : (name, signature) ∈ values.filterMap Item.signature? := by
      simp [shape]
    obtain ⟨value, isIn, signs⟩ := List.mem_filterMap.mp isAdded
    cases value with
    | function declaration =>
        cases signs
        exact .inr ⟨declaration, isIn, rfl, rfl⟩
    | type declaration =>
        cases signs
    | statement inner =>
        cases signs
  · exact .inl before

/-- A call that is resolved after items names a function that was known before them or is one of
theirs. -/
theorem ReadsItems.answered
    {values : List Item}
    (reads : ReadsItems grammar known tokens values final)
    {call : CallSite}
    (resolved : call.Resolved final.functions) :
    call.Resolved known.functions ∨ call.AnsweredBy values := by
  obtain ⟨signature, found, sameArity⟩ := resolved
  rcases reads.getElem?_functions found with before | ⟨declaration, isIn, named, rfl⟩
  · exact .inl ⟨signature, before, sameArity⟩
  · exact .inr ⟨declaration, isIn, named, sameArity _ rfl⟩

end Items

end Parser

/-- The names of the functions that items define. -/
theorem Item.map_fst_signature? (items : List Item) :
    (items.filterMap Item.signature?).map Prod.fst =
      (items.filterMap Item.function?).map fun declaration => declaration.name.text := by
  induction items with
  | nil =>
      rfl
  | cons first rest inductionHypothesis =>
      cases first <;>
        simpa [List.filterMap_cons, Item.signature?, Item.function?] using inductionHypothesis

/-- A file that the parser accepts obeys the static rules. -/
theorem accepted_file_is_lawful
    {grammar : Grammar}
    {known : Declarations}
    {tokens : List Token}
    {file : File}
    (accepted : (parseTokens grammar known tokens).outcome = .ok file) :
    file.Lawful grammar known := by
  obtain ⟨final, reads, -, -, resolved⟩ := parseTokens_eq_ok accepted
  have gains := reads.gains_functions
  have names := Item.map_fst_signature? file.items
  exact
    { placement := reads.allowed
      scoping := reads.scopedAllIn
      functionsDiffer := names ▸ gains.distinct
      functionsNew := fun declaration isIn => gains.new _ (names ▸ List.mem_map_of_mem isIn)
      calls := fun call isIn => reads.answered (resolved call isIn) }

/-- What is known to a script that may print and has a limit. -/
def Declarations.limited : Declarations :=
  ⟨(ScopeChain.empty "global").define "limit" ⟨false, .none⟩,
    (∅ : Signatures).insert "print" ⟨none, true⟩⟩

/-- A script with a loop that is left, a function of its own, and a call inside a template. -/
def countingScript : String :=
  "fun next(n) \x7b var step = 1 return n + step \x7d\nx = 0\n" ++
    "while (x < limit) \x7b x = next(x) if (x == 2) \x7b break \x7d \x7d\nprint(\"\x7bnext(x)\x7d\")"

theorem countingScript_is_lawful :
    ∃ tokens file, scan "main" countingScript = .ok tokens ∧
      (parseTokens ⟨false, false⟩ .limited tokens).outcome = .ok file ∧
      file.Lawful ⟨false, false⟩ .limited := by
  have isOk : (parse ⟨false, false⟩ .limited "main" countingScript).outcome.isOk = true := by
    decide +kernel
  obtain ⟨tokens, file, scanned, accepted⟩ := exists_of_isOk isOk
  exact ⟨tokens, file, scanned, accepted, accepted_file_is_lawful accepted⟩

end Scripting
