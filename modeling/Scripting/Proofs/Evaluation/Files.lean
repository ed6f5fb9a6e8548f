import Scripting.Proofs.Evaluation.Safety

namespace Scripting

/-!
# Running accepted files

A file that the parser accepts can always be hoisted, and what it hoists and executes keeps to its
declarations.  When it has run to its end, every variable that it declares at the top level is
bound.
-/

namespace Item

/-- The functions after an item has been hoisted. -/
def defineIn (origin : Nat) (functions : FunctionTable) : Item → FunctionTable
  | .function declaration =>
      functions.insert declaration.name.text (.user ⟨origin, declaration⟩)
  | .type _ => functions
  | .statement _ => functions

/-- The global variables after an item has been hoisted. -/
def bindIn (global : Frame Variable) : Item → Frame Variable
  | .function _ => global
  | .type declaration =>
      global.define declaration.name.text ⟨.type declaration.name.text, false⟩
  | .statement _ => global

end Item

/-- The state after items have been hoisted. -/
def State.hoisted (origin : Nat) (items : List Item) (state : State) : State :=
  { state with
    scopes := { state.scopes with outer := items.foldl Item.bindIn state.scopes.outer }
    functions := items.foldl (Item.defineIn origin) state.functions }

namespace Item

variable {global : Frame Bool} {item : Item} {items : List Item}

theorem declare_eq (global : Frame Bool) (item : Item) :
    Layout.declare ⟨[], global⟩ item.declared? = ⟨[], item.declareIn global⟩ := by
  unfold declareIn
  cases item.declared? <;> rfl

/-- What an item declares at the top level is new there. -/
theorem Scoped.find?_eq_none
    (obeys : item.Scoped global)
    {identifier : Identifier}
    {mutable : Bool}
    (declares : item.declared? = some (identifier, mutable)) :
    global.find? identifier.text = none := by
  cases item with
  | function declaration =>
      simp [declared?] at declares
  | type declaration =>
      cases declares
      exact obeys
  | statement inner =>
      cases inner with
      | declare isMutable name value place =>
          cases declares
          exact obeys.2
      | assign defines name value =>
          cases defines with
          | true =>
              cases declares
              have hidden := obeys.2
              rwa [ScopeChain.find?_of_inner_nil rfl] at hidden
          | false =>
              simp [declared?, Stmt.declared?] at declares
      | _ =>
          simp [declared?, Stmt.declared?] at declares

theorem Scoped.within (obeys : item.Scoped global) : global.Within (item.declareIn global) := by
  unfold declareIn
  cases declares : item.declared? with
  | none =>
      exact .refl global
  | some declaration =>
      exact Frame.within_define (obeys.find?_eq_none declares) _

/-- Items keep what was declared before them. -/
theorem ScopedAll.within
    (obey : ScopedAll global items) :
    global.Within (items.foldl declareIn global) := by
  induction items generalizing global with
  | nil =>
      exact .refl global
  | cons first rest inductionHypothesis =>
      exact obey.1.within.trans (inductionHypothesis obey.2)

/-- What an item declares stays declared as it is. -/
theorem ScopedAll.find?_eq_some
    {rest : List Item}
    (obey : ScopedAll global (item :: rest))
    {identifier : Identifier}
    {mutable : Bool}
    (declares : item.declared? = some (identifier, mutable)) :
    ((item :: rest).foldl declareIn global).find? identifier.text = some mutable := by
  refine ScopedAll.within obey.2 _ _ ?_
  simp [declareIn, declares]

/-- The body of a function that is among items obeys the scoping rules where it stands. -/
theorem ScopedAll.body_scoped
    (obey : ScopedAll global items)
    {declaration : FunctionDecl}
    (member : .function declaration ∈ items) :
    ∃ visible : Frame Bool,
      visible.Within (items.foldl declareIn global) ∧
        declaration.body.Scoped
          (.ofParameters visible (declaration.parameters.map Identifier.text)) := by
  induction items generalizing global with
  | nil =>
      simp at member
  | cons first rest inductionHypothesis =>
      rcases List.mem_cons.mp member with rfl | inRest
      · exact ⟨global, ScopedAll.within obey, obey.1⟩
      · exact inductionHypothesis obey.2 inRest

/-- A function after hoisting was there before or is defined by an item. -/
theorem of_defineIn
    {origin : Nat}
    {functions : FunctionTable}
    {name : String}
    {function : Function}
    (found : (items.foldl (defineIn origin) functions)[name]? = some function) :
    functions[name]? = some function ∨
      ∃ declaration, .function declaration ∈ items ∧
        function = .user ⟨origin, declaration⟩ := by
  induction items generalizing functions with
  | nil =>
      exact .inl found
  | cons first rest inductionHypothesis =>
      rcases inductionHypothesis found with earlier | ⟨declaration, inRest, isUser⟩
      · cases first with
        | function declaration =>
            simp only [defineIn, Std.ExtTreeMap.getElem?_insert] at earlier
            split at earlier
            · exact .inr ⟨declaration, by simp, (Option.some.inj earlier).symm⟩
            · exact .inl earlier
        | _ =>
            exact .inl earlier
      · exact .inr ⟨declaration, by simp [inRest], isUser⟩

/-- What a type among items declares stays immutable. -/
theorem ScopedAll.find?_type
    (obey : ScopedAll global items)
    {declaration : TypeDecl}
    (member : .type declaration ∈ items) :
    (items.foldl declareIn global).find? declaration.name.text = some false := by
  induction items generalizing global with
  | nil =>
      simp at member
  | cons first rest inductionHypothesis =>
      rcases List.mem_cons.mp member with rfl | inRest
      · exact obey.find?_eq_some rfl
      · exact inductionHypothesis obey.2 inRest

/-- Hoisting binds nothing but types, and they are immutable. -/
theorem layout_bindIn_within
    {frame : Frame Variable}
    (within : frame.layout.Within global)
    (declared :
      ∀ declaration, .type declaration ∈ items →
        global.find? declaration.name.text = some false) :
    (items.foldl bindIn frame).layout.Within global := by
  induction items generalizing frame with
  | nil =>
      exact within
  | cons first rest inductionHypothesis =>
      refine inductionHypothesis ?_ fun declaration inRest =>
        declared declaration (List.mem_cons_of_mem _ inRest)
      cases first with
      | type declaration =>
          simp only [bindIn, Frame.layout_define]
          exact within.define (declared declaration (by simp))
      | _ =>
          exact within

theorem namesWithin_bindIn (items : List Item) (frame : Frame Variable) :
    frame.NamesWithin (items.foldl bindIn frame) := by
  induction items generalizing frame with
  | nil =>
      exact .refl frame
  | cons first rest inductionHypothesis =>
      intro name found
      refine inductionHypothesis _ name ?_
      cases first with
      | type declaration =>
          exact (Frame.NamesWithin.refl frame).define _ _ name found
      | _ =>
          exact found

/-- Hoisting binds every type. -/
theorem isSome_bindIn
    {frame : Frame Variable}
    {declaration : TypeDecl}
    (member : .type declaration ∈ items) :
    ((items.foldl bindIn frame).find? declaration.name.text).isSome := by
  induction items generalizing frame with
  | nil =>
      simp at member
  | cons first rest inductionHypothesis =>
      rcases List.mem_cons.mp member with rfl | inRest
      · exact namesWithin_bindIn rest _ _ (by simp [bindIn])
      · exact inductionHypothesis inRest

end Item

theorem UserFunction.Checked.mono
    {known final : Declarations}
    {function : UserFunction}
    (checked : function.Checked known)
    (within : known.scope.outer.layout.Within final.scope.outer.layout)
    (functionsStay :
      ∀ (name : String) signature,
        known.functions[name]? = some signature → final.functions[name]? = some signature) :
    function.Checked final := by
  obtain ⟨visible, isVisible, bodyScoped, resolved⟩ := checked
  refine ⟨visible, isVisible.trans within, bodyScoped, fun call member => ?_⟩
  obtain ⟨signature, found, sameArity⟩ := resolved call member
  exact ⟨signature, functionsStay _ _ found, sameArity⟩

namespace Parser

variable {grammar : Grammar} {known between final : Declarations}
variable {tokens rest : List Token} {item : Item} {items : List Item}

/-- Items that are read can be hoisted. -/
theorem ReadsItems.hoist_eq
    (reads : ReadsItems grammar known tokens items final)
    (origin : Nat)
    {state : State}
    (outermost : state.scopes.inner = [])
    (free :
      ∀ name : String, known.functions[name]? = none → state.functions[name]? = none) :
    Evaluation.hoist origin items state = .ok () (state.hoisted origin items) := by
  induction reads generalizing state with
  | nil =>
      rfl
  | @cons known tokens first between rest others final firstReads _ inductionHypothesis =>
      rcases firstReads.functions_eq with
        ⟨declaration, rfl, isNew, functionsEq⟩ | ⟨notFunction, functionsEq⟩
      · have undefinedYet : state.functions[declaration.name.text]? = none := free _ isNew
        have defines : Evaluation.defineFunction ⟨origin, declaration⟩ state =
            .ok () { state with
              functions :=
                state.functions.insert declaration.name.text (.user ⟨origin, declaration⟩) } := by
          simp [Evaluation.defineFunction, UserFunction.name, undefinedYet]
        simp only [Evaluation.hoist, defines, Outcome.andThen]
        refine inductionHypothesis outermost fun name undeclared => ?_
        rw [functionsEq] at undeclared
        grind
      · rw [functionsEq] at inductionHypothesis
        cases first with
        | function declaration =>
            simp [Item.function?] at notFunction
        | type declaration =>
            simp only [Evaluation.hoist]
            have bound := ScopeChain.define_of_inner_nil outermost declaration.name.text
              (⟨.type declaration.name.text, false⟩ : Variable)
            have stillOutermost :
                (state.define declaration.name.text (.type declaration.name.text)
                  false).scopes.inner = [] := by
              simp [State.define, bound]
            rw [inductionHypothesis stillOutermost free]
            simp [State.hoisted, State.define, bound, Item.bindIn, Item.defineIn, outermost]
        | statement inner =>
            exact inductionHypothesis outermost free

/-- Every signature stays while items are read. -/
theorem ReadsItem.functions_mono
    (reads : ReadsItem grammar known tokens item between rest)
    {name : String}
    {signature : Signature}
    (found : known.functions[name]? = some signature) :
    between.functions[name]? = some signature := by
  rcases reads.functions_eq with ⟨declaration, -, isNew, functionsEq⟩ | ⟨-, functionsEq⟩
  · grind
  · rwa [functionsEq]

theorem ReadsItems.functions_mono
    (reads : ReadsItems grammar known tokens items final)
    {name : String}
    {signature : Signature}
    (found : known.functions[name]? = some signature) :
    final.functions[name]? = some signature := by
  induction reads with
  | nil =>
      exact found
  | cons firstReads _ inductionHypothesis =>
      exact inductionHypothesis (firstReads.functions_mono found)

/-- The signatures after items are those of the functions after hoisting. -/
theorem ReadsItems.signatures_eq
    (reads : ReadsItems grammar known tokens items final)
    (origin : Nat)
    {functions : FunctionTable}
    (signatures :
      ∀ name : String, known.functions[name]? = (functions[name]?).map Function.signature)
    (name : String) :
    final.functions[name]? =
      ((items.foldl (Item.defineIn origin) functions)[name]?).map Function.signature := by
  induction reads generalizing functions with
  | nil =>
      exact signatures name
  | @cons known tokens first between rest others final firstReads _ inductionHypothesis =>
      refine inductionHypothesis fun other => ?_
      rcases firstReads.functions_eq with
        ⟨declaration, rfl, isNew, functionsEq⟩ | ⟨notFunction, functionsEq⟩
      · rw [functionsEq]
        simp only [Item.defineIn, Std.ExtTreeMap.getElem?_insert]
        split
        · simp [Function.signature, UserFunction.parameters]
        · exact signatures other
      · rw [functionsEq]
        cases first with
        | function declaration =>
            simp [Item.function?] at notFunction
        | _ =>
            exact signatures other

/-- After hoisting, the global variables are as the parser knows them after the file. -/
theorem ReadsItems.within_hoisted
    (reads : ReadsItems grammar known tokens items final)
    (outermost : known.scope.inner = [])
    {frame : Frame Variable}
    (bound : frame.layout.Within known.scope.outer.layout) :
    (items.foldl Item.bindIn frame).layout.Within final.scope.outer.layout := by
  have obey := reads.scoped outermost
  rw [reads.layout_outer outermost]
  exact Item.layout_bindIn_within (bound.trans (Item.ScopedAll.within obey))
    fun declaration member => Item.ScopedAll.find?_type obey member

/-- After hoisting, the functions of a run match what the parser knows after the file. -/
theorem ReadsItems.matches_hoisted
    (reads : ReadsItems grammar known tokens items final)
    (outermost : known.scope.inner = [])
    (resolved : final.functions.Resolve (items.flatMap Item.calls))
    (origin : Nat)
    {functions : FunctionTable}
    (matching : functions.Matches known) :
    (items.foldl (Item.defineIn origin) functions).Matches final where
  signatures := reads.signatures_eq origin matching.signatures
  bodies := by
    intro name function found
    have obey := reads.scoped outermost
    have layoutEq := reads.layout_outer outermost
    rcases Item.of_defineIn found with earlier | ⟨declaration, member, isUser⟩
    · refine (matching.bodies name function earlier).mono ?_ fun _ _ => reads.functions_mono
      rw [layoutEq]
      exact Item.ScopedAll.within obey
    · cases isUser
      obtain ⟨visible, isVisible, bodyScoped⟩ := Item.ScopedAll.body_scoped obey member
      refine ⟨visible, layoutEq ▸ isVisible, bodyScoped, fun call inBody => ?_⟩
      exact resolved call (List.mem_flatMap.mpr ⟨_, member, inBody⟩)

end Parser

/-- What holds of the global variables and the functions however a file has ended. -/
structure State.Conforms (known : Declarations) (state : State) : Prop where
  bound : state.scopes.outer.layout.Within known.scope.outer.layout
  functions : state.functions.Matches known

theorem State.Stands.conforms
    {known : Declarations}
    {definite : Prop}
    {layout : Layout}
    {state : State}
    (stands : state.Stands known definite layout) :
    state.Conforms known :=
  ⟨stands.bound, stands.functions⟩

theorem State.Conforms.keepsGlobally
    {known : Declarations}
    {state after : State}
    (conforms : state.Conforms known)
    (kept : state.KeepsGlobally after) :
    after.Conforms known where
  bound := by
    rw [kept.outer.layout_eq]
    exact conforms.bound
  functions := by
    rw [kept.functions]
    exact conforms.functions

/-- A statement unbinds no global variable. -/
theorem ScopeChain.Follows.namesWithin
    {before after : Variables}
    {declared : Option (Identifier × Bool)}
    (follows : Follows before declared after) :
    before.outer.NamesWithin after.outer := by
  cases follows with
  | nothing kept =>
      exact (Frame.NamesWithin.refl _).of_layout_eq kept.outer.layout_eq
  | @declares between identifier mutable value kept =>
      have namesKept := (Frame.NamesWithin.refl before.outer).of_layout_eq kept.outer.layout_eq
      rcases between with ⟨_ | ⟨frame, rest⟩, outer⟩
      · exact namesKept.define _ _
      · exact namesKept

namespace Evaluation

variable {known final : Declarations} {definite : Prop}

theorem exec_sound_conforms
    {layout : Layout}
    {state : State}
    {fuel : Nat}
    {environment : Environment}
    {statement : Stmt}
    (stands : state.Stands known definite layout)
    (obeys : statement.Scoped layout)
    (resolved : known.functions.Resolve statement.calls) :
    (exec fuel environment statement state).Ends
      (fun _ => state.Follows statement.declared?)
      (fun failure after => failure.Sound definite ∧ after.Conforms known) := by
  have fails := (sound fuel).exec environment statement state stands obeys resolved
  have ends := (preserves fuel).exec environment statement state
  revert fails ends
  cases exec fuel environment statement state with
  | ok signal after =>
      exact fun _ follows => follows
  | fail failure after =>
      exact fun isSound kept => ⟨isSound, stands.conforms.keepsGlobally kept⟩

/-- The items of an accepted file run as their declarations say. -/
theorem ends_execItems
    (fuel : Nat)
    (environment : Environment)
    {items : List Item}
    {global : Frame Bool}
    {state : State}
    (stands : state.Stands known definite ⟨[], global⟩)
    (obey : Item.ScopedAll global items)
    (resolved : known.functions.Resolve (items.flatMap Item.calls))
    (reaches : items.foldl Item.declareIn global = known.scope.outer.layout)
    (typesBound :
      ∀ declaration, .type declaration ∈ items →
        (state.scopes.outer.find? declaration.name.text).isSome) :
    (execItems fuel environment items state).Ends
      (fun _ after => after.Stands known definite ⟨[], known.scope.outer.layout⟩)
      (fun failure after => failure.Sound definite ∧ after.Conforms known) := by
  induction items generalizing fuel global state with
  | nil =>
      cases fuel with
      | zero =>
          exact ⟨trivial, stands.conforms⟩
      | succ fuel =>
          exact reaches ▸ stands
  | cons first rest inductionHypothesis =>
      have restTypes :
          ∀ declaration, .type declaration ∈ rest →
            (state.scopes.outer.find? declaration.name.text).isSome :=
        fun declaration inRest => typesBound declaration (List.mem_cons_of_mem _ inRest)
      have restResolved : known.functions.Resolve (rest.flatMap Item.calls) :=
        fun call inRest => resolved call (by simp [inRest])
      cases fuel with
      | zero =>
          exact ⟨trivial, stands.conforms⟩
      | succ fuel =>
          cases first with
          | function declaration =>
              exact inductionHypothesis fuel stands obey.2 restResolved reaches restTypes
          | type declaration =>
              -- The type was bound when the file was hoisted.
              have isBound := typesBound declaration (by simp)
              have declaredFound :
                  known.scope.outer.layout.find? declaration.name.text = some false :=
                reaches ▸ obey.find?_eq_some rfl
              have standsNext : state.Stands known definite
                  ⟨[], (Item.type declaration).declareIn global⟩ :=
                { stands with
                  visible := stands.visible.define declaredFound
                  present := fun isDefinite =>
                    (stands.present isDefinite).of_define isBound _ }
              exact inductionHypothesis fuel standsNext obey.2 restResolved reaches restTypes
          | statement inner =>
              have standsNoted : (state.note (statementRecord environment.logger inner)).Stands
                  known definite ⟨[], global⟩ :=
                { stands with }
              have innerResolved : known.functions.Resolve inner.calls :=
                fun call inInner => resolved call (by simp [Item.calls, inInner])
              refine (exec_sound_conforms standsNoted obey.1 innerResolved).andThen
                fun signal between follows => ?_
              have standsNext := standsNoted.follows follows
                fun _ identifier mutable declares => reaches ▸ obey.find?_eq_some declares
              have layoutEq := Item.declare_eq global (.statement inner)
              exact inductionHypothesis fuel (layoutEq ▸ standsNext) obey.2 restResolved reaches
                fun declaration inRest =>
                  follows.scopes.namesWithin _ (restTypes declaration inRest)

/-- An accepted file runs as its declarations say, and a file that runs to its end binds what it
declares. -/
theorem ends_runFile
    (fuel : Nat)
    (environment : Environment)
    {grammar : Grammar}
    {tokens : List Token}
    {script : Script}
    {state : State}
    (reads : Parser.ReadsItems grammar known tokens script.file.items final)
    (outermost : known.scope.inner = [])
    (resolved : final.functions.Resolve script.file.calls)
    (topLevel : state.scopes.inner = [])
    (conforms : state.Conforms known)
    (present : definite → known.scope.outer.layout.NamesWithin state.scopes.outer) :
    (runFile fuel environment script state).Ends
      (fun _ after =>
        after.Conforms final ∧
          (definite → final.scope.outer.layout.NamesWithin after.scopes.outer))
      (fun failure after =>
        failure ≠ .outOfFuel → failure.Sound definite ∧ after.Conforms final) := by
  cases fuel with
  | zero =>
      exact fun ranOut => (ranOut rfl).elim
  | succ fuel =>
      have obey := reads.scoped outermost
      have layoutEq := reads.layout_outer outermost
      have within : known.scope.outer.layout.Within final.scope.outer.layout :=
        layoutEq ▸ Item.ScopedAll.within obey
      have hoists := reads.hoist_eq script.origin topLevel fun name undeclared => by
        simpa [conforms.functions.signatures] using undeclared
      have stands : (state.hoisted script.origin script.file.items).Stands final definite
          ⟨[], known.scope.outer.layout⟩ :=
        { inner := by simp [State.hoisted, topLevel]
          visible := within
          bound := reads.within_hoisted outermost conforms.bound
          present := fun isDefinite name found =>
            Item.namesWithin_bindIn _ _ name (present isDefinite name found)
          functions := reads.matches_hoisted outermost resolved script.origin conforms.functions }
      have itemsEnd := ends_execItems fuel environment stands obey resolved layoutEq.symm
        fun declaration => Item.isSome_bindIn
      simp only [runFile, hoists, Outcome.andThen]
      revert itemsEnd
      rcases execItems fuel environment script.file.items
        (state.hoisted script.origin script.file.items) with
        ⟨_, after⟩ | ⟨error | message | _, after⟩
      · exact fun stands => ⟨⟨stands.bound, stands.functions⟩, stands.present⟩
      · exact fun failed _ => ⟨failed.1, failed.2.bound, failed.2.functions⟩
      · exact fun failed _ =>
          ⟨EvalError.sound_failed _ rfl fun _ => rfl, failed.2.bound, failed.2.functions⟩
      · exact fun _ ranOut => (ranOut rfl).elim

end Evaluation

end Scripting
