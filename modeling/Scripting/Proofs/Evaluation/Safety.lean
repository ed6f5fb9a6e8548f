import Scripting.Proofs.Evaluation.Keeping
import Scripting.Proofs.Parser.Scoping

namespace Scripting

/-!
# Faults that checked code cannot have

A tree that obeys the scoping rules, and whose calls were resolved, runs in a state of the same
layout without the faults that those checks are there for.  Code outside of function bodies also
finds every variable that it names, provided that the global variables declared before it are
bound.  The body of a function may run before a global variable is bound that it names, so that
the same cannot be said of bodies.
-/

/-- How the parser sees a function. -/
def Function.signature : Function → Signature
  | .user function => ⟨some function.parameters.length, false⟩
  | .builtin _ => ⟨none, true⟩

namespace EvalFault

/-- Whether a fault is one that the checks of the parser are there for. -/
def isChecked : EvalFault → Bool
  | .undefinedFunction _ => true
  | .wrongArity .. => true
  | .builtinRedefined _ => true
  | .functionRedefined .. => true
  | .assignment (.immutable _) => true
  | _ => false

/-- Whether a fault is that of a variable that is not bound. -/
def isUnbound : EvalFault → Bool
  | .undefinedVariable _ => true
  | .assignment (.undefined _) => true
  | _ => false

@[simp] theorem isChecked_ofContext (error : ContextError) :
    (ofContext error).isChecked = false := by
  cases error <;> rfl

@[simp] theorem isUnbound_ofContext (error : ContextError) :
    (ofContext error).isUnbound = false := by
  cases error <;> rfl

end EvalFault

namespace EvalError

/-- The fault from which an error originates, unless a function of the host worded it. -/
def origin? : EvalError → Option EvalFault
  | .failed _ fault => some fault
  | .host _ => none
  | .inFunction _ _ cause => cause.origin?

/-- Whether an error passed through the body of a function on its way out. -/
def crossesCall : EvalError → Bool
  | .inFunction .. => true
  | _ => false

/-- The errors of checked code.  An unbound variable is one only inside of a function body, if
the code is definite. -/
structure Sound (definite : Prop) (error : EvalError) : Prop where
  unchecked : ∀ fault, error.origin? = some fault → fault.isChecked = false
  bound :
    definite → ∀ fault, error.origin? = some fault → fault.isUnbound = true →
      error.crossesCall = true

/-- A fault that is neither checked nor that of an unbound variable makes a sound error. -/
theorem sound_failed
    {definite : Prop}
    {fault : EvalFault}
    (position : Position)
    (unchecked : fault.isChecked = false)
    (bound : definite → fault.isUnbound = false) :
    (EvalError.failed position fault).Sound definite where
  unchecked := by
    rintro _ ⟨⟩
    exact unchecked
  bound := by
    rintro isDefinite _ ⟨⟩ unbound
    simp [bound isDefinite] at unbound

/-- An error that says that calls are nested too deeply originates from nothing else. -/
theorem origin?_of_exceedsDepth
    {error : EvalError}
    (exceeds : error.exceedsDepth = true) :
    ∃ name limit, error.origin? = some (.depthExceeded name limit) := by
  induction error with
  | failed position fault =>
      cases fault with
      | depthExceeded name limit =>
          exact ⟨name, limit, rfl⟩
      | _ =>
          simp [exceedsDepth] at exceeds
  | host text =>
      simp [exceedsDepth] at exceeds
  | inFunction position name cause inductionHypothesis =>
      exact inductionHypothesis exceeds

end EvalError

/-- The failures of checked code. -/
def Failure.Sound (definite : Prop) : Failure → Prop
  | .error cause => cause.Sound definite
  | .crash _ => True
  | .outOfFuel => True

/-- A step of checked code: it may fail, but not with a fault that is ruled out. -/
def Outcome.Sound {Result : Type} (definite : Prop) (outcome : Outcome Result) : Prop :=
  outcome.Ends (fun _ _ => True) (fun failure _ => failure.Sound definite)

namespace Outcome.Sound

variable {First Second Result : Type} {definite : Prop}

/-- A result is sound. -/
theorem ok (result : Result) (state : State) : (Outcome.ok result state).Sound definite :=
  trivial

/-- A failure that is none of the checked ones is sound. -/
theorem failedAt
    {fault : EvalFault}
    (position : Position)
    (state : State)
    (unchecked : fault.isChecked = false)
    (bound : definite → fault.isUnbound = false) :
    (Outcome.fail (.failedAt position fault) state : Outcome Result).Sound definite :=
  EvalError.sound_failed position unchecked bound

/-- Outcomes in sequence are sound if each of them is. -/
theorem andThen
    {outcome : Outcome First}
    {next : First → State → Outcome Second}
    (first : outcome.Sound definite)
    (second :
      ∀ result between, outcome = .ok result between → (next result between).Sound definite) :
    (outcome.andThen next).Sound definite := by
  cases outcome with
  | ok result between =>
      exact second result between rfl
  | fail failure state =>
      exact first

/-- A change of the final state does not matter. -/
theorem afterwards
    {outcome : Outcome Result}
    (sound : outcome.Sound definite)
    (change : State → State) :
    (outcome.afterwards change).Sound definite := by
  cases outcome with
  | ok result between =>
      trivial
  | fail failure state =>
      exact sound

end Outcome.Sound

/-- A function of a script obeys the scoping rules where some of the declarations are visible,
and its calls were resolved. -/
def UserFunction.Checked (known : Declarations) (function : UserFunction) : Prop :=
  ∃ visible : Frame Bool,
    visible.Within known.scope.outer.layout ∧
      function.declaration.body.Scoped (.ofParameters visible function.parameters) ∧
      known.functions.Resolve function.declaration.body.calls

/-- The functions of a run are those that were declared, and those of scripts are checked. -/
structure FunctionTable.Matches (known : Declarations) (functions : FunctionTable) : Prop where
  signatures :
    ∀ name : String, known.functions[name]? = (functions[name]?).map Function.signature
  bodies :
    ∀ (name : String) function,
      functions[name]? = some (.user function) → function.Checked known

/-- The state in which a statement starts that stands in a layout.  In definite code the global
variables of the layout are bound. -/
structure State.Stands (known : Declarations) (definite : Prop) (layout : Layout)
    (state : State) : Prop where
  inner : state.scopes.layout.inner = layout.inner
  visible : layout.outer.Within known.scope.outer.layout
  bound : state.scopes.outer.layout.Within known.scope.outer.layout
  present : definite → layout.outer.NamesWithin state.scopes.outer
  functions : state.functions.Matches known

namespace State.Stands

variable {known : Declarations} {definite : Prop} {layout : Layout} {state after : State}

/-- Where a variable is found, it is as mutable as the layout says. -/
theorem mutable_eq
    (stands : state.Stands known definite layout)
    {name : String}
    {mutable : Bool}
    {entry : Variable}
    (shown : layout.find? name = some mutable)
    (found : state.scopes.find? name = some entry) :
    entry.mutable = mutable := by
  have foundLayout : state.scopes.layout.find? name = some entry.mutable := by
    simp [found]
  rw [ScopeChain.find?_eq] at shown foundLayout
  rw [stands.inner] at foundLayout
  cases inside : layout.inner.findSome? fun frame => frame.find? name with
  | some other =>
      simp only [inside, Option.some_or, Option.some.injEq] at shown foundLayout
      rw [← foundLayout, shown]
  | none =>
      simp only [inside, Option.none_or, ScopeChain.layout_outer] at shown foundLayout
      have fromLayout := stands.visible name mutable shown
      have fromState := stands.bound name entry.mutable foundLayout
      rw [fromLayout] at fromState
      exact (Option.some.inj fromState).symm

/-- In definite code every variable of the layout is found. -/
theorem isSome_find?
    (stands : state.Stands known definite layout)
    (isDefinite : definite)
    {name : String}
    (shown : (layout.find? name).isSome) :
    (state.scopes.find? name).isSome := by
  have shownBelow : (state.scopes.layout.find? name).isSome := by
    rw [ScopeChain.find?_eq] at shown ⊢
    rw [stands.inner]
    cases inside : layout.inner.findSome? fun frame => frame.find? name with
    | some other =>
        rfl
    | none =>
        simp only [inside, Option.none_or] at shown ⊢
        simpa using stands.present isDefinite name shown
  simpa using shownBelow

/-- What a step keeps includes that a state stands by its layout. -/
theorem keeps
    (stands : state.Stands known definite layout)
    (kept : state.Keeps after) :
    after.Stands known definite layout where
  inner := by
    rw [← stands.inner, kept.scopes.layout_eq]
  visible := stands.visible
  bound := by
    rw [kept.outer.layout_eq]
    exact stands.bound
  present := fun isDefinite =>
    (stands.present isDefinite).of_layout_eq kept.outer.layout_eq
  functions := by
    rw [kept.functions]
    exact stands.functions

/-- After a statement the layout has what the statement declares.  At the top level this has to be
among the declarations. -/
theorem follows
    (stands : state.Stands known definite layout)
    {declared : Option (Identifier × Bool)}
    (follows : state.Follows declared after)
    (isKnown :
      layout.inner = [] → ∀ identifier mutable, declared = some (identifier, mutable) →
        known.scope.outer.layout.find? identifier.text = some mutable) :
    after.Stands known definite (layout.declare declared) := by
  have afterLayout := follows.scopes.layout_eq
  have afterFunctions : after.functions.Matches known := by
    rw [follows.functions]
    exact stands.functions
  cases declared with
  | none =>
      have sameOuter : after.scopes.outer.layout = state.scopes.outer.layout :=
        congrArg ScopeChain.outer afterLayout
      exact
        { inner := by rw [afterLayout]; exact stands.inner
          visible := stands.visible
          bound := by rw [sameOuter]; exact stands.bound
          present := fun isDefinite => (stands.present isDefinite).of_layout_eq sameOuter
          functions := afterFunctions }
  | some declaration =>
      rcases declaration with ⟨identifier, mutable⟩
      simp only [Layout.declare] at afterLayout ⊢
      rcases shape : layout.inner with _ | ⟨frame, rest⟩
      · -- The variable is a global one, in the layout and in the state.
        have declaredFound := isKnown shape identifier mutable rfl
        have stateOutermost : state.scopes.layout.inner = [] := stands.inner.trans shape
        rw [ScopeChain.define_of_inner_nil stateOutermost] at afterLayout
        rw [ScopeChain.define_of_inner_nil shape]
        have afterOuter : after.scopes.outer.layout =
            state.scopes.outer.layout.define identifier.text mutable :=
          congrArg ScopeChain.outer afterLayout
        exact
          { inner := by rw [afterLayout]
            visible := stands.visible.define declaredFound
            bound := by
              rw [afterOuter]
              exact stands.bound.define declaredFound
            present := fun isDefinite =>
              (((stands.present isDefinite).define identifier.text ⟨.null, mutable⟩).of_define
                (by simp) mutable).of_layout_eq (by simpa using afterOuter)
            functions := afterFunctions }
      · -- The variable is a local one, and the outermost frames stay the same.
        have layoutOpened : layout.inner ≠ [] := by simp [shape]
        have stateOpened : state.scopes.layout.inner ≠ [] := by
          rw [stands.inner]
          exact layoutOpened
        have afterOuter : after.scopes.outer.layout = state.scopes.outer.layout := by
          rw [← ScopeChain.layout_outer, afterLayout, ScopeChain.outer_define stateOpened]
          rfl
        exact
          { inner := by
              rw [afterLayout]
              exact ScopeChain.inner_define_congr stands.inner _ _
            visible := by
              rw [ScopeChain.outer_define layoutOpened]
              exact stands.visible
            bound := by
              rw [afterOuter]
              exact stands.bound
            present := by
              rw [ScopeChain.outer_define layoutOpened]
              exact fun isDefinite => (stands.present isDefinite).of_layout_eq afterOuter
            functions := afterFunctions }

/-- A statement that declares nothing leaves its layout. -/
theorem follows_nothing
    (stands : state.Stands known definite layout)
    (follows : state.Follows none after) :
    after.Stands known definite layout := by
  refine stands.follows follows fun _ identifier mutable declares => ?_
  cases declares

/-- A variable that is bound in an inner frame is bound in the layout of it. -/
theorem define
    (stands : state.Stands known definite layout)
    (opened : layout.inner ≠ [])
    (name : String)
    (value : Value)
    (mutable : Bool) :
    (state.define name value mutable).Stands known definite (layout.define name mutable) := by
  have follows : state.Follows (some (⟨name, .none⟩, mutable))
      (state.define name value mutable) :=
    ⟨.declares (.refl _), rfl, rfl⟩
  exact stands.follows follows fun closed => (opened closed).elim

/-- A frame that is opened for a body is opened in the layout of the body. -/
theorem enter
    (stands : state.Stands known definite layout)
    (comment : String) :
    (state.enter comment).Stands known definite (layout.push "") where
  inner := by
    rw [State.enter, ScopeChain.layout_push]
    exact congrArg (Frame.empty "" :: ·) stands.inner
  visible := stands.visible
  bound := stands.bound
  present := stands.present
  functions := stands.functions

end State.Stands

/-- A declaration leaves an opened scope open. -/
theorem Layout.inner_declare_ne_nil
    {layout : Layout}
    (opened : layout.inner ≠ [])
    (declared : Option (Identifier × Bool)) :
    (layout.declare declared).inner ≠ [] := by
  cases declared with
  | none =>
      exact opened
  | some declaration =>
      exact ScopeChain.inner_define_ne_nil opened _ _

/-- The parameters of a function are in a frame of their own. -/
theorem Layout.ofParameters_eq (global : Frame Bool) (parameters : List String) :
    Layout.ofParameters global parameters =
      ⟨[parameters.foldl (fun frame name => frame.define name false) (.empty "")], global⟩ := by
  have bound :
      ∀ (names : List String) (frame : Frame Bool),
        names.foldl (fun (layout : Layout) name => layout.define name false)
            ⟨[frame], global⟩ =
          ⟨[names.foldl (fun frame name => frame.define name false) frame], global⟩ := by
    intro names
    induction names with
    | nil =>
        intro frame
        rfl
    | cons name rest inductionHypothesis =>
        intro frame
        exact inductionHypothesis _
  exact bound parameters _

/-- A call binds every parameter of its function. -/
theorem layout_bindArguments
    {parameters : List String}
    {arguments : List Value}
    (sameLength : arguments.length = parameters.length)
    (frame : Frame Variable) :
    ((parameters.zip arguments).foldl
        (fun frame (name, value) => frame.define name ⟨value, false⟩) frame).layout =
      parameters.foldl (fun frame name => frame.define name false) frame.layout := by
  induction parameters generalizing arguments frame with
  | nil =>
      rfl
  | cons name rest inductionHypothesis =>
      rcases arguments with _ | ⟨value, others⟩
      · simp at sameLength
      · simp only [List.length_cons, Nat.add_right_cancel_iff] at sameLength
        simp [inductionHypothesis sameLength]

/-- The body of a checked function starts in the layout for which it was checked. -/
theorem State.Stands.enterCall
    {known : Declarations}
    {definite : Prop}
    {layout : Layout}
    {state : State}
    (stands : state.Stands known definite layout)
    {function : UserFunction}
    {arguments : List Value}
    (sameLength : arguments.length = function.parameters.length)
    {visible : Frame Bool}
    (isVisible : visible.Within known.scope.outer.layout) :
    (state.enterCall function arguments).Stands known False
      (.ofParameters visible function.parameters) where
  inner := by
    rw [Evaluation.scopes_enterCall, Layout.ofParameters_eq]
    simp [layout_bindArguments sameLength]
  visible := by
    rw [Layout.ofParameters_eq]
    exact isVisible
  bound := by
    rw [Evaluation.scopes_enterCall]
    exact stands.bound
  present := False.elim
  functions := stands.functions

namespace Evaluation

/-- There are as many values as expressions. -/
theorem length_of_evalAll
    {fuel : Nat}
    {environment : Environment}
    {expressions : List Expr}
    {state after : State}
    {values : List Value}
    (evaluated : evalAll fuel environment expressions state = .ok values after) :
    values.length = expressions.length := by
  induction expressions generalizing fuel state values after with
  | nil =>
      cases fuel with
      | zero =>
          simp [evalAll] at evaluated
      | succ fuel =>
          simp only [evalAll, Outcome.ok.injEq] at evaluated
          simp [← evaluated.1]
  | cons first rest inductionHypothesis =>
      cases fuel with
      | zero =>
          simp [evalAll] at evaluated
      | succ fuel =>
          simp only [evalAll, Outcome.andThen_eq_ok, Outcome.ok.injEq] at evaluated
          obtain ⟨value, between, -, others, final, restEvaluated, rfl, rfl⟩ := evaluated
          simp [inductionHypothesis restEvaluated]

/-- What a call needs of its function: that of a script is checked and takes as many arguments. -/
def Callable (known : Declarations) (arguments : List Value) : Function → Prop
  | .user function =>
      function.Checked known ∧ arguments.length = function.parameters.length
  | .builtin _ => True

/-- A resolved call finds a function that it may call. -/
theorem callable_of_resolved
    {known : Declarations}
    {functions : FunctionTable}
    (matching : functions.Matches known)
    {function : Identifier}
    {arguments : List Value}
    {callee : Function}
    (resolved : CallSite.Resolved known.functions ⟨function, arguments.length⟩)
    (found : functions[function.text]? = some callee) :
    Callable known arguments callee := by
  cases callee with
  | builtin inner =>
      trivial
  | user inner =>
      refine ⟨matching.bodies _ _ found, ?_⟩
      obtain ⟨signature, declared, sameArity⟩ := resolved
      rw [matching.signatures, found] at declared
      cases declared
      exact (sameArity _ rfl).symm

/-- A resolved call finds a function. -/
theorem isSome_of_resolved
    {known : Declarations}
    {functions : FunctionTable}
    (matching : functions.Matches known)
    {call : CallSite}
    (resolved : call.Resolved known.functions) :
    (functions[call.function.text]?).isSome := by
  obtain ⟨signature, declared, -⟩ := resolved
  rw [matching.signatures] at declared
  obtain ⟨callee, found, -⟩ := Option.map_eq_some_iff.mp declared
  simp [found]

/-- A name that is shown is defined. -/
theorem sound_readVariable
    {known : Declarations}
    {definite : Prop}
    {layout : Layout}
    {state : State}
    (stands : state.Stands known definite layout)
    {identifier : Identifier}
    (shown : layout.Shows [identifier]) :
    (readVariable identifier state).Sound definite := by
  unfold readVariable
  cases found : state.scopes.find? identifier.text with
  | some entry =>
      exact .ok _ _
  | none =>
      refine .failedAt _ _ rfl fun isDefinite => ?_
      have foundLater := stands.isSome_find? isDefinite (shown identifier (by simp))
      simp [found] at foundLater

/-- A name that is shown as mutable may be assigned. -/
theorem sound_writeVariable
    {known : Declarations}
    {definite : Prop}
    {layout : Layout}
    {state : State}
    (stands : state.Stands known definite layout)
    {identifier : Identifier}
    (shown : layout.find? identifier.text = some true)
    (value : Value) :
    (writeVariable identifier value state).Sound definite := by
  unfold writeVariable assignVariable
  cases found : state.scopes.find? identifier.text with
  | some entry =>
      have mutable := stands.mutable_eq shown found
      simp only [mutable, ↓reduceIte]
      exact .ok _ _
  | none =>
      refine .failedAt _ _ rfl fun isDefinite => ?_
      have foundLater := stands.isSome_find? isDefinite (Option.isSome_of_eq_some shown)
      simp [found] at foundLater

/-- An operator refuses operands for their kinds only. -/
theorem sound_applyOperator
    {definite : Prop}
    (operator : Operator)
    (position : Position)
    (left right : Value)
    (state : State) :
    (applyOperator operator position left right state).Sound definite := by
  unfold applyOperator
  split
  · exact .ok _ _
  · exact .failedAt _ _ rfl fun _ => rfl

/-- A loop refuses a bound for its kind only. -/
theorem sound_loopElements
    {definite : Prop}
    (position : Position)
    (bound : Value)
    (state : State) :
    (loopElements position bound state).Sound definite := by
  unfold loopElements
  split
  · exact .failedAt _ _ rfl fun _ => rfl
  · split
    · exact .ok _ _
    · exact .failedAt _ _ rfl fun _ => rfl

/-- What escapes from the body of a function is wrapped, so that code around the call stays
definite. -/
theorem sound_callResult
    {definite : Prop}
    {outcome : Outcome Signal}
    (sound : outcome.Sound False)
    (position : Position)
    (name : String) :
    (callResult position name outcome).Sound definite := by
  rcases outcome with ⟨_ | value | _ | _, state⟩ | ⟨error | message | _, state⟩
  case fail.error =>
    simp only [callResult]
    split
    · next exceeds =>
        obtain ⟨inner, limit, origin⟩ := EvalError.origin?_of_exceedsDepth exceeds
        refine ⟨sound.unchecked, fun _ fault isOrigin unbound => ?_⟩
        rw [origin] at isOrigin
        cases isOrigin
        simp [EvalFault.isUnbound] at unbound
    · exact ⟨sound.unchecked, fun _ _ _ _ => rfl⟩
  all_goals trivial

/-- Any code may be interrupted. -/
theorem sound_interruption
    {Result : Type}
    {definite : Prop}
    (environment : Environment)
    (position : Position)
    (state : State) :
    (Outcome.fail (interruption environment position) state : Outcome Result).Sound definite :=
  .failedAt _ _ (EvalFault.isChecked_ofContext _) fun _ => EvalFault.isUnbound_ofContext _

/-- What a host reports is its own failure. -/
theorem sound_hostCall
    {definite : Prop}
    (function : HostFunction)
    (took : List LogRecord)
    (position : Position)
    (arguments : List Value)
    (state : State) :
    (function.call took position arguments state).Sound definite := by
  unfold HostFunction.call
  cases function.resultIn arguments state
  · exact .ok _ _
  · exact .failedAt _ _ rfl fun _ => rfl
  · exact ⟨fun _ => nofun, fun _ _ => nofun⟩
  · trivial

/-- A builtin refuses arguments for their number or kind. -/
theorem sound_argumentFault
    {definite : Prop}
    {function : Builtin}
    {arguments : List Value}
    {fault : EvalFault}
    (isFault : function.argumentFault? arguments = some fault)
    (position : Position)
    (state : State) :
    (Outcome.fail (.failedAt position fault) state : Outcome Value).Sound definite := by
  unfold Builtin.argumentFault? at isFault
  split at isFault
  · cases isFault
    exact .failedAt _ _ rfl fun _ => rfl
  · obtain ⟨⟨number, parameter, argument⟩, -, rfl⟩ := Option.map_eq_some_iff.mp isFault
    exact .failedAt _ _ rfl fun _ => rfl

/-- A script that a script runs hands its errors over as values. -/
theorem sound_runScript
    {definite : Prop}
    (fuel : Nat)
    (environment : Environment)
    (position : Position)
    (text : String)
    (state : State) :
    (runScript fuel environment position text state).Sound definite := by
  cases fuel with
  | zero =>
      simp [runScript, Outcome.Sound, Failure.Sound]
  | succ fuel =>
      simp only [runScript]
      split
      · exact .failedAt _ _ rfl fun _ => rfl
      · split
        · exact .ok _ _
        · generalize runFile fuel _ _ _ = outcome
          rcases outcome with ⟨_, final⟩ | ⟨error | message | _, final⟩ <;> trivial

/-- A standard function fails for what it was given, or as its script does. -/
theorem sound_callStandard
    {definite : Prop}
    (fuel : Nat)
    (environment : Environment)
    (position : Position)
    (function : Standard)
    (arguments : List Value)
    (state : State) :
    (callStandard fuel environment position function arguments state).Sound definite := by
  cases fuel with
  | zero =>
      simp [callStandard, Outcome.Sound, Failure.Sound]
  | succ fuel =>
      cases function with
      | length =>
          simp only [callStandard, lengthCall]
          split
          · exact .ok _ _
          · exact .failedAt _ _ rfl fun _ => rfl
      | runScript =>
          exact sound_runScript ..
      | _ =>
          exact .ok _ _

/-- What checked trees do with an amount of fuel. -/
structure Sound (fuel : Nat) : Prop where
  evalExpr :
    ∀ {known definite layout} environment expression (state : State),
      state.Stands known definite layout →
      layout.Shows expression.reads →
      known.functions.Resolve expression.calls →
      (Evaluation.evalExpr fuel environment expression state).Sound definite
  evalAll :
    ∀ {known definite layout} environment expressions (state : State),
      state.Stands known definite layout →
      layout.Shows (Expr.readsAll expressions) →
      known.functions.Resolve (Expr.callsAll expressions) →
      (Evaluation.evalAll fuel environment expressions state).Sound definite
  evalCondition :
    ∀ {known definite layout} environment expression (state : State),
      state.Stands known definite layout →
      layout.Shows expression.reads →
      known.functions.Resolve expression.calls →
      (Evaluation.evalCondition fuel environment expression state).Sound definite
  callFunction :
    ∀ {known definite layout} environment position function arguments (state : State),
      state.Stands known definite layout →
      Callable known arguments function →
      (Evaluation.callFunction fuel environment position function arguments state).Sound definite
  execAll :
    ∀ {known definite layout} environment statements (state : State),
      state.Stands known definite layout →
      layout.inner ≠ [] →
      Stmt.ScopedAll layout statements →
      known.functions.Resolve (Stmt.callsAll statements) →
      (Evaluation.execAll fuel environment statements state).Sound definite
  exec :
    ∀ {known definite layout} environment statement (state : State),
      state.Stands known definite layout →
      statement.Scoped layout →
      known.functions.Resolve statement.calls →
      (Evaluation.exec fuel environment statement state).Sound definite
  execChoice :
    ∀ {known definite layout} environment branches (state : State),
      state.Stands known definite layout →
      Branch.ScopedAll layout branches →
      known.functions.Resolve (Branch.callsAll branches) →
      (Evaluation.execChoice fuel environment branches state).Sound definite
  execFor :
    ∀ {known definite layout} environment position key statements elements (state : State),
      state.Stands known definite layout →
      Stmt.ScopedAll ((layout.push "").define key false) statements →
      known.functions.Resolve (Stmt.callsAll statements) →
      (Evaluation.execFor fuel environment position key statements elements state).Sound definite
  execWhile :
    ∀ {known definite layout} environment position condition statements (state : State),
      state.Stands known definite layout →
      layout.Shows condition.reads →
      known.functions.Resolve condition.calls →
      Stmt.ScopedAll (layout.push "") statements →
      known.functions.Resolve (Stmt.callsAll statements) →
      (Evaluation.execWhile fuel environment position condition statements state).Sound definite

namespace Sound

section Resolve

variable {functions : Signatures} {first second : List CallSite}

/-- Calls in a row resolve if all of them do. -/
theorem resolve_append :
    functions.Resolve (first ++ second) ↔ functions.Resolve first ∧ functions.Resolve second := by
  simp [Signatures.Resolve, or_imp, forall_and]

end Resolve

variable {fuel : Nat} (smaller : Sound fuel) (environment : Environment)
variable {known : Declarations} {definite : Prop} {layout : Layout} {state : State}

include smaller

/-- More fuel by one, form by form: what is read is shown, and what is called resolves. -/
private theorem evalExpr_step
    (expression : Expr)
    (stands : state.Stands known definite layout)
    (shown : layout.Shows expression.reads)
    (resolved : known.functions.Resolve expression.calls) :
    (Evaluation.evalExpr (fuel + 1) environment expression state).Sound definite := by
  cases expression with
  | literal text value place =>
      exact .ok _ _
  | null place =>
      exact .ok _ _
  | name identifier =>
      exact sound_readVariable stands shown
  | paren inner place =>
      exact smaller.evalExpr environment inner state stands shown resolved
  | template parts place =>
      exact (smaller.evalAll environment parts state stands shown resolved).andThen
        fun _ _ _ => .ok _ _
  | list elements place =>
      exact (smaller.evalAll environment elements state stands shown resolved).andThen
        fun _ _ _ => .ok _ _
  | binary operator left right =>
      obtain ⟨leftShown, rightShown⟩ := Layout.shows_append.mp shown
      obtain ⟨leftResolved, rightResolved⟩ := resolve_append.mp resolved
      refine (smaller.evalExpr environment left state stands leftShown leftResolved).andThen
        fun first between leftEvaluated => ?_
      have standsBetween := stands.keeps (keeps_evalExpr leftEvaluated)
      refine (smaller.evalExpr environment right between standsBetween rightShown
        rightResolved).andThen fun second final _ => ?_
      exact sound_applyOperator ..
  | call function arguments =>
      obtain ⟨argumentsResolved, callResolved⟩ := resolve_append.mp resolved
      have here := callResolved _ (List.mem_singleton_self _)
      have isDefined := isSome_of_resolved stands.functions here
      have standsGlancing := stands.keeps state.keeps_glance
      simp only [Evaluation.evalExpr]
      split
      · exact sound_interruption ..
      · split
        · next missing =>
            simp [missing] at isDefined
        · next callee found =>
            refine (smaller.evalAll environment arguments _ standsGlancing shown
              argumentsResolved).andThen fun values between evaluated => ?_
            have standsBetween := standsGlancing.keeps (keeps_evalAll evaluated)
            rw [← length_of_evalAll evaluated] at here
            exact smaller.callFunction environment _ callee values between standsBetween
              (callable_of_resolved stands.functions here found)

/-- Expressions in a row, the rest in the state that the first one left. -/
private theorem evalAll_step
    (expressions : List Expr)
    (stands : state.Stands known definite layout)
    (shown : layout.Shows (Expr.readsAll expressions))
    (resolved : known.functions.Resolve (Expr.callsAll expressions)) :
    (Evaluation.evalAll (fuel + 1) environment expressions state).Sound definite := by
  cases expressions with
  | nil =>
      exact .ok _ _
  | cons first rest =>
      obtain ⟨firstShown, restShown⟩ := Layout.shows_append.mp shown
      obtain ⟨firstResolved, restResolved⟩ := resolve_append.mp resolved
      refine (smaller.evalExpr environment first state stands firstShown firstResolved).andThen
        fun value between firstEvaluated => ?_
      have standsBetween := stands.keeps (keeps_evalExpr firstEvaluated)
      exact (smaller.evalAll environment rest between standsBetween restShown
        restResolved).andThen fun _ _ _ => .ok _ _

/-- A condition is refused for the kind of its value only. -/
private theorem evalCondition_step
    (expression : Expr)
    (stands : state.Stands known definite layout)
    (shown : layout.Shows expression.reads)
    (resolved : known.functions.Resolve expression.calls) :
    (Evaluation.evalCondition (fuel + 1) environment expression state).Sound definite := by
  refine (smaller.evalExpr environment expression state stands shown resolved).andThen
    fun value between _ => ?_
  split
  · exact .ok _ _
  · exact .failedAt _ _ rfl fun _ => rfl

/-- A call of a function that takes so many arguments: its body stands by its own layout. -/
private theorem callFunction_step
    (position : Position)
    (function : Function)
    (arguments : List Value)
    (stands : state.Stands known definite layout)
    (callable : Callable known arguments function) :
    (Evaluation.callFunction (fuel + 1) environment position function arguments state).Sound
      definite := by
  cases function with
  | user callee =>
      obtain ⟨⟨visible, isVisible, bodyScoped, bodyResolved⟩, sameLength⟩ := callable
      simp only [Evaluation.callFunction, sameLength, ne_eq, not_true_eq_false, ↓reduceIte]
      split
      · exact .failedAt _ _ rfl fun _ => rfl
      · have bodySound := smaller.execAll environment callee.declaration.body.statements
          (state.enterCall callee arguments) (stands.enterCall sameLength isVisible)
          (by simp [Layout.ofParameters_eq])
          (Block.scoped_iff.mp bodyScoped) (Block.calls_eq _ ▸ bodyResolved)
        exact (sound_callResult bodySound position callee.name).afterwards _
  | builtin callee =>
      simp only [Evaluation.callFunction]
      split
      · next fault isFault =>
          exact sound_argumentFault isFault position state
      · cases callee with
        | host inner =>
            exact sound_hostCall ..
        | standard inner =>
            exact (sound_callStandard ..).afterwards _

/-- Statements in a row, the rest with what the first one declared. -/
private theorem execAll_step
    (statements : List Stmt)
    (stands : state.Stands known definite layout)
    (opened : layout.inner ≠ [])
    (obeys : Stmt.ScopedAll layout statements)
    (resolved : known.functions.Resolve (Stmt.callsAll statements)) :
    (Evaluation.execAll (fuel + 1) environment statements state).Sound definite := by
  cases statements with
  | nil =>
      exact .ok _ _
  | cons first rest =>
      obtain ⟨firstScoped, restScoped⟩ := obeys
      obtain ⟨firstResolved, restResolved⟩ := resolve_append.mp resolved
      refine (smaller.exec environment first state stands firstScoped firstResolved).andThen
        fun signal between executed => ?_
      have follows := ((preserves fuel).exec environment first state).of_eq_ok executed
      have standsBetween := stands.follows follows fun closed => (opened closed).elim
      cases signal with
      | normal =>
          exact smaller.execAll environment rest between standsBetween
            (Layout.inner_declare_ne_nil opened _) restScoped restResolved
      | _ =>
          exact .ok _ _

/-- A statement that obeys the rules of scope, form by form. -/
private theorem exec_step
    (statement : Stmt)
    (stands : state.Stands known definite layout)
    (obeys : statement.Scoped layout)
    (resolved : known.functions.Resolve statement.calls) :
    (Evaluation.exec (fuel + 1) environment statement state).Sound definite := by
  cases statement with
  | expr value =>
      exact (smaller.evalExpr environment value state stands obeys resolved).andThen
        fun _ _ _ => .ok _ _
  | declare mutable name value place =>
      exact (smaller.evalExpr environment value state stands obeys.1 resolved).andThen
        fun _ _ _ => .ok _ _
  | assign defines name value =>
      cases defines with
      | true =>
          exact (smaller.evalExpr environment value state stands obeys.1 resolved).andThen
            fun _ _ _ => .ok _ _
      | false =>
          refine (smaller.evalExpr environment value state stands obeys.1 resolved).andThen
            fun result between evaluated => ?_
          exact sound_writeVariable (stands.keeps (keeps_evalExpr evaluated)) obeys.2 result
  | choice branches place =>
      exact smaller.execChoice environment branches state stands obeys resolved
  | forEach key bound body place =>
      obtain ⟨boundShown, bodyScoped⟩ := obeys
      obtain ⟨boundResolved, bodyResolved⟩ := resolve_append.mp resolved
      refine (smaller.evalExpr environment bound state stands boundShown boundResolved).andThen
        fun value between evaluated => ?_
      refine (sound_loopElements bound.position value between).andThen
        fun elements final listed => ?_
      have sameState : final = between := by
        have stateEq := state_loopElements bound.position value between
        rwa [listed] at stateEq
      subst sameState
      exact smaller.execFor environment place key.text body.statements elements final
        (stands.keeps (keeps_evalExpr evaluated)) (Block.scoped_iff.mp bodyScoped)
        (Block.calls_eq body ▸ bodyResolved)
  | whileLoop condition body place =>
      obtain ⟨conditionShown, bodyScoped⟩ := obeys
      obtain ⟨conditionResolved, bodyResolved⟩ := resolve_append.mp resolved
      exact smaller.execWhile environment place condition body.statements state stands
        conditionShown conditionResolved (Block.scoped_iff.mp bodyScoped)
        (Block.calls_eq body ▸ bodyResolved)
  | «return» value place =>
      cases value with
      | none =>
          exact .ok _ _
      | some result =>
          exact (smaller.evalExpr environment result state stands obeys resolved).andThen
            fun _ _ _ => .ok _ _
  | control kind place =>
      cases kind <;> exact .ok _ _

/-- The body that is chosen stands by the layout of a frame of its own. -/
private theorem execChoice_step
    (branches : List Branch)
    (stands : state.Stands known definite layout)
    (obeys : Branch.ScopedAll layout branches)
    (resolved : known.functions.Resolve (Branch.callsAll branches)) :
    (Evaluation.execChoice (fuel + 1) environment branches state).Sound definite := by
  cases branches with
  | nil =>
      exact .ok _ _
  | cons first rest =>
      rcases first with ⟨condition, body, place⟩
      obtain ⟨⟨conditionShown, bodyScoped⟩, restScoped⟩ := obeys
      obtain ⟨firstResolved, restResolved⟩ := resolve_append.mp resolved
      obtain ⟨conditionResolved, bodyResolved⟩ := resolve_append.mp firstResolved
      refine (smaller.evalCondition environment condition state stands conditionShown
        conditionResolved).andThen fun holds between evaluated => ?_
      have standsBetween := stands.keeps (keeps_evalCondition evaluated)
      cases holds with
      | true =>
          exact (smaller.execAll environment body.statements _ (standsBetween.enter "if")
            (by simp [ScopeChain.push]) (Block.scoped_iff.mp bodyScoped)
            (Block.calls_eq body ▸ bodyResolved)).afterwards _
      | false =>
          exact smaller.execChoice environment rest between standsBetween restScoped restResolved

/-- Every round of a loop stands by a frame with its key. -/
private theorem execFor_step
    (position : Position)
    (key : String)
    (statements : List Stmt)
    (elements : Elements)
    (stands : state.Stands known definite layout)
    (obeys : Stmt.ScopedAll ((layout.push "").define key false) statements)
    (resolved : known.functions.Resolve (Stmt.callsAll statements)) :
    (Evaluation.execFor (fuel + 1) environment position key statements elements state).Sound
      definite := by
  simp only [Evaluation.execFor]
  split
  · exact .ok _ _
  · next element rest _ =>
      split
      · exact sound_interruption ..
      · have standsInside := ((stands.keeps state.keeps_glance).enter "for loop").define
          (by simp [ScopeChain.push]) key element false
        have bodySound := smaller.execAll environment statements _ standsInside
          (by simp [ScopeChain.push, ScopeChain.define]) obeys resolved
        refine (bodySound.afterwards _).andThen fun signal between executed => ?_
        have follows : state.Follows none between :=
          follows_body executed
            (by simp [State.enter, State.define, ScopeChain.push, ScopeChain.define])
            rfl rfl rfl
        cases signal with
        | returned value =>
            exact .ok _ _
        | broke =>
            exact .ok _ _
        | _ =>
            exact smaller.execFor environment position key statements rest between
              (stands.follows_nothing follows) obeys resolved

/-- Every round of a loop stands by a frame of its own. -/
private theorem execWhile_step
    (position : Position)
    (condition : Expr)
    (statements : List Stmt)
    (stands : state.Stands known definite layout)
    (conditionShown : layout.Shows condition.reads)
    (conditionResolved : known.functions.Resolve condition.calls)
    (obeys : Stmt.ScopedAll (layout.push "") statements)
    (resolved : known.functions.Resolve (Stmt.callsAll statements)) :
    (Evaluation.execWhile (fuel + 1) environment position condition statements state).Sound
      definite := by
  have standsGlancing := stands.keeps state.keeps_glance
  simp only [Evaluation.execWhile]
  split
  · exact sound_interruption ..
  · refine (smaller.evalCondition environment condition _ standsGlancing conditionShown
      conditionResolved).andThen fun holds between evaluated => ?_
    have standsBetween := standsGlancing.keeps (keeps_evalCondition evaluated)
    cases holds with
    | false =>
        exact .ok _ _
    | true =>
        have bodySound := smaller.execAll environment statements _
          (standsBetween.enter "while loop") (by simp [ScopeChain.push]) obeys resolved
        refine (bodySound.afterwards _).andThen fun signal final executed => ?_
        have follows : between.Follows none final :=
          follows_body executed (by simp [State.enter, ScopeChain.push]) rfl rfl rfl
        cases signal with
        | returned value =>
            exact .ok _ _
        | broke =>
            exact .ok _ _
        | _ =>
            exact smaller.execWhile environment position condition statements final
              (standsBetween.follows_nothing follows) conditionShown conditionResolved obeys
              resolved

end Sound

/-- Checked trees fail soundly, with any amount of fuel. -/
theorem sound (fuel : Nat) : Sound fuel := by
  induction fuel with
  | zero =>
      constructor <;> intros <;>
        simp only [evalExpr, evalAll, evalCondition, callFunction, execAll, exec, execChoice,
          execFor, execWhile] <;>
        trivial
  | succ fuel smaller =>
      exact
        { evalExpr := fun environment expression _ => smaller.evalExpr_step environment expression
          evalAll := fun environment expressions _ => smaller.evalAll_step environment expressions
          evalCondition := fun environment expression _ =>
            smaller.evalCondition_step environment expression
          callFunction := fun environment position function arguments _ =>
            smaller.callFunction_step environment position function arguments
          execAll := fun environment statements _ => smaller.execAll_step environment statements
          exec := fun environment statement _ => smaller.exec_step environment statement
          execChoice := fun environment branches _ =>
            smaller.execChoice_step environment branches
          execFor := fun environment position key statements elements _ =>
            smaller.execFor_step environment position key statements elements
          execWhile := fun environment position condition statements _ =>
            smaller.execWhile_step environment position condition statements }

end Evaluation

end Scripting
