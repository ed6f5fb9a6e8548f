import Scripting.Proofs.Evaluation.History
import Scripting.Proofs.Likeness

namespace Scripting

/-!
# Alike code in larger surroundings

Code that is equal up to positions does the same where more functions are defined and more global
variables are bound, as long as it succeeds where there are fewer.
-/

/-- What a larger surrounding has: variables besides those of the smaller one, and what was printed
before. -/
structure Surroundings where
  bindings : Frame Variable
  printed : Array String

/-- A state and one in larger surroundings, in which functions are equal up to positions. -/
structure State.Mirrors (around : Surroundings) (state mirror : State) : Prop where
  inner : mirror.scopes.inner = state.scopes.inner
  comment : mirror.scopes.outer.comment = state.scopes.outer.comment
  outer :
    ∀ name,
      mirror.scopes.outer.find? name =
        (state.scopes.outer.find? name).or (around.bindings.find? name)
  functions :
    ∀ (name : String) function, state.functions[name]? = some function →
      ∃ other, mirror.functions[name]? = some other ∧ function.Alike other
  depth : mirror.depth = state.depth
  output : mirror.output = around.printed ++ state.output
  hostCalls : mirror.hostCalls = state.hostCalls

namespace State.Mirrors

variable {around : Surroundings} {state mirror : State}

/-- What is found in a state is found in larger surroundings. -/
theorem find?_eq_some
    (mirrors : state.Mirrors around mirror)
    {name : String}
    {entry : Variable}
    (found : state.scopes.find? name = some entry) :
    mirror.scopes.find? name = some entry := by
  rw [ScopeChain.find?_eq] at found ⊢
  rw [mirrors.inner, mirrors.outer]
  cases inside : state.scopes.inner.findSome? fun frame => frame.find? name with
  | some other =>
      simpa [inside] using found
  | none =>
      simp only [inside, Option.none_or] at found ⊢
      simp [found]

/-- States that bind the same name in the same way stay mirrors. -/
theorem define
    (mirrors : state.Mirrors around mirror)
    (name : String)
    (value : Value)
    (mutable : Bool) :
    (state.define name value mutable).Mirrors around (mirror.define name value mutable) := by
  have sameInner : mirror.scopes.inner = state.scopes.inner := mirrors.inner
  rcases shape : state.scopes.inner with _ | ⟨frame, rest⟩
  · have mirrorShape : mirror.scopes.inner = [] := sameInner.trans shape
    have stateEq := ScopeChain.define_of_inner_nil shape name (⟨value, mutable⟩ : Variable)
    have mirrorEq := ScopeChain.define_of_inner_nil mirrorShape name (⟨value, mutable⟩ : Variable)
    exact
      { inner := by simp [State.define, stateEq, mirrorEq]
        comment := by simpa [State.define, stateEq, mirrorEq, Frame.define] using mirrors.comment
        outer := by
          intro other
          simp only [State.define, stateEq, mirrorEq, Frame.find?_define]
          split
          · simp
          · exact mirrors.outer other
        functions := mirrors.functions
        depth := mirrors.depth
        output := mirrors.output
        hostCalls := mirrors.hostCalls }
  · have stateOpened : state.scopes.inner ≠ [] := by simp [shape]
    have mirrorOpened : mirror.scopes.inner ≠ [] := by simp [sameInner, shape]
    have stateOuter := ScopeChain.outer_define stateOpened name (⟨value, mutable⟩ : Variable)
    have mirrorOuter := ScopeChain.outer_define mirrorOpened name (⟨value, mutable⟩ : Variable)
    exact
      { inner := ScopeChain.inner_define_congr sameInner name ⟨value, mutable⟩
        comment := by simpa [State.define, stateOuter, mirrorOuter] using mirrors.comment
        outer := by
          intro other
          simp only [State.define, stateOuter, mirrorOuter]
          exact mirrors.outer other
        functions := mirrors.functions
        depth := mirrors.depth
        output := mirrors.output
        hostCalls := mirrors.hostCalls }

/-- A variable is assigned in the same frame. -/
theorem replace
    (mirrors : state.Mirrors around mirror)
    (name : String)
    (replacement : Variable) :
    State.Mirrors around
      { state with scopes := state.scopes.replace name replacement }
      { mirror with scopes := mirror.scopes.replace name replacement } := by
  cases inside : ScopeChain.replaceIn? name replacement state.scopes.inner with
  | some changed =>
      exact
        { inner := by simp [ScopeChain.replace, mirrors.inner, inside]
          comment := by simpa [ScopeChain.replace, mirrors.inner, inside] using mirrors.comment
          outer := by
            intro other
            simpa [ScopeChain.replace, mirrors.inner, inside] using mirrors.outer other
          functions := mirrors.functions
          depth := mirrors.depth
          output := mirrors.output
          hostCalls := mirrors.hostCalls }
  | none =>
      exact
        { inner := by simp [ScopeChain.replace, mirrors.inner, inside]
          comment := by
            simpa [ScopeChain.replace, mirrors.inner, inside, Frame.define] using mirrors.comment
          outer := by
            intro other
            simp only [ScopeChain.replace, mirrors.inner, inside, Frame.find?_define]
            split
            · simp
            · exact mirrors.outer other
          functions := mirrors.functions
          depth := mirrors.depth
          output := mirrors.output
          hostCalls := mirrors.hostCalls }

/-- Mirroring states may log different records. -/
theorem note
    (mirrors : state.Mirrors around mirror)
    (records others : List LogRecord) :
    (state.note records).Mirrors around (mirror.note others) :=
  { mirrors with }

/-- Printing the same line on both sides keeps them mirrored. -/
theorem print
    (mirrors : state.Mirrors around mirror)
    (line : String) :
    (state.print line).Mirrors around (mirror.print line) :=
  { mirrors with
    output := by
      simp [State.print, mirrors.output] }

/-- A look at the context counts on both sides. -/
theorem glance (mirrors : state.Mirrors around mirror) :
    state.glance.Mirrors around mirror.glance :=
  { mirrors with }

/-- A call of the host counts on both sides. -/
theorem callHost (mirrors : state.Mirrors around mirror) :
    state.callHost.Mirrors around mirror.callHost :=
  { mirrors with
    hostCalls := congrArg (· + 1) mirrors.hostCalls }

/-- What a function of the host comes to does not depend on the surroundings. -/
theorem resultIn_eq
    (mirrors : state.Mirrors around mirror)
    (function : HostFunction)
    (arguments : List Value) :
    function.resultIn arguments mirror = function.resultIn arguments state := by
  simp only [HostFunction.resultIn, mirrors.hostCalls]

/-- Opening a frame on both sides keeps them mirrored. -/
theorem enter
    (mirrors : state.Mirrors around mirror)
    (comment : String) :
    (state.enter comment).Mirrors around (mirror.enter comment) :=
  { mirrors with
    inner := by
      simp [State.enter, ScopeChain.push, mirrors.inner] }

/-- Leaving a frame on both sides keeps them mirrored. -/
theorem leave
    (mirrors : state.Mirrors around mirror) :
    state.leave.Mirrors around mirror.leave :=
  { mirrors with
    inner := by
      simp [State.leave, ScopeChain.pop, mirrors.inner] }

/-- Calls of alike functions bind the same arguments. -/
theorem enterCall
    (mirrors : state.Mirrors around mirror)
    {function other : UserFunction}
    (alike : function.declaration.Alike other.declaration)
    (arguments : List Value) :
    (state.enterCall function arguments).Mirrors around (mirror.enterCall other arguments) := by
  have sameName : other.name = function.name := alike.name
  have sameParameters : other.parameters = function.parameters := alike.parameters
  exact
    { inner := by
        rw [Evaluation.scopes_enterCall, Evaluation.scopes_enterCall, sameName, sameParameters]
      comment := by
        rw [Evaluation.scopes_enterCall, Evaluation.scopes_enterCall]
        exact mirrors.comment
      outer := by
        rw [Evaluation.scopes_enterCall, Evaluation.scopes_enterCall]
        exact mirrors.outer
      functions := mirrors.functions
      depth := by
        simp [State.enterCall, mirrors.depth]
      output := mirrors.output
      hostCalls := mirrors.hostCalls }

/-- Going back to mirrored callers from mirrored calls. -/
theorem leaveCall
    {final finalMirror : State}
    (mirrors : state.Mirrors around mirror)
    (finalMirrors : final.Mirrors around finalMirror) :
    (state.leaveCall final).Mirrors around (mirror.leaveCall finalMirror) :=
  { finalMirrors with
    inner := mirrors.inner
    depth := by
      simp [State.leaveCall, finalMirrors.depth] }

end State.Mirrors

/-- Two environments in which nothing is cancelled, and that differ at most in their clocks. -/
structure Environment.Mirrors (first second : Environment) : Prop where
  options : second.options = first.options
  logger : second.logger = first.logger
  neverFirst : first.cancellation = .never
  neverSecond : second.cancellation = .never

namespace Environment.Mirrors

variable {first second : Environment}

/-- Scripts that are started in such environments are in such environments. -/
theorem within
    (mirrors : first.Mirrors second)
    (options : Options)
    (logger : Option Logger) :
    { first with options, logger }.Mirrors { second with options, logger } :=
  ⟨rfl, rfl, mirrors.neverFirst, mirrors.neverSecond⟩

theorem cancelled_first (mirrors : first.Mirrors second) (state : State) :
    first.cancelled state = false := by
  simp only [cancelled, mirrors.neverFirst, Cancellation.never]

theorem cancelled_second (mirrors : first.Mirrors second) (state : State) :
    second.cancelled state = false := by
  simp only [cancelled, mirrors.neverSecond, Cancellation.never]

/-- What happened before makes no difference, if the host was called equally often. -/
theorem echoes
    (mirrors : first.Mirrors second)
    {start : Start}
    (sameCalls : start.second.hostCalls = start.first.hostCalls) :
    first.Echoes start second where
  options := mirrors.options
  logger := mirrors.logger
  reason := by rw [mirrors.neverFirst, mirrors.neverSecond]
  cancelled := fun {state echo} _ => by
    rw [mirrors.cancelled_first state, mirrors.cancelled_second echo]
  hosts := fun function _ => function.answersAlike_of_eq sameCalls

end Environment.Mirrors

/-- How alike code goes in larger surroundings, if it succeeds in the smaller ones. -/
abbrev Outcome.Mirrors {Result : Type} (around : Surroundings) (state : State)
    (outcome : Outcome Result) (elsewhere : State → Outcome Result) : Prop :=
  outcome.Simulated (State.Mirrors around) .results state elsewhere

/-- Outcomes that mirror each other still do when their frames are left. -/
theorem Outcome.mirrors_leave
    {Result : Type}
    {around : Surroundings}
    {state : State}
    {outcome : Outcome Result}
    {elsewhere : State → Outcome Result}
    (mirrors : outcome.Mirrors around state elsewhere) :
    (outcome.afterwards State.leave).Mirrors around state fun mirror =>
      (elsewhere mirror).afterwards State.leave :=
  mirrors.afterwards (fun _ => State.leave) (fun _ => rfl) fun _ => State.Mirrors.leave

namespace Evaluation

section Steps

variable {around : Surroundings} {state : State}

/-- A variable has one value in mirrored states, wherever its name stands. -/
theorem mirrors_readVariable (text : String) (place otherPlace : Position) :
    (readVariable ⟨text, place⟩ state).Mirrors around state
      (readVariable ⟨text, otherPlace⟩) := by
  unfold readVariable
  split
  · next entry found =>
      refine (Outcome.Simulated.done entry.value).congr fun mirrors => ?_
      have foundThere := mirrors.find?_eq_some found
      simp [foundThere]
  · exact .ofFailure _ rfl _

/-- A variable is given a value on both sides, or refused alike. -/
theorem mirrors_writeVariable
    (text : String)
    (place otherPlace : Position)
    (value : Value) :
    (writeVariable ⟨text, place⟩ value state).Mirrors around state
      (writeVariable ⟨text, otherPlace⟩ value) := by
  unfold writeVariable assignVariable
  cases found : state.scopes.find? text with
  | none =>
      exact .ofFailure _ rfl _
  | some entry =>
      cases isMutable : entry.mutable with
      | false =>
          simp only [isMutable]
          exact .ofFailure _ rfl _
      | true =>
          have changes :
              (Outcome.ok Signal.normal
                { state with scopes := state.scopes.replace text ⟨value, true⟩ }).Mirrors around
                state fun mirror =>
                  .ok .normal
                    { mirror with scopes := mirror.scopes.replace text ⟨value, true⟩ } :=
            .ok _ rfl fun mirrors => mirrors.replace text ⟨value, true⟩
          simp only [isMutable]
          refine changes.congr fun mirrors => ?_
          have foundThere := mirrors.find?_eq_some found
          simp [foundThere, isMutable]

/-- An operator has one result for the same operands, or one error at two places. -/
theorem mirrors_applyOperator
    (operator : Operator)
    (place otherPlace : Position)
    (left right : Value) :
    (applyOperator operator place left right state).Mirrors around state
      (applyOperator operator otherPlace left right) := by
  unfold applyOperator
  split
  · exact .done _
  · exact .ofFailure _ rfl _

/-- The same bound has the same elements, or is refused alike. -/
theorem mirrors_loopElements (place otherPlace : Position) (bound : Value) :
    (loopElements place bound state).Mirrors around state (loopElements otherPlace bound) := by
  unfold loopElements
  split
  · exact .ofFailure _ rfl _
  · split
    · exact .done _
    · exact .ofFailure _ rfl _

/-- A value has one length, or is refused alike. -/
theorem mirrors_lengthCall (place otherPlace : Position) (argument : Value) :
    (lengthCall place argument state).Mirrors around state (lengthCall otherPlace argument) := by
  unfold lengthCall
  split
  · exact .done _
  · exact .ofFailure _ rfl _

/-- A host that has been called as often answers the same call in the same way. -/
theorem mirrors_hostCall
    (function : HostFunction)
    (took : List LogRecord)
    (place otherPlace : Position)
    (arguments : List Value) :
    (function.call took place arguments state).Mirrors around state
      (function.call took otherPlace arguments) := by
  have called : (function.call took place arguments state).Mirrors around state fun mirror =>
      (function.resultIn arguments state).outcome function.name took otherPlace
        mirror.callHost := by
    unfold HostFunction.call
    cases function.resultIn arguments state with
    | value result =>
        exact .ok _ rfl fun mirrors => mirrors.callHost.note took took
    | failure message =>
        exact .ofFailure _ (by rfl) _
    | fault message =>
        exact .ofFailure _ (by rfl) _
    | crash message =>
        exact .ofFailure _ (by rfl) _
  refine called.congr fun mirrors => ?_
  simp only [HostFunction.call, mirrors.resultIn_eq]

/-- What becomes of the end of a call is the same but for the place of an error. -/
theorem mirrors_callResult
    {outcome : Outcome Signal}
    {elsewhere : State → Outcome Signal}
    (mirrors : outcome.Mirrors around state elsewhere)
    (place otherPlace : Position)
    (name : String) :
    (callResult place name outcome).Mirrors around state fun mirror =>
      callResult otherPlace name (elsewhere mirror) := by
  refine ⟨state_callResult place name outcome ▸ mirrors.looks, ?_⟩
  intro mirror stateMirrors looksEq counted
  rw [state_callResult] at looksEq
  rcases outcome with ⟨signal, final⟩ | ⟨failure, final⟩
  · have agrees := mirrors.agrees stateMirrors looksEq rfl
    revert agrees
    generalize elsewhere mirror = ending
    rintro ⟨finalMirrors⟩
    cases signal <;> exact .ok finalMirrors
  · cases failure with
    | error error =>
        simp only [callResult] at counted
        split at counted <;> cases counted
    | _ =>
        cases counted

/-- A call mirrors if the body of the function does. -/
theorem mirrors_call
    {outcome : Outcome Signal}
    {elsewhere : State → Outcome Signal}
    {function other : UserFunction}
    {arguments : List Value}
    (alike : function.declaration.Alike other.declaration)
    (mirrors : outcome.Mirrors around (state.enterCall function arguments) elsewhere)
    (place otherPlace : Position) :
    ((callResult place function.name outcome).afterwards state.leaveCall).Mirrors around state
      fun mirror =>
        (callResult otherPlace other.name
          (elsewhere (mirror.enterCall other arguments))).afterwards mirror.leaveCall := by
  have sameName : other.name = function.name := alike.name
  have body : outcome.Mirrors around state fun mirror =>
      elsewhere (mirror.enterCall other arguments) :=
    mirrors.inside rfl fun stateMirrors => stateMirrors.enterCall alike arguments
  rw [sameName]
  exact (mirrors_callResult body place otherPlace function.name).afterwards State.leaveCall
    (fun _ => rfl) fun stateMirrors finalMirrors => stateMirrors.leaveCall finalMirrors

variable {first second : Environment} {fuel larger : Nat}

/-- The run of a script in a session of its own depends on what was printed before only in that it
prints more. -/
theorem mirrors_scriptResult
    (environments : first.Mirrors second)
    (enough : fuel ≤ larger)
    (script : Script)
    (session : Session)
    (records : List LogRecord)
    (options : Options)
    (logger : Option Logger) :
    (scriptResult state
      (runFile fuel { first with options, logger } script
        (state.enterScript session records))).Mirrors around state fun mirror =>
      scriptResult mirror
        (runFile larger { second with options, logger } script
          (mirror.enterScript session records)) := by
  have sessions := environments.within options logger
  have sameHistory : Environment.Echoes ⟨state, state⟩ { first with options, logger }
      { second with options, logger } := sessions.echoes rfl
  have looks := ((echoes enough).runFile sameHistory script
    (state.enterScript session records)).looks
  refine ⟨?_, ?_⟩
  · revert looks
    generalize runFile fuel _ script _ = outcome
    rcases outcome with ⟨_, final⟩ | ⟨error | message | _, final⟩ <;> exact id
  · intro mirror mirrors looksEq counted
    have started : (state.enterScript session records).Echoes ⟨state, mirror⟩
        (mirror.enterScript session records) :=
      { scopes := rfl
        functions := rfl
        depth := rfl
        since := .refl state mirror
        hosts := fun _ function _ => function.answersAlike_of_eq mirrors.hostCalls }
    have agrees := ((echoes enough).runFile (sessions.echoes mirrors.hostCalls) script
      (state.enterScript session records)).agrees started
    revert looksEq counted agrees
    generalize runFile fuel _ script _ = outcome
    generalize runFile larger _ script _ = ending
    intro looksEq counted agrees
    have left : ∀ {final finalMirror : State},
        final.Echoes ⟨state, mirror⟩ finalMirror →
        (state.leaveScript final).Mirrors around (mirror.leaveScript finalMirror) := by
      intro final finalMirror finalEchoes
      obtain ⟨⟨printed, finalEq, mirrorEq⟩, -, calls, callsEq, callsThere⟩ := finalEchoes.since
      exact
        { mirrors with
          output := by
            simp [State.leaveScript, finalEq, mirrorEq, mirrors.output, Array.append_assoc]
          hostCalls := by
            simp only [State.leaveScript, callsEq, callsThere, mirrors.hostCalls] }
    rcases outcome with ⟨_, final⟩ | ⟨error | message | _, final⟩
    · cases agrees looksEq rfl with
      | ok finalEchoes =>
          exact .ok (left finalEchoes)
    · cases agrees looksEq rfl with
      | fail finalEchoes =>
          exact .ok (left finalEchoes)
    · cases counted
    · cases counted

/-- A script that a script runs sees nothing of what is around it. -/
theorem mirrors_runScript
    (environments : first.Mirrors second)
    (enough : fuel ≤ larger)
    (place otherPlace : Position)
    (text : String) :
    (runScript fuel first place text state).Mirrors around state
      (runScript larger second otherPlace text) := by
  cases fuel with
  | zero =>
      exact .outOfFuel (by decide) _
  | succ fuel =>
      obtain ⟨larger, rfl⟩ : ∃ fewer, larger = fewer + 1 := ⟨larger - 1, by omega⟩
      have enoughInside : fuel ≤ larger := Nat.le_of_succ_le_succ enough
      simp only [runScript, environments.options, environments.logger]
      split
      · exact .ofFailure _ rfl _
      · split
        · exact .ok _ rfl fun mirrors => mirrors.note _ _
        · next records script session _ =>
            exact mirrors_scriptResult environments enoughInside script session records _ _

/-- A standard function is mirrored at any place, by the cases of the functions. -/
theorem mirrors_callStandard
    (environments : first.Mirrors second)
    (enough : fuel ≤ larger)
    (place otherPlace : Position)
    (function : Standard)
    (arguments : List Value) :
    (callStandard fuel first place function arguments state).Mirrors around state
      (callStandard larger second otherPlace function arguments) := by
  cases fuel with
  | zero =>
      exact .outOfFuel (by decide) _
  | succ fuel =>
      obtain ⟨larger, rfl⟩ : ∃ fewer, larger = fewer + 1 := ⟨larger - 1, by omega⟩
      cases function with
      | print =>
          exact .ok _ rfl fun mirrors => mirrors.print _
      | typeOf =>
          exact .done _
      | length =>
          exact mirrors_lengthCall ..
      | runScript =>
          exact mirrors_runScript environments (Nat.le_of_succ_le_succ enough) ..
      | nanoTime =>
          exact ⟨Nat.le_succ _, fun _ looksEq _ => (Nat.succ_ne_self _ looksEq).elim⟩
      | currentMillis =>
          exact ⟨Nat.le_succ _, fun _ looksEq _ => (Nat.succ_ne_self _ looksEq).elim⟩

end Steps

/-- How code with an amount of fuel goes as alike code with a larger one in larger
surroundings. -/
structure Mirrors (first second : Environment) (around : Surroundings) (fuel larger : Nat) :
    Prop where
  evalExpr :
    ∀ {expression other}, Expr.Alike expression other → ∀ state,
      (Evaluation.evalExpr fuel first expression state).Mirrors around state
        (Evaluation.evalExpr larger second other)
  evalAll :
    ∀ {expressions others}, Expr.AllAlike expressions others → ∀ state,
      (Evaluation.evalAll fuel first expressions state).Mirrors around state
        (Evaluation.evalAll larger second others)
  evalCondition :
    ∀ {expression other}, Expr.Alike expression other → ∀ state,
      (Evaluation.evalCondition fuel first expression state).Mirrors around state
        (Evaluation.evalCondition larger second other)
  callFunction :
    ∀ {function other}, Function.Alike function other →
      ∀ place otherPlace arguments state,
        (Evaluation.callFunction fuel first place function arguments state).Mirrors around state
          (Evaluation.callFunction larger second otherPlace other arguments)
  execAll :
    ∀ {statements others}, Stmt.AllAlike statements others → ∀ state,
      (Evaluation.execAll fuel first statements state).Mirrors around state
        (Evaluation.execAll larger second others)
  exec :
    ∀ {statement other}, Stmt.Alike statement other → ∀ state,
      (Evaluation.exec fuel first statement state).Mirrors around state
        (Evaluation.exec larger second other)
  execChoice :
    ∀ {branches others}, Branch.AllAlike branches others → ∀ state,
      (Evaluation.execChoice fuel first branches state).Mirrors around state
        (Evaluation.execChoice larger second others)
  execFor :
    ∀ {statements others}, Stmt.AllAlike statements others →
      ∀ place otherPlace key elements state,
        (Evaluation.execFor fuel first place key statements elements state).Mirrors around state
          (Evaluation.execFor larger second otherPlace key others elements)
  execWhile :
    ∀ {condition otherCondition statements others}, Expr.Alike condition otherCondition →
      Stmt.AllAlike statements others →
      ∀ place otherPlace state,
        (Evaluation.execWhile fuel first place condition statements state).Mirrors around state
          (Evaluation.execWhile larger second otherPlace otherCondition others)

namespace Mirrors

variable {first second : Environment} {around : Surroundings} {fuel larger : Nat}
variable (smaller : Mirrors first second around fuel larger)
variable (environments : first.Mirrors second) (state : State)

include smaller environments

/-- More fuel by one mirrors like expressions, form by form. -/
private theorem evalExpr_step
    {expression other : Expr}
    (alike : expression.Alike other) :
    (Evaluation.evalExpr (fuel + 1) first expression state).Mirrors around state
      (fun mirror => Evaluation.evalExpr (larger + 1) second other mirror) := by
  cases alike with
  | literal =>
      exact .done _
  | null =>
      exact .done _
  | name =>
      exact mirrors_readVariable ..
  | paren inner =>
      exact smaller.evalExpr inner state
  | template parts =>
      exact (smaller.evalAll parts state).andThen fun _ _ => .done _
  | list elements =>
      exact (smaller.evalAll elements state).andThen fun _ _ => .done _
  | binary left right =>
      refine (smaller.evalExpr left state).andThen fun leftValue between => ?_
      refine (smaller.evalExpr right between).andThen fun rightValue final => ?_
      exact mirrors_applyOperator ..
  | @call arguments others text place otherPlace argumentsAlike =>
      simp only [Evaluation.evalExpr, environments.cancelled_first,
        environments.cancelled_second, Bool.false_eq_true, if_false]
      split
      · exact .ofFailure _ (by rfl) _
      · next callee found =>
          have evaluated : (Evaluation.evalAll fuel first arguments state.glance).Mirrors around
              state fun mirror => Evaluation.evalAll larger second others mirror.glance :=
            (smaller.evalAll argumentsAlike state.glance).inside rfl State.Mirrors.glance
          -- Which function is called elsewhere depends on the surroundings.
          have called := fun (otherCallee : Function) (alike : callee.Alike otherCallee) =>
            evaluated.andThen fun values between =>
              smaller.callFunction alike place otherPlace values between
          refine ⟨(called callee (.refl callee)).looks, ?_⟩
          intro mirror mirrors looksEq counted
          obtain ⟨otherCallee, foundThere, calleeAlike⟩ := mirrors.functions _ _ found
          simp only [foundThere]
          exact (called otherCallee calleeAlike).agrees mirrors looksEq counted

omit environments in
/-- Expressions in a row are mirrored, the rest where the first one ended. -/
private theorem evalAll_step
    {expressions others : List Expr}
    (alike : Expr.AllAlike expressions others) :
    (Evaluation.evalAll (fuel + 1) first expressions state).Mirrors around state
      (fun mirror => Evaluation.evalAll (larger + 1) second others mirror) := by
  cases alike with
  | nil =>
      exact .done _
  | cons firstAlike restAlike =>
      refine (smaller.evalExpr firstAlike state).andThen fun value between => ?_
      exact (smaller.evalAll restAlike between).andThen fun _ _ => .done _

/-- Conditions are decided alike. -/
private theorem evalCondition_step
    {expression other : Expr}
    (alike : expression.Alike other) :
    (Evaluation.evalCondition (fuel + 1) first expression state).Mirrors around state
      (fun mirror => Evaluation.evalCondition (larger + 1) second other mirror) := by
  simp only [Evaluation.evalCondition, environments.options]
  refine (smaller.evalExpr alike state).andThen fun value between => ?_
  split
  · exact .done _
  · exact .ofFailure _ rfl _

/-- Like functions are called alike, at depths that are the same. -/
private theorem callFunction_step
    (enough : fuel ≤ larger)
    {function other : Function}
    (alike : function.Alike other)
    (place otherPlace : Position)
    (arguments : List Value) :
    (Evaluation.callFunction (fuel + 1) first place function arguments state).Mirrors around
      state
      (fun mirror =>
        Evaluation.callFunction (larger + 1) second otherPlace other arguments mirror) := by
  cases alike with
  | @user callee otherCallee calleeAlike =>
      have sameParameters : otherCallee.parameters = callee.parameters := calleeAlike.parameters
      simp only [Evaluation.callFunction, environments.options, sameParameters]
      split
      · exact .ofFailure _ rfl _
      · split
        · exact .ofFailure _ rfl _
        · next notTooDeep =>
            have body := smaller.execAll calleeAlike.body.statements
              (state.enterCall callee arguments)
            refine (mirrors_call calleeAlike body place otherPlace).congr
              fun stateMirrors => ?_
            rw [stateMirrors.depth, if_neg notTooDeep]
  | @builtin callee =>
      simp only [Evaluation.callFunction, environments.logger]
      split
      · exact .ofFailure _ rfl _
      · cases callee with
        | host inner =>
            exact mirrors_hostCall ..
        | standard inner =>
            exact (mirrors_callStandard environments enough place otherPlace inner
              arguments).afterwards (fun _ final => final.note _) (fun _ => rfl)
                fun _ finalMirrors => finalMirrors.note _ _

omit environments in
/-- Statements in a row are mirrored, the rest unless a signal came before. -/
private theorem execAll_step
    {statements others : List Stmt}
    (alike : Stmt.AllAlike statements others) :
    (Evaluation.execAll (fuel + 1) first statements state).Mirrors around state
      (fun mirror => Evaluation.execAll (larger + 1) second others mirror) := by
  cases alike with
  | nil =>
      exact .done _
  | cons firstAlike restAlike =>
      refine (smaller.exec firstAlike state).andThen fun signal between => ?_
      cases signal with
      | normal =>
          exact smaller.execAll restAlike between
      | _ =>
          exact .done _

omit environments in
/-- Like statements are mirrored, form by form. -/
private theorem exec_step
    {statement other : Stmt}
    (alike : statement.Alike other) :
    (Evaluation.exec (fuel + 1) first statement state).Mirrors around state
      (fun mirror => Evaluation.exec (larger + 1) second other mirror) := by
  cases alike with
  | expr value =>
      exact (smaller.evalExpr value state).andThen fun _ _ => .done _
  | declare value =>
      refine (smaller.evalExpr value state).andThen fun result between => ?_
      exact .ok _ rfl fun betweenMirrors => betweenMirrors.define _ result _
  | @assign _ _ defines _ _ _ value =>
      refine (smaller.evalExpr value state).andThen fun result between => ?_
      cases defines with
      | true =>
          exact .ok _ rfl fun betweenMirrors => betweenMirrors.define _ result true
      | false =>
          exact mirrors_writeVariable ..
  | choice branches =>
      exact smaller.execChoice branches state
  | forEach bound body =>
      refine (smaller.evalExpr bound state).andThen fun value between => ?_
      refine (mirrors_loopElements _ _ value).andThen fun elements final => ?_
      exact smaller.execFor body.statements _ _ _ elements final
  | whileLoop condition body =>
      exact smaller.execWhile condition body.statements _ _ state
  | returnNothing =>
      exact .done _
  | returnValue value =>
      exact (smaller.evalExpr value state).andThen fun _ _ => .done _
  | @control kind _ _ =>
      cases kind <;> exact .done _

omit environments in
/-- The same branch is chosen on both sides. -/
private theorem execChoice_step
    {branches others : List Branch}
    (alike : Branch.AllAlike branches others) :
    (Evaluation.execChoice (fuel + 1) first branches state).Mirrors around state
      (fun mirror => Evaluation.execChoice (larger + 1) second others mirror) := by
  cases alike with
  | nil =>
      exact .done _
  | cons firstAlike restAlike =>
      cases firstAlike with
      | @mk condition otherCondition body otherBody _ _ conditionAlike bodyAlike =>
          refine (smaller.evalCondition conditionAlike state).andThen fun holds between => ?_
          cases holds with
          | true =>
              have executed := smaller.execAll bodyAlike.statements (between.enter "if")
              exact Outcome.mirrors_leave
                (executed.inside rfl fun betweenMirrors => betweenMirrors.enter "if")
          | false =>
              exact smaller.execChoice restAlike between

/-- A loop over the same elements has mirrored rounds. -/
private theorem execFor_step
    {statements others : List Stmt}
    (alike : Stmt.AllAlike statements others)
    (place otherPlace : Position)
    (key : String)
    (elements : Elements) :
    (Evaluation.execFor (fuel + 1) first place key statements elements state).Mirrors around
      state
      (fun mirror =>
        Evaluation.execFor (larger + 1) second otherPlace key others elements mirror) := by
  simp only [Evaluation.execFor, environments.cancelled_first, environments.cancelled_second,
    Bool.false_eq_true, if_false]
  split
  · exact .done _
  · next element rest _ =>
      have body := smaller.execAll alike
        ((state.glance.enter "for loop").define key element false)
      have bodyLeft : ((Evaluation.execAll fuel first statements
          ((state.glance.enter "for loop").define key element false)).afterwards
            State.leave).Mirrors around state fun mirror =>
          (Evaluation.execAll larger second others
            ((mirror.glance.enter "for loop").define key element false)).afterwards
              State.leave :=
        Outcome.mirrors_leave (body.inside rfl fun stateMirrors =>
          (stateMirrors.glance.enter "for loop").define key element false)
      refine bodyLeft.andThen fun signal between => ?_
      cases signal with
      | returned value =>
          exact .done _
      | broke =>
          exact .done _
      | _ =>
          exact smaller.execFor alike place otherPlace key rest between

/-- A loop with like conditions has mirrored rounds. -/
private theorem execWhile_step
    {condition otherCondition : Expr}
    {statements others : List Stmt}
    (conditionAlike : condition.Alike otherCondition)
    (alike : Stmt.AllAlike statements others)
    (place otherPlace : Position) :
    (Evaluation.execWhile (fuel + 1) first place condition statements state).Mirrors around
      state
      (fun mirror =>
        Evaluation.execWhile (larger + 1) second otherPlace otherCondition others mirror) := by
  simp only [Evaluation.execWhile, environments.cancelled_first, environments.cancelled_second,
    Bool.false_eq_true, if_false]
  have evaluated : (Evaluation.evalCondition fuel first condition state.glance).Mirrors around
      state fun mirror => Evaluation.evalCondition larger second otherCondition mirror.glance :=
    (smaller.evalCondition conditionAlike state.glance).inside rfl State.Mirrors.glance
  refine evaluated.andThen fun holds between => ?_
  cases holds with
  | false =>
      exact .done _
  | true =>
      have body := smaller.execAll alike (between.enter "while loop")
      have bodyLeft : ((Evaluation.execAll fuel first statements
          (between.enter "while loop")).afterwards State.leave).Mirrors around between
          fun mirror =>
            (Evaluation.execAll larger second others
              (mirror.enter "while loop")).afterwards State.leave :=
        Outcome.mirrors_leave (body.inside rfl fun betweenMirrors =>
          betweenMirrors.enter "while loop")
      refine bodyLeft.andThen fun signal final => ?_
      cases signal with
      | returned value =>
          exact .done _
      | broke =>
          exact .done _
      | _ =>
          exact smaller.execWhile conditionAlike alike place otherPlace final

end Mirrors

/-- Whatever is around it, and with however much more fuel, code that succeeds without looking at
the clocks does what alike code does. -/
theorem mirrors
    {first second : Environment}
    (environments : first.Mirrors second)
    (around : Surroundings)
    {fuel larger : Nat}
    (enough : fuel ≤ larger) :
    Mirrors first second around fuel larger := by
  induction fuel generalizing larger with
  | zero =>
      constructor <;> intros <;>
        simp only [evalExpr, evalAll, evalCondition, callFunction, execAll, exec, execChoice,
          execFor, execWhile] <;>
        exact .outOfFuel (by decide) _
  | succ fuel inductionHypothesis =>
      obtain ⟨larger, rfl⟩ : ∃ fewer, larger = fewer + 1 := ⟨larger - 1, by omega⟩
      have enoughInside : fuel ≤ larger := Nat.le_of_succ_le_succ enough
      have smaller := inductionHypothesis enoughInside
      exact
        { evalExpr := fun alike state => smaller.evalExpr_step environments state alike
          evalAll := fun alike state => smaller.evalAll_step state alike
          evalCondition := fun alike state => smaller.evalCondition_step environments state alike
          callFunction := fun alike place otherPlace arguments state =>
            smaller.callFunction_step environments state enoughInside alike place otherPlace
              arguments
          execAll := fun alike state => smaller.execAll_step state alike
          exec := fun alike state => smaller.exec_step state alike
          execChoice := fun alike state => smaller.execChoice_step state alike
          execFor := fun alike place otherPlace key elements state =>
            smaller.execFor_step environments state alike place otherPlace key elements
          execWhile := fun conditionAlike alike place otherPlace state =>
            smaller.execWhile_step environments state conditionAlike alike place otherPlace }

/-- The items of a file leave what alike items leave, and whatever follows these starts there. -/
theorem mirrors_execItems
    {first second : Environment}
    (environments : first.Mirrors second)
    {around : Surroundings}
    {items others : List Item}
    (alike : List.Forall₂ Item.Alike items others)
    {fuel larger : Nat}
    (enough : fuel ≤ larger)
    {state final mirror : State}
    (succeeds : execItems fuel first items state = .ok () final)
    (unlooked : final.clockLooks = state.clockLooks)
    (stateMirrors : state.Mirrors around mirror) :
    others.length < larger ∧
      ∃ finalMirror, final.Mirrors around finalMirror ∧
        ∀ more,
          execItems larger second (others ++ more) mirror =
            execItems (larger - others.length) second more finalMirror := by
  induction alike generalizing fuel larger state mirror with
  | nil =>
      cases fuel with
      | zero =>
          cases succeeds
      | succ fuel =>
          cases succeeds
          exact ⟨by simpa using Nat.lt_of_lt_of_le (Nat.succ_pos fuel) enough, mirror,
            stateMirrors, fun _ => rfl⟩
  | @cons item other rest others itemAlike restAlike inductionHypothesis =>
      cases fuel with
      | zero =>
          cases succeeds
      | succ fuel =>
          obtain ⟨larger, rfl⟩ : ∃ fewer, larger = fewer + 1 := ⟨larger - 1, by omega⟩
          have enoughInside : fuel ≤ larger := Nat.le_of_succ_le_succ enough
          -- What is left to show once the first item has been executed on both sides.
          have continues : ∀ {between betweenMirror : State},
              execItems fuel first rest between = .ok () final →
              final.clockLooks = between.clockLooks →
              between.Mirrors around betweenMirror →
              (∀ more, execItems (larger + 1) second (other :: others ++ more) mirror =
                execItems larger second (others ++ more) betweenMirror) →
              (other :: others).length < larger + 1 ∧
                ∃ finalMirror, final.Mirrors around finalMirror ∧
                  ∀ more,
                    execItems (larger + 1) second (other :: others ++ more) mirror =
                      execItems (larger + 1 - (other :: others).length) second more
                        finalMirror := by
            intro between betweenMirror restSucceeds restUnlooked betweenMirrors executed
            obtain ⟨shorter, finalMirror, finalMirrors, restEq⟩ :=
              inductionHypothesis enoughInside restSucceeds restUnlooked betweenMirrors
            refine ⟨by simpa using shorter, finalMirror, finalMirrors, fun more => ?_⟩
            rw [executed, restEq, List.length_cons, Nat.add_sub_add_right]
          cases itemAlike with
          | function =>
              exact continues succeeds unlooked stateMirrors fun _ => rfl
          | type =>
              exact continues succeeds unlooked stateMirrors fun _ => rfl
          | @statement inner otherInner innerAlike =>
              simp only [execItems] at succeeds
              have noted : (state.note (statementRecord first.logger inner)).Mirrors around
                  (mirror.note (statementRecord second.logger otherInner)) :=
                stateMirrors.note _ _
              have simulated := (mirrors environments around enoughInside).exec innerAlike
                (state.note (statementRecord first.logger inner))
              cases executed : exec fuel first inner
                  (state.note (statementRecord first.logger inner)) with
              | fail failure between =>
                  simp [executed, Outcome.andThen] at succeeds
              | ok signal between =>
                  simp only [executed, Outcome.andThen] at succeeds
                  rw [executed] at simulated
                  have firstLooks : state.clockLooks ≤ between.clockLooks := simulated.looks
                  have sameHistory : first.Echoes ⟨between, between⟩ second :=
                    environments.echoes rfl
                  have restLooks := ((echoes (Nat.le_refl fuel)).execItems sameHistory rest
                    between).looks
                  rw [succeeds] at restLooks
                  have lastLooks : between.clockLooks ≤ final.clockLooks := restLooks
                  have betweenLooks : between.clockLooks = state.clockLooks := by omega
                  have agrees := simulated.agrees noted betweenLooks rfl
                  generalize executedThere : exec larger second otherInner _ = ending at agrees
                  cases agrees with
                  | @ok _ _ betweenMirror betweenMirrors =>
                      refine continues succeeds (by omega) betweenMirrors fun more => ?_
                      simp only [List.cons_append, execItems, executedThere, Outcome.andThen]

end Evaluation

end Scripting
