import Scripting.Proofs.Evaluation.Functions
import Scripting.Proofs.Evaluation.Simulation
import Scripting.Proofs.Session.Declarations

namespace Scripting

/-!
# Runs do not look back

What was printed, logged and read from the clocks before a run has no influence on it, as long as
the run itself does not look at the clocks.  Neither have earlier looks at the context and earlier
calls of the host, if from the start on the context is done at the same moments and the host
answers alike.  Nor has the amount of fuel, once it is enough; with the same amount of fuel runs
agree even if it is not.
-/

/-- The states in which two runs started. -/
structure Start where
  first : State
  second : State

/-- Two states in which the same lines have been printed since the start. -/
def State.PrintsAlike (start : Start) (state other : State) : Prop :=
  ∃ printed,
    state.output = start.first.output ++ printed ∧ other.output = start.second.output ++ printed

/-- Two states print alike from themselves on. -/
theorem State.PrintsAlike.refl (state other : State) :
    state.PrintsAlike ⟨state, other⟩ other :=
  ⟨#[], by simp, by simp⟩

/-- The same has happened since two runs started: they have printed the same lines, and have turned
to their contexts and to the host equally often. -/
def State.Since (start : Start) (state other : State) : Prop :=
  state.PrintsAlike start other ∧
    (∃ looks,
      state.contextLooks = start.first.contextLooks + looks ∧
        other.contextLooks = start.second.contextLooks + looks) ∧
    ∃ calls,
      state.hostCalls = start.first.hostCalls + calls ∧
        other.hostCalls = start.second.hostCalls + calls

namespace State.Since

variable {start : Start} {state other : State}

/-- At the start nothing has happened. -/
theorem refl (state other : State) : state.Since ⟨state, other⟩ other :=
  ⟨.refl state other, ⟨0, rfl, rfl⟩, ⟨0, rfl, rfl⟩⟩

/-- A line that is printed in both states has been printed since in both. -/
theorem print
    (since : state.Since start other)
    (line : String) :
    (state.print line).Since start (other.print line) := by
  obtain ⟨⟨printed, outputEq, otherEq⟩, looks, calls⟩ := since
  refine ⟨⟨printed.push line, ?_, ?_⟩, looks, calls⟩
  · simp [State.print, outputEq]
  · simp [State.print, otherEq]

/-- A look at the context counts in both states. -/
theorem glance (since : state.Since start other) : state.glance.Since start other.glance := by
  obtain ⟨output, ⟨looks, looksEq, otherEq⟩, calls⟩ := since
  refine ⟨output, ⟨looks + 1, ?_, ?_⟩, calls⟩
  · simp only [State.glance, looksEq, Nat.add_assoc]
  · simp only [State.glance, otherEq, Nat.add_assoc]

/-- A call of the host counts in both states. -/
theorem callHost (since : state.Since start other) : state.callHost.Since start other.callHost := by
  obtain ⟨output, looks, ⟨calls, callsEq, otherEq⟩⟩ := since
  refine ⟨output, looks, ⟨calls + 1, ?_, ?_⟩⟩
  · simp only [State.callHost, callsEq, Nat.add_assoc]
  · simp only [State.callHost, otherEq, Nat.add_assoc]

end State.Since

/-- A function of the host gives the same results after two starts, call by call.  That is so if the
host does not remember, and also if equally many calls came before. -/
def HostFunction.AnswersAlike (start : Start) (function : HostFunction) : Prop :=
  ∀ arguments calls,
    (function.behaviour arguments).result (start.second.hostCalls + calls) =
      (function.behaviour arguments).result (start.first.hostCalls + calls)

/-- What a function comes to that answers alike does not depend on what happened before. -/
theorem HostFunction.AnswersAlike.resultIn_eq
    {start : Start}
    {function : HostFunction}
    {state other : State}
    (answersAlike : function.AnswersAlike start)
    (since : state.Since start other)
    (arguments : List Value) :
    function.resultIn arguments other = function.resultIn arguments state := by
  obtain ⟨-, -, calls, callsEq, otherEq⟩ := since
  simp only [HostFunction.resultIn, callsEq, otherEq]
  exact answersAlike arguments calls

/-- A host that was called equally often answers alike. -/
theorem HostFunction.answersAlike_of_eq
    {start : Start}
    (sameCalls : start.second.hostCalls = start.first.hostCalls)
    (function : HostFunction) :
    function.AnswersAlike start := by
  intro arguments calls
  rw [sameCalls]

/-- Functions that are not of the host need not be asked. -/
def Function.AnswersAlike (start : Start) : Function → Prop
  | .builtin (.host function) => function.AnswersAlike start
  | _ => True

/-- After as many calls of host functions every function answers alike. -/
theorem Function.answersAlike_of_eq
    {start : Start}
    (sameCalls : start.second.hostCalls = start.first.hostCalls)
    (function : Function) :
    function.AnswersAlike start := by
  rcases function with callee | ⟨standard | inner⟩
  · trivial
  · trivial
  · exact inner.answersAlike_of_eq sameCalls

/-- Two states that differ only in what happened before the runs started that are in them. -/
structure State.Echoes (start : Start) (state echo : State) : Prop where
  scopes : echo.scopes = state.scopes
  functions : echo.functions = state.functions
  depth : echo.depth = state.depth
  since : state.Since start echo
  hosts : state.functions.All (Function.AnswersAlike start)

namespace State.Echoes

variable {start : Start} {state echo : State}

/-- Log records do not matter. -/
theorem note
    (echoes : state.Echoes start echo)
    (records recordsEcho : List LogRecord) :
    (state.note records).Echoes start (echo.note recordsEcho) :=
  ⟨echoes.scopes, echoes.functions, echoes.depth, echoes.since, echoes.hosts⟩

/-- Printing the same line in both keeps states echoing. -/
theorem print
    (echoes : state.Echoes start echo)
    (line : String) :
    (state.print line).Echoes start (echo.print line) :=
  ⟨echoes.scopes, echoes.functions, echoes.depth, echoes.since.print line, echoes.hosts⟩

/-- A look at the context counts in both states. -/
theorem glance (echoes : state.Echoes start echo) : state.glance.Echoes start echo.glance :=
  ⟨echoes.scopes, echoes.functions, echoes.depth, echoes.since.glance, echoes.hosts⟩

/-- A call of the host counts in both states. -/
theorem callHost (echoes : state.Echoes start echo) : state.callHost.Echoes start echo.callHost :=
  ⟨echoes.scopes, echoes.functions, echoes.depth, echoes.since.callHost, echoes.hosts⟩

/-- A name that is bound to one value in both states is still bound alike. -/
theorem define
    (echoes : state.Echoes start echo)
    (name : String)
    (value : Value)
    (mutable : Bool) :
    (state.define name value mutable).Echoes start (echo.define name value mutable) :=
  ⟨by simp [State.define, echoes.scopes], echoes.functions, echoes.depth, echoes.since, echoes.hosts⟩

/-- A frame that is opened in both states is alike. -/
theorem enter
    (echoes : state.Echoes start echo)
    (comment : String) :
    (state.enter comment).Echoes start (echo.enter comment) :=
  ⟨by simp [State.enter, echoes.scopes], echoes.functions, echoes.depth, echoes.since, echoes.hosts⟩

/-- A frame that is closed in both states leaves frames that are alike. -/
theorem leave
    (echoes : state.Echoes start echo) :
    state.leave.Echoes start echo.leave :=
  ⟨by simp [State.leave, echoes.scopes], echoes.functions, echoes.depth, echoes.since, echoes.hosts⟩

/-- The frames of a call are alike on both sides. -/
theorem enterCall
    (echoes : state.Echoes start echo)
    (function : UserFunction)
    (arguments : List Value) :
    (state.enterCall function arguments).Echoes start (echo.enterCall function arguments) :=
  ⟨by simp [State.enterCall, echoes.scopes], echoes.functions,
    by simp [State.enterCall, echoes.depth], echoes.since, echoes.hosts⟩

/-- After a call the frames of the caller are back on both sides. -/
theorem leaveCall
    {final finalEcho : State}
    (echoes : state.Echoes start echo)
    (finalEchoes : final.Echoes start finalEcho) :
    (state.leaveCall final).Echoes start (echo.leaveCall finalEcho) :=
  ⟨by simp [State.leaveCall, echoes.scopes, finalEchoes.scopes], finalEchoes.functions,
    by simp [State.leaveCall, finalEchoes.depth], finalEchoes.since, finalEchoes.hosts⟩

/-- A nested script starts alike in both states. -/
theorem enterScript
    (echoes : state.Echoes start echo)
    {session : Session}
    (hosts : session.functions.All (Function.AnswersAlike start))
    (records : List LogRecord) :
    (state.enterScript session records).Echoes start (echo.enterScript session records) :=
  ⟨rfl, rfl, rfl, echoes.since, hosts⟩

/-- After a nested script the frames and the functions of its caller are back on both sides. -/
theorem leaveScript
    {final finalEcho : State}
    (echoes : state.Echoes start echo)
    (finalEchoes : final.Echoes start finalEcho) :
    (state.leaveScript final).Echoes start (echo.leaveScript finalEcho) :=
  ⟨echoes.scopes, echoes.functions, echoes.depth, finalEchoes.since, echoes.hosts⟩

end State.Echoes

/-- Two environments that differ in their clocks, in which runs are cancelled at the same moment and
for the same reason, and the functions of the host answer alike. -/
structure Environment.Echoes (start : Start) (first second : Environment) : Prop where
  options : second.options = first.options
  logger : second.logger = first.logger
  reason : second.cancellation.reason = first.cancellation.reason
  cancelled :
    ∀ {state other : State}, state.Since start other →
      second.cancelled other = first.cancelled state
  hosts : ∀ function ∈ first.options.hostFunctions, function.AnswersAlike start

namespace Environment.Echoes

variable {start : Start} {first second : Environment}

/-- Scripts that are started in such environments are in such environments. -/
theorem within
    (echoes : first.Echoes start second)
    {options : Options}
    (sameHosts : options.hostFunctions = first.options.hostFunctions)
    (logger : Option Logger) :
    { first with options, logger }.Echoes start { second with options, logger } :=
  ⟨rfl, rfl, echoes.reason, echoes.cancelled, sameHosts ▸ echoes.hosts⟩

/-- The context is done in both states or in neither. -/
theorem interruption_eq (echoes : first.Echoes start second) (position : Position) :
    Evaluation.interruption second position = Evaluation.interruption first position := by
  simp only [Evaluation.interruption, echoes.reason]

/-- The functions of the host answer alike in every session that has no others. -/
theorem answersAlike
    (echoes : first.Echoes start second)
    {options : Options}
    (sameHosts : options.hostFunctions = first.options.hostFunctions)
    {logger : Option Logger}
    {session started : Session}
    {name text : String}
    {records : List LogRecord}
    {script : Script}
    (created : Session.create options logger = .ok session)
    (parsed : session.parse name text = (records, .ok (script, started))) :
    started.functions.All (Function.AnswersAlike start) := by
  obtain ⟨_, _, _, _, _, _, rfl⟩ := Session.parse_eq_ok (congrArg Prod.snd parsed)
  have all : session.functions.All (Function.AnswersAlike start) :=
    Session.all_of_create created (fun _ => trivial) (sameHosts ▸ echoes.hosts)
  exact all

end Environment.Echoes

/-- How a step goes after another history. -/
abbrev Outcome.Echoes {Result : Type} (extent : Outcome.Extent) (start : Start) (state : State)
    (outcome : Outcome Result) (elsewhere : State → Outcome Result) : Prop :=
  outcome.Simulated (State.Echoes start) extent state elsewhere

/-- A frame that is closed afterwards is closed on both sides. -/
theorem Outcome.echoes_leave
    {Result : Type}
    {extent : Outcome.Extent}
    {start : Start}
    {state : State}
    {outcome : Outcome Result}
    {elsewhere : State → Outcome Result}
    (echoes : outcome.Echoes extent start state elsewhere) :
    (outcome.afterwards State.leave).Echoes extent start state fun echo =>
      (elsewhere echo).afterwards State.leave :=
  echoes.afterwards (fun _ => State.leave) (fun _ => rfl) fun _ => State.Echoes.leave

namespace Evaluation

section Steps

variable {extent : Outcome.Extent} {start : Start} {state : State}

/-- A step may fail right after a look at the context. -/
theorem echoes_glance {Result : Type} (failure : Failure) :
    (Outcome.fail failure state.glance : Outcome Result).Echoes extent start state fun other =>
      .fail failure other.glance :=
  .fail failure rfl fun echoes => echoes.glance

/-- A variable has the same value in both states. -/
theorem echoes_readVariable (identifier : Identifier) :
    (readVariable identifier state).Echoes extent start state (readVariable identifier) := by
  unfold readVariable
  split
  · next entry found =>
      refine (Outcome.Simulated.done entry.value).congr fun echoes => ?_
      simp [echoes.scopes, found]
  · next missing =>
      refine (Outcome.Simulated.failed _).congr fun echoes => ?_
      simp [echoes.scopes, missing]

/-- A variable is set in both states, or in neither. -/
theorem echoes_writeVariable (identifier : Identifier) (value : Value) :
    (writeVariable identifier value state).Echoes extent start state
      (writeVariable identifier value) := by
  unfold writeVariable
  split
  · next scopes assigned =>
      have changes : (Outcome.ok Signal.normal { state with scopes }).Echoes extent start state
          fun echo => .ok .normal { echo with scopes } :=
        .ok _ rfl fun echoes =>
          ⟨rfl, echoes.functions, echoes.depth, echoes.since, echoes.hosts⟩
      refine changes.congr fun echoes => ?_
      simp [echoes.scopes, assigned]
  · next fault refused =>
      refine (Outcome.Simulated.failed _).congr fun echoes => ?_
      simp [echoes.scopes, refused]

/-- An operator does the same in both states. -/
theorem echoes_applyOperator
    (operator : Operator)
    (position : Position)
    (left right : Value) :
    (applyOperator operator position left right state).Echoes extent start state
      (applyOperator operator position left right) := by
  unfold applyOperator
  split
  · exact .done _
  · exact .failed _

/-- A loop visits the same elements in both states. -/
theorem echoes_loopElements (position : Position) (bound : Value) :
    (loopElements position bound state).Echoes extent start state
      (loopElements position bound) := by
  unfold loopElements
  split
  · exact .failed _
  · split
    · exact .done _
    · exact .failed _

/-- A length is the same in both states. -/
theorem echoes_lengthCall (position : Position) (argument : Value) :
    (lengthCall position argument state).Echoes extent start state
      (lengthCall position argument) := by
  unfold lengthCall
  split
  · exact .done _
  · exact .failed _

/-- What a host function answers has the same outcome in both states. -/
theorem echoes_hostResult
    (result : HostResult)
    (name : String)
    (took : List LogRecord)
    (position : Position) :
    (result.outcome name took position state).Echoes extent start state fun other =>
      result.outcome name took position other := by
  cases result with
  | value result =>
      exact .ok _ rfl fun echoes => echoes.note took took
  | failure message =>
      exact .fail _ rfl fun echoes => echoes.note took took
  | fault message =>
      exact .fail _ rfl fun echoes => echoes.note took took
  | crash message =>
      exact .failed _

/-- A host function that answers alike is called alike. -/
theorem echoes_hostCall
    (function : HostFunction)
    (took : List LogRecord)
    (position : Position)
    (arguments : List Value) :
    (function.call took position arguments state).Simulated
      (fun state other => state.Echoes start other ∧ function.AnswersAlike start) extent state
      (function.call took position arguments) := by
  have called : (function.call took position arguments state).Echoes extent start state
      fun other => (function.resultIn arguments state).outcome function.name took position
        other.callHost :=
    (echoes_hostResult _ function.name took position).inside rfl State.Echoes.callHost
  refine (called.assuming _).congr fun ⟨echoes, answersAlike⟩ => ?_
  simp only [HostFunction.call, answersAlike.resultIn_eq echoes.since arguments]

/-- A function is defined in both states, or in neither. -/
theorem echoes_defineFunction (function : UserFunction) :
    (defineFunction function state).Echoes extent start state (defineFunction function) := by
  have defines :
      (Outcome.ok () { state with
          functions := state.functions.insert function.name (.user function) }).Echoes extent start
        state fun echo => .ok () { echo with
          functions := echo.functions.insert function.name (.user function) } :=
    .ok _ rfl fun echoes =>
      ⟨echoes.scopes, by simp [echoes.functions], echoes.depth, echoes.since,
        echoes.hosts.insert _ trivial⟩
  unfold defineFunction
  simp only
  split
  · next free =>
      refine defines.congr fun echoes => ?_
      simp [echoes.functions, free]
  · next found =>
      refine (Outcome.Simulated.failed _).congr fun echoes => ?_
      simp [echoes.functions, found]
  · next previous found =>
      split
      · next shared =>
          refine defines.congr fun echoes => ?_
          simp [echoes.functions, found, shared]
      · next notShared =>
          refine (Outcome.Simulated.failed _).congr fun echoes => ?_
          simp [echoes.functions, found, notShared]

/-- The functions of a file are defined in both states, up to the first that is not. -/
theorem echoes_hoist (origin : Nat) (items : List Item) :
    (hoist origin items state).Echoes extent start state (hoist origin items) := by
  induction items generalizing state with
  | nil =>
      exact .done ()
  | cons first rest inductionHypothesis =>
      cases first with
      | function declaration =>
          exact (echoes_defineFunction _).andThen fun _ _ => inductionHypothesis
      | type declaration =>
          exact inductionHypothesis.inside rfl fun echoes => echoes.define _ _ _
      | statement inner =>
          exact inductionHypothesis

/-- A signal of a function body becomes the same result of the call. -/
theorem echoes_callResult
    {outcome : Outcome Signal}
    {elsewhere : State → Outcome Signal}
    (echoes : outcome.Echoes extent start state elsewhere)
    (position : Position)
    (name : String) :
    (callResult position name outcome).Echoes extent start state fun echo =>
      callResult position name (elsewhere echo) := by
  refine echoes.result (fun _ => callResult position name) ?_ ?_ ?_
  · rw [state_callResult]
  · rcases outcome with ⟨_ | value | _ | _, final⟩ | ⟨error | message | _, final⟩
    case fail.error =>
      simp only [callResult]
      split <;> exact id
    all_goals exact id
  · intro echo other _ agrees
    cases agrees with
    | @ok signal final finalEcho finalEchoes =>
        cases signal <;> exact .ok finalEchoes
    | @fail failure final finalEcho finalEchoes =>
        cases failure with
        | error error =>
            simp only [callResult]
            split <;> exact .fail finalEchoes
        | _ =>
            exact .fail finalEchoes

/-- A call with a body that is run alike has the same result. -/
theorem echoes_call
    {outcome : Outcome Signal}
    {elsewhere : State → Outcome Signal}
    {function : UserFunction}
    {arguments : List Value}
    (echoes : outcome.Echoes extent start (state.enterCall function arguments) elsewhere)
    (position : Position) :
    ((callResult position function.name outcome).afterwards state.leaveCall).Echoes extent start
      state fun echo =>
        (callResult position function.name
          (elsewhere (echo.enterCall function arguments))).afterwards echo.leaveCall := by
  have body : outcome.Echoes extent start state fun echo =>
      elsewhere (echo.enterCall function arguments) :=
    echoes.inside rfl fun stateEchoes => stateEchoes.enterCall function arguments
  exact (echoes_callResult body position function.name).afterwards State.leaveCall
    (fun _ => rfl) fun stateEchoes finalEchoes => stateEchoes.leaveCall finalEchoes

/-- The outcome of a file is the same on both sides if that of its items is. -/
theorem echoes_fileResult
    {outcome : Outcome Unit}
    {elsewhere : State → Outcome Unit}
    (echoes : outcome.Echoes extent start state elsewhere)
    (logger : Option Logger)
    (position : Position) :
    (fileResult logger position outcome).Echoes extent start state fun echo =>
      fileResult logger position (elsewhere echo) := by
  refine echoes.result (fun _ => fileResult logger position) ?_ ?_ ?_
  · rcases outcome with ⟨_, final⟩ | ⟨error | message | _, final⟩ <;> rfl
  · rcases outcome with ⟨_, final⟩ | ⟨error | message | _, final⟩ <;> exact id
  · intro echo other _ agrees
    cases agrees with
    | ok finalEchoes =>
        exact .ok (finalEchoes.note _ _)
    | @fail failure final finalEcho finalEchoes =>
        cases failure with
        | outOfFuel =>
            exact .fail finalEchoes
        | _ =>
            exact .fail (finalEchoes.note _ _)

/-- The value of a nested script is the same on both sides, where errors are compared. -/
theorem echoes_scriptResult
    {outcome : Outcome Unit}
    {elsewhere : State → Outcome Unit}
    (echoes : outcome.Echoes extent start state elsewhere)
    (comparesErrors : extent ≠ .results) :
    (scriptResult state outcome).Echoes extent start state fun echo =>
      scriptResult echo (elsewhere echo) := by
  refine echoes.result scriptResult ?_ ?_ ?_
  · rcases outcome with ⟨_, final⟩ | ⟨error | message | _, final⟩ <;> rfl
  · rcases outcome with ⟨_, final⟩ | ⟨error | message | _, final⟩
    case fail.error =>
      exact fun _ => decide_eq_true comparesErrors
    all_goals exact id
  · intro echo other stateEchoes agrees
    cases agrees with
    | ok finalEchoes =>
        exact .ok (stateEchoes.leaveScript finalEchoes)
    | @fail failure final finalEcho finalEchoes =>
        cases failure with
        | error error =>
            exact .ok (stateEchoes.leaveScript finalEchoes)
        | _ =>
            exact .fail (stateEchoes.leaveScript finalEchoes)

end Steps

/-- How runs with an amount of fuel go elsewhere with another one. -/
structure Echoes (extent : Outcome.Extent) (fuel larger : Nat) : Prop where
  evalExpr :
    ∀ {start} {first second : Environment}, first.Echoes start second →
      ∀ expression state,
        (Evaluation.evalExpr fuel first expression state).Echoes extent start state
          (Evaluation.evalExpr larger second expression)
  evalAll :
    ∀ {start} {first second : Environment}, first.Echoes start second →
      ∀ expressions state,
        (Evaluation.evalAll fuel first expressions state).Echoes extent start state
          (Evaluation.evalAll larger second expressions)
  evalCondition :
    ∀ {start} {first second : Environment}, first.Echoes start second →
      ∀ expression state,
        (Evaluation.evalCondition fuel first expression state).Echoes extent start state
          (Evaluation.evalCondition larger second expression)
  callFunction :
    ∀ {start} {first second : Environment}, first.Echoes start second →
      ∀ position function arguments state,
        (Evaluation.callFunction fuel first position function arguments state).Simulated
          (fun state other => state.Echoes start other ∧ function.AnswersAlike start) extent state
          (Evaluation.callFunction larger second position function arguments)
  callStandard :
    ∀ {start} {first second : Environment}, first.Echoes start second →
      ∀ position function arguments state,
        (Evaluation.callStandard fuel first position function arguments state).Echoes extent start
          state (Evaluation.callStandard larger second position function arguments)
  runScript :
    ∀ {start} {first second : Environment}, first.Echoes start second →
      ∀ position text state,
        (Evaluation.runScript fuel first position text state).Echoes extent start state
          (Evaluation.runScript larger second position text)
  execAll :
    ∀ {start} {first second : Environment}, first.Echoes start second →
      ∀ statements state,
        (Evaluation.execAll fuel first statements state).Echoes extent start state
          (Evaluation.execAll larger second statements)
  exec :
    ∀ {start} {first second : Environment}, first.Echoes start second →
      ∀ statement state,
        (Evaluation.exec fuel first statement state).Echoes extent start state
          (Evaluation.exec larger second statement)
  execChoice :
    ∀ {start} {first second : Environment}, first.Echoes start second →
      ∀ branches state,
        (Evaluation.execChoice fuel first branches state).Echoes extent start state
          (Evaluation.execChoice larger second branches)
  execFor :
    ∀ {start} {first second : Environment}, first.Echoes start second →
      ∀ position key statements elements state,
        (Evaluation.execFor fuel first position key statements elements state).Echoes extent start
          state (Evaluation.execFor larger second position key statements elements)
  execWhile :
    ∀ {start} {first second : Environment}, first.Echoes start second →
      ∀ position condition statements state,
        (Evaluation.execWhile fuel first position condition statements state).Echoes extent start
          state (Evaluation.execWhile larger second position condition statements)
  execItems :
    ∀ {start} {first second : Environment}, first.Echoes start second →
      ∀ items state,
        (Evaluation.execItems fuel first items state).Echoes extent start state
          (Evaluation.execItems larger second items)
  runFile :
    ∀ {start} {first second : Environment}, first.Echoes start second →
      ∀ script state,
        (Evaluation.runFile fuel first script state).Echoes extent start state
          (Evaluation.runFile larger second script)

namespace Echoes

variable {extent : Outcome.Extent} {fuel larger : Nat} (smaller : Echoes extent fuel larger)
variable {start : Start} {first second : Environment}
variable (echoes : first.Echoes start second) (state : State)

include smaller echoes

/-- Expressions are evaluated alike with one step more. -/
private theorem evalExpr_step (expression : Expr) :
    (Evaluation.evalExpr (fuel + 1) first expression state).Echoes extent start state
      (fun echo => Evaluation.evalExpr (larger + 1) second expression echo) := by
  cases expression with
  | literal text value place =>
      exact .done _
  | null place =>
      exact .done _
  | name identifier =>
      exact echoes_readVariable identifier
  | paren inner place =>
      exact smaller.evalExpr echoes inner state
  | template parts place =>
      exact (smaller.evalAll echoes parts state).andThen fun _ _ => .done _
  | list elements place =>
      exact (smaller.evalAll echoes elements state).andThen fun _ _ => .done _
  | binary operator left right =>
      refine (smaller.evalExpr echoes left state).andThen fun leftValue between => ?_
      refine (smaller.evalExpr echoes right between).andThen fun rightValue final => ?_
      exact echoes_applyOperator operator left.position leftValue rightValue
  | call function arguments =>
      simp only [Evaluation.evalExpr]
      split
      · next isCancelled =>
          refine (echoes_glance _).congr fun stateEchoes => ?_
          simp [echoes.cancelled stateEchoes.since, isCancelled, echoes.interruption_eq]
      · next notCancelled =>
          split
          · next missing =>
              refine (echoes_glance _).congr fun stateEchoes => ?_
              simp [echoes.cancelled stateEchoes.since, notCancelled, stateEchoes.functions,
                missing]
          · next callee found =>
              -- That the callee answers alike is known of it as one of the functions of the state.
              have evaluated : (Evaluation.evalAll fuel first arguments state.glance).Echoes extent
                  start state fun echo => Evaluation.evalAll larger second arguments echo.glance :=
                (smaller.evalAll echoes arguments state.glance).inside rfl State.Echoes.glance
              have called := (evaluated.assuming (callee.AnswersAlike start)).andThen
                fun values between =>
                  smaller.callFunction echoes function.position callee values between
              refine (called.discharge fun stateEchoes =>
                stateEchoes.hosts _ _ found).congr fun stateEchoes => ?_
              simp [echoes.cancelled stateEchoes.since, notCancelled, stateEchoes.functions, found]

/-- Arguments are evaluated alike with one step more. -/
private theorem evalAll_step (expressions : List Expr) :
    (Evaluation.evalAll (fuel + 1) first expressions state).Echoes extent start state
      (fun echo => Evaluation.evalAll (larger + 1) second expressions echo) := by
  cases expressions with
  | nil =>
      exact .done _
  | cons expression rest =>
      refine (smaller.evalExpr echoes expression state).andThen fun value between => ?_
      exact (smaller.evalAll echoes rest between).andThen fun _ _ => .done _

/-- Conditions are evaluated alike with one step more. -/
private theorem evalCondition_step (expression : Expr) :
    (Evaluation.evalCondition (fuel + 1) first expression state).Echoes extent start state
      (fun echo => Evaluation.evalCondition (larger + 1) second expression echo) := by
  simp only [Evaluation.evalCondition, echoes.options]
  refine (smaller.evalExpr echoes expression state).andThen fun value between => ?_
  split
  · exact .done _
  · exact .failed _

/-- Functions that answer alike are called alike with one step more. -/
private theorem callFunction_step
    (position : Position)
    (function : Function)
    (arguments : List Value) :
    (Evaluation.callFunction (fuel + 1) first position function arguments state).Simulated
      (fun state other => state.Echoes start other ∧ function.AnswersAlike start) extent state
      (fun echo =>
        Evaluation.callFunction (larger + 1) second position function arguments echo) := by
  cases function with
  | user callee =>
      refine Outcome.Simulated.assuming ?_ _
      simp only [Evaluation.callFunction]
      split
      · exact .failed _
      · split
        · next tooDeep =>
            refine (Outcome.Simulated.failed _).congr fun stateEchoes => ?_
            simp [echoes.options, stateEchoes.depth, tooDeep]
        · next notTooDeep =>
            have body := smaller.execAll echoes callee.declaration.body.statements
              (state.enterCall callee arguments)
            refine (echoes_call body position).congr fun stateEchoes => ?_
            simp [echoes.options, stateEchoes.depth, notTooDeep]
  | builtin callee =>
      simp only [Evaluation.callFunction, echoes.logger]
      split
      · exact .failed _
      · cases callee with
        | host inner =>
            exact echoes_hostCall ..
        | standard inner =>
            exact ((smaller.callStandard echoes position inner arguments state).afterwards
              (fun _ final => final.note _) (fun _ => rfl)
              fun _ finalEchoes => finalEchoes.note _ _).assuming _

/-- Standard functions are called alike with one step more. -/
private theorem callStandard_step
    (position : Position)
    (function : Standard)
    (arguments : List Value) :
    (Evaluation.callStandard (fuel + 1) first position function arguments state).Echoes extent start
      state (fun echo =>
        Evaluation.callStandard (larger + 1) second position function arguments echo) := by
  cases function with
  | print =>
      exact .ok _ rfl fun stateEchoes => stateEchoes.print _
  | typeOf =>
      exact .done _
  | length =>
      exact echoes_lengthCall ..
  | runScript =>
      exact smaller.runScript echoes position _ state
  | nanoTime =>
      -- The clock has been looked at, so nothing is said about how it goes elsewhere.
      exact ⟨Nat.le_succ _, fun _ looksEq _ => (Nat.succ_ne_self _ looksEq).elim⟩
  | currentMillis =>
      exact ⟨Nat.le_succ _, fun _ looksEq _ => (Nat.succ_ne_self _ looksEq).elim⟩

/-- Nested scripts are run alike with one step more. -/
private theorem runScript_step
    (position : Position)
    (text : String)
    (comparesErrors : extent ≠ .results) :
    (Evaluation.runScript (fuel + 1) first position text state).Echoes extent start state
      (fun echo => Evaluation.runScript (larger + 1) second position text echo) := by
  simp only [Evaluation.runScript, echoes.options, echoes.logger]
  split
  · exact .failed _
  · next session created =>
      split
      · exact .ok _ rfl fun stateEchoes => stateEchoes.note _ _
      · next records script started parsed =>
          have sameHosts : ({ first.options with globals := ∅ } : Options).hostFunctions =
              first.options.hostFunctions :=
            rfl
          have answersAlike := echoes.answersAlike sameHosts created parsed
          exact echoes_scriptResult
            (Outcome.Simulated.inside
              (smaller.runFile (echoes.within sameHosts _) script (state.enterScript started records))
              rfl fun stateEchoes => stateEchoes.enterScript answersAlike records)
            comparesErrors

/-- Statements are executed alike one after another with one step more. -/
private theorem execAll_step (statements : List Stmt) :
    (Evaluation.execAll (fuel + 1) first statements state).Echoes extent start state
      (fun echo => Evaluation.execAll (larger + 1) second statements echo) := by
  cases statements with
  | nil =>
      exact .done _
  | cons statement rest =>
      refine (smaller.exec echoes statement state).andThen fun signal between => ?_
      cases signal with
      | normal =>
          exact smaller.execAll echoes rest between
      | _ =>
          exact .done _

/-- A statement is executed alike with one step more. -/
private theorem exec_step (statement : Stmt) :
    (Evaluation.exec (fuel + 1) first statement state).Echoes extent start state
      (fun echo => Evaluation.exec (larger + 1) second statement echo) := by
  cases statement with
  | expr value =>
      exact (smaller.evalExpr echoes value state).andThen fun _ _ => .done _
  | declare mutable name value place =>
      refine (smaller.evalExpr echoes value state).andThen fun result between => ?_
      exact .ok _ rfl fun betweenEchoes => betweenEchoes.define name.text result mutable
  | assign defines name value =>
      refine (smaller.evalExpr echoes value state).andThen fun result between => ?_
      cases defines with
      | true =>
          exact .ok _ rfl fun betweenEchoes => betweenEchoes.define name.text result true
      | false =>
          exact echoes_writeVariable name result
  | choice branches place =>
      exact smaller.execChoice echoes branches state
  | forEach key bound body place =>
      refine (smaller.evalExpr echoes bound state).andThen fun value between => ?_
      refine (echoes_loopElements bound.position value).andThen fun elements final => ?_
      exact smaller.execFor echoes place key.text body.statements elements final
  | whileLoop condition body place =>
      exact smaller.execWhile echoes place condition body.statements state
  | «return» value place =>
      cases value with
      | none =>
          exact .done _
      | some result =>
          exact (smaller.evalExpr echoes result state).andThen fun _ _ => .done _
  | control kind place =>
      cases kind <;> exact .done _

/-- Branches are chosen alike with one step more. -/
private theorem execChoice_step (branches : List Branch) :
    (Evaluation.execChoice (fuel + 1) first branches state).Echoes extent start state
      (fun echo => Evaluation.execChoice (larger + 1) second branches echo) := by
  cases branches with
  | nil =>
      exact .done _
  | cons branch rest =>
      refine (smaller.evalCondition echoes branch.condition state).andThen
        fun holds between => ?_
      cases holds with
      | true =>
          have body := smaller.execAll echoes branch.body.statements (between.enter "if")
          exact Outcome.echoes_leave
            (body.inside rfl fun betweenEchoes => betweenEchoes.enter "if")
      | false =>
          exact smaller.execChoice echoes rest between

/-- Loops over values go around alike with one step more. -/
private theorem execFor_step
    (position : Position)
    (key : String)
    (statements : List Stmt)
    (elements : Elements) :
    (Evaluation.execFor (fuel + 1) first position key statements elements state).Echoes extent start
      state
      (fun echo => Evaluation.execFor (larger + 1) second position key statements elements
        echo) := by
  simp only [Evaluation.execFor]
  split
  · exact .done _
  · next element rest _ =>
      split
      · next isCancelled =>
          refine (echoes_glance _).congr fun stateEchoes => ?_
          simp [echoes.cancelled stateEchoes.since, isCancelled, echoes.interruption_eq]
      · next notCancelled =>
          have body := smaller.execAll echoes statements
            ((state.glance.enter "for loop").define key element false)
          have bodyLeft : ((Evaluation.execAll fuel first statements
              ((state.glance.enter "for loop").define key element false)).afterwards
                State.leave).Echoes extent start state fun echo =>
              (Evaluation.execAll larger second statements
                ((echo.glance.enter "for loop").define key element false)).afterwards
                  State.leave :=
            Outcome.echoes_leave (body.inside rfl fun stateEchoes =>
              (stateEchoes.glance.enter "for loop").define key element false)
          refine (bodyLeft.andThen fun signal between => ?_).congr fun stateEchoes => by
            rw [echoes.cancelled stateEchoes.since, if_neg notCancelled]
          cases signal with
          | returned value =>
              exact .done _
          | broke =>
              exact .done _
          | _ =>
              exact smaller.execFor echoes position key statements rest between

/-- Conditional loops go around alike with one step more. -/
private theorem execWhile_step
    (position : Position)
    (condition : Expr)
    (statements : List Stmt) :
    (Evaluation.execWhile (fuel + 1) first position condition statements state).Echoes extent start
      state
      (fun echo => Evaluation.execWhile (larger + 1) second position condition statements
        echo) := by
  simp only [Evaluation.execWhile]
  split
  · next isCancelled =>
      refine (echoes_glance _).congr fun stateEchoes => ?_
      simp [echoes.cancelled stateEchoes.since, isCancelled, echoes.interruption_eq]
  · next notCancelled =>
      have evaluated : (Evaluation.evalCondition fuel first condition state.glance).Echoes extent
          start state fun echo =>
            Evaluation.evalCondition larger second condition echo.glance :=
        (smaller.evalCondition echoes condition state.glance).inside rfl State.Echoes.glance
      refine (evaluated.andThen fun holds between => ?_).congr fun stateEchoes => by
        rw [echoes.cancelled stateEchoes.since, if_neg notCancelled]
      cases holds with
      | false =>
          exact .done _
      | true =>
          have body := smaller.execAll echoes statements (between.enter "while loop")
          have bodyLeft : ((Evaluation.execAll fuel first statements
              (between.enter "while loop")).afterwards State.leave).Echoes extent start between
              fun echo =>
                (Evaluation.execAll larger second statements
                  (echo.enter "while loop")).afterwards State.leave :=
            Outcome.echoes_leave (body.inside rfl fun betweenEchoes =>
              betweenEchoes.enter "while loop")
          refine bodyLeft.andThen fun signal final => ?_
          cases signal with
          | returned value =>
              exact .done _
          | broke =>
              exact .done _
          | _ =>
              exact smaller.execWhile echoes position condition statements final

/-- The items of a file are executed alike with one step more. -/
private theorem execItems_step (items : List Item) :
    (Evaluation.execItems (fuel + 1) first items state).Echoes extent start state
      (fun echo => Evaluation.execItems (larger + 1) second items echo) := by
  cases items with
  | nil =>
      exact .done _
  | cons item rest =>
      cases item with
      | statement inner =>
          simp only [Evaluation.execItems, echoes.logger]
          have executed : (Evaluation.exec fuel first inner
              (state.note (statementRecord first.logger inner))).Echoes extent start state
                fun echo => Evaluation.exec larger second inner
                  (echo.note (statementRecord first.logger inner)) :=
            (smaller.exec echoes inner _).inside rfl fun stateEchoes => stateEchoes.note _ _
          exact executed.andThen fun _ between => smaller.execItems echoes rest between
      | function declaration =>
          exact smaller.execItems echoes rest state
      | type declaration =>
          exact smaller.execItems echoes rest state

/-- Files are run alike with one step more. -/
private theorem runFile_step (script : Script) :
    (Evaluation.runFile (fuel + 1) first script state).Echoes extent start state
      (fun echo => Evaluation.runFile (larger + 1) second script echo) := by
  simp only [Evaluation.runFile, echoes.logger]
  refine echoes_fileResult ?_ _ _
  exact (echoes_hoist script.origin script.file.items).andThen fun _ hoisted =>
    smaller.execItems echoes script.file.items hoisted

end Echoes

/-- One more unit of fuel lets each kind of step take its first step. -/
theorem Echoes.step
    {extent : Outcome.Extent}
    {fuel larger : Nat}
    (smaller : Echoes extent fuel larger)
    (comparesErrors : extent ≠ .results) :
    Echoes extent (fuel + 1) (larger + 1) where
  evalExpr := fun environments expression state =>
    smaller.evalExpr_step environments state expression
  evalAll := fun environments expressions state =>
    smaller.evalAll_step environments state expressions
  evalCondition := fun environments expression state =>
    smaller.evalCondition_step environments state expression
  callFunction := fun environments position function arguments state =>
    smaller.callFunction_step environments state position function arguments
  callStandard := fun environments position function arguments state =>
    smaller.callStandard_step environments state position function arguments
  runScript := fun environments position text state =>
    smaller.runScript_step environments state position text comparesErrors
  execAll := fun environments statements state =>
    smaller.execAll_step environments state statements
  exec := fun environments statement state =>
    smaller.exec_step environments state statement
  execChoice := fun environments branches state =>
    smaller.execChoice_step environments state branches
  execFor := fun environments position key statements elements state =>
    smaller.execFor_step environments state position key statements elements
  execWhile := fun environments position condition statements state =>
    smaller.execWhile_step environments state position condition statements
  execItems := fun environments items state =>
    smaller.execItems_step environments state items
  runFile := fun environments script state =>
    smaller.runFile_step environments state script

/-- Whatever happened before, and with however much more fuel, a run that does not look at the
clocks goes as it went. -/
theorem echoes {fuel larger : Nat} (enough : fuel ≤ larger) : Echoes .endings fuel larger := by
  induction fuel generalizing larger with
  | zero =>
      constructor <;> intros <;>
        simp only [evalExpr, evalAll, evalCondition, callFunction, callStandard, runScript,
          execAll, exec, execChoice, execFor, execWhile, execItems, runFile] <;>
        exact .outOfFuel (by decide) _
  | succ fuel inductionHypothesis =>
      cases larger with
      | zero =>
          simp at enough
      | succ larger =>
          exact (inductionHypothesis (Nat.le_of_succ_le_succ enough)).step (by decide)

/-- With the same fuel, a run that does not look at the clocks goes as it went up to the moment when
the fuel is used up. -/
theorem echoes_sameFuel (fuel : Nat) : Echoes .everything fuel fuel := by
  induction fuel with
  | zero =>
      constructor <;> intros <;>
        simp only [evalExpr, evalAll, evalCondition, callFunction, callStandard, runScript,
          execAll, exec, execChoice, execFor, execWhile, execItems, runFile] <;>
        exact .failed _
  | succ fuel inductionHypothesis =>
      exact inductionHypothesis.step (by decide)

end Evaluation

end Scripting
