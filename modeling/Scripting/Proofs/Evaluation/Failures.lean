import Scripting.Proofs.Evaluation.CallTree
import Scripting.Proofs.Session.Agreement

namespace Scripting

/-!
# Where failures arise

A step fails on its own, or because a step fails that it has taken.  The failure of a run arises
at the end of such a chain of failing steps.  On its way out it is passed on by every step, and
wrapped once by each call of a function that is active, unless it says that calls are nested too
deeply.  So the wrappers of an error are the calls that were active when it arose.
-/

namespace EvalError

/-- The errors that an error is made of, outermost first. -/
def chain : EvalError → List EvalError
  | .failed position fault => [.failed position fault]
  | .host text => [.host text]
  | .inFunction position name cause => .inFunction position name cause :: cause.chain

/-- The call that an error is wrapped with. -/
def call? : EvalError → Option Evaluation.ActiveCall
  | .inFunction position name _ => some ⟨position, name⟩
  | _ => none

/-- The calls that an error is wrapped with, outermost first. -/
def calls (error : EvalError) : List Evaluation.ActiveCall :=
  error.chain.filterMap call?

end EvalError

/-- A function of the host does not crash, however often the host was called before. -/
def HostFunction.Steady (function : HostFunction) : Prop :=
  ∀ arguments earlier message, (function.behaviour arguments).result earlier ≠ .crash message

/-- A function that is one of the host does not crash. -/
def Function.Steady : Function → Prop
  | .builtin (.host function) => function.Steady
  | _ => True

namespace Evaluation

namespace Step

/-- A function of a script is called with as many arguments as it has parameters. -/
def CallsFitting (step : Step) : Prop :=
  step.fuel ≠ 0 ∧
    ∃ position callee arguments, step.task = .call position (.user callee) arguments ∧
      arguments.length = callee.parameters.length

/-- A function of a script is called, though as many calls are active as may be. -/
def Refused (step : Step) : Prop :=
  step.CallsFitting ∧ step.environment.options.depthLimit ≤ step.state.depth

/-- A function of the host is called and crashes. -/
def CrashesHost (step : Step) : Prop :=
  ∃ position function arguments message,
    step.task = .call position (.builtin (.host function)) arguments ∧
      function.resultIn arguments step.state = .crash message

/-- How a step can fail on its own. -/
def Originates (step : Step) : Failure → Prop
  | .error (.failed _ (.depthExceeded ..)) => step.Refused
  | .error (.failed ..) => True
  | .error (.host _) => True
  | .error (.inFunction ..) => False
  | .crash _ => step.CrashesHost
  | .outOfFuel => True

/-- How a step can end on its own. -/
def Allows {Result : Type} (step : Step) (outcome : Outcome Result) : Prop :=
  outcome.Ends (fun _ _ => True) fun failure _ => step.Originates failure

end Step

section Plans

variable (fuel : Nat) (environment : Environment) (state : State)

theorem allows_interruption {Result : Type} {step : Step} (position : Position) :
    step.Allows (.fail (interruption environment position) state : Outcome Result) := by
  simp only [interruption]
  cases environment.cancellation.reason <;> trivial

theorem leaves_planExpr {step : Step} (expression : Expr) :
    (Task.planExpr environment state expression).Leaves step.Allows := by
  cases expression with
  | name identifier =>
      show step.Allows (readVariable identifier state)
      unfold readVariable
      split <;> trivial
  | binary operator left right =>
      intro first between second final
      show step.Allows (applyOperator operator left.position first second final)
      unfold applyOperator
      split <;> trivial
  | call function arguments =>
      simp only [Task.planExpr]
      split
      · exact allows_interruption ..
      · split
        · trivial
        · exact fun _ _ _ _ => trivial
  | literal text value place =>
      trivial
  | null place =>
      trivial
  | _ =>
      exact fun _ _ => trivial

theorem allows_argumentFault
    {Result : Type}
    {step : Step}
    {callee : Builtin}
    {arguments : List Value}
    {fault : EvalFault}
    (found : callee.argumentFault? arguments = some fault)
    (position : Position) :
    step.Allows (.fail (.failedAt position fault) state : Outcome Result) := by
  simp only [Builtin.argumentFault?] at found
  split at found
  · cases found
    trivial
  · obtain ⟨⟨number, parameter, argument⟩, -, rfl⟩ := Option.map_eq_some_iff.mp found
    trivial

theorem leaves_planCall
    (position : Position)
    (arguments : List Value)
    (function : Function) :
    (Task.planCall environment state position arguments function).Leaves
      (Step.mk (fuel + 1) environment (.call position function arguments) state).Allows := by
  cases function with
  | user callee =>
      simp only [Task.planCall]
      split
      · trivial
      · next fitting =>
          split
          · next tooDeep =>
              exact ⟨⟨Nat.succ_ne_zero fuel, position, callee, arguments, rfl,
                Decidable.not_not.mp fitting⟩, tooDeep⟩
          · intro signal final
            cases signal <;> trivial
  | builtin callee =>
      simp only [Task.planCall]
      cases found : callee.argumentFault? arguments with
      | some fault =>
          exact allows_argumentFault state found position
      | none =>
          cases callee with
          | host inner =>
              show Step.Allows _ (HostFunction.call ..)
              unfold HostFunction.call
              cases comesTo : inner.resultIn arguments state with
              | crash message =>
                  exact ⟨position, inner, arguments, message, rfl, comesTo⟩
              | _ =>
                  trivial
          | standard inner =>
              exact fun _ _ => trivial

theorem leaves_planScript {step : Step} (position : Position) (text : String) :
    (Task.planScript environment state position text).Leaves step.Allows := by
  unfold Task.planScript
  split
  · trivial
  · split
    · trivial
    · exact fun _ _ => trivial

theorem leaves_planStmt {step : Step} (statement : Stmt) :
    (Task.planStmt environment state statement).Leaves step.Allows := by
  cases statement with
  | assign defines name value =>
      intro result final
      cases defines with
      | true =>
          trivial
      | false =>
          show step.Allows (writeVariable name result final)
          unfold writeVariable
          split <;> trivial
  | forEach key bound body place =>
      intro value between
      show Plan.Leaves _ (Plan.given (loopElements bound.position value between) _)
      unfold loopElements
      split
      · trivial
      · split
        · exact fun _ _ => trivial
        · trivial
  | «return» value place =>
      cases value with
      | none =>
          trivial
      | some value =>
          exact fun _ _ => trivial
  | control kind place =>
      cases kind <;> trivial
  | _ =>
      exact fun _ _ => trivial

theorem leaves_afterRound
    {step : Step}
    {next : State → Plan Signal}
    (leaves : ∀ between, (next between).Leaves step.Allows)
    (signal : Signal)
    (between : State) :
    (Task.afterRound next signal between).Leaves step.Allows := by
  cases signal with
  | returned value =>
      trivial
  | broke =>
      trivial
  | _ =>
      exact leaves between

theorem allows_hoist
    (step : Step)
    (origin : Nat)
    (items : List Item) :
    step.Allows (hoist origin items state) := by
  induction items generalizing state with
  | nil =>
      trivial
  | cons first rest inductionHypothesis =>
      cases first with
      | function declaration =>
          simp only [hoist, defineFunction]
          split
          · exact inductionHypothesis _
          · trivial
          · split
            · exact inductionHypothesis _
            · trivial
      | type declaration =>
          exact inductionHypothesis _
      | statement inner =>
          exact inductionHypothesis _

/-- A task that no step fails for fails in one of these ways, if it does. -/
theorem leaves_plan (task : Task) :
    (task.plan environment state).Leaves (Step.mk (fuel + 1) environment task state).Allows := by
  cases task with
  | expr expression =>
      exact leaves_planExpr environment state expression
  | exprs expressions =>
      cases expressions with
      | nil =>
          trivial
      | cons first rest =>
          exact fun _ _ _ _ => trivial
  | truth expression =>
      intro value final
      dsimp only
      split <;> trivial
  | call position function arguments =>
      exact leaves_planCall fuel environment state position arguments function
  | standard position function arguments =>
      cases function with
      | length =>
          show Step.Allows _ (lengthCall ..)
          unfold lengthCall
          split <;> trivial
      | runScript =>
          exact fun _ _ => trivial
      | _ =>
          trivial
  | nested position text =>
      exact leaves_planScript environment state position text
  | stmts statements =>
      cases statements with
      | nil =>
          trivial
      | cons first rest =>
          intro signal between
          cases signal with
          | normal =>
              exact fun _ _ => trivial
          | _ =>
              trivial
  | stmt statement =>
      exact leaves_planStmt environment state statement
  | choice branches =>
      cases branches with
      | nil =>
          trivial
      | cons first rest =>
          intro holds between
          cases holds <;> exact fun _ _ => trivial
  | forLoop position key statements elements =>
      simp only [Task.plan]
      split
      · trivial
      · split
        · exact allows_interruption ..
        · exact leaves_afterRound fun _ _ _ => trivial
  | whileLoop position condition statements =>
      simp only [Task.plan]
      split
      · exact allows_interruption ..
      · intro holds between
        cases holds with
        | true =>
            exact leaves_afterRound fun _ _ _ => trivial
        | false =>
            trivial
  | topLevel items =>
      rcases items with _ | ⟨inner | inner | inner, rest⟩
      · trivial
      · exact fun _ _ => trivial
      · exact fun _ _ => trivial
      · exact fun _ _ _ _ => trivial
  | file script =>
      have allowed := allows_hoist state ⟨fuel + 1, environment, .file script, state⟩
        script.origin script.file.items
      simp only [Task.plan]
      revert allowed
      rcases hoist script.origin script.file.items state with
        ⟨_, hoisted⟩ | ⟨error | message | _, final⟩
      · exact fun _ _ _ => trivial
      · exact id
      · rintro ⟨_, _, _, _, ⟨⟩, -⟩
      · exact id

end Plans

namespace Step

/-- A step that takes no step that fails ends on its own. -/
theorem allows_outcome
    {step : Step}
    (noneFails : ∀ taken ∈ step.substeps, ¬ taken.Fails) :
    step.Allows step.outcome := by
  rw [step.outcome_eq]
  have noneFailing (taken : Step) (member : taken ∈ step.substeps) (failure : Failure)
      (final : State) : taken.outcome ≠ .fail failure final :=
    fun fails => noneFails taken member ⟨failure, final, fails⟩
  rcases step with ⟨_ | fuel, environment, task, state⟩
  · trivial
  · exact (leaves_plan fuel environment state task).outcome noneFailing

end Step

section Relay

variable {environment : Environment} {task : Task} {failure : Failure} {state final : State}

/-- How an error is passed on: the call of a function wraps it, unless it says that calls are
nested too deeply. -/
inductive Task.PassesOn (task : Task) (cause : EvalError) : EvalError → Prop where
  | unchanged
      (kept : task.opens = [] ∨ cause.exceedsDepth = true) :
      PassesOn task cause cause
  | wrapped {position : Position} {name : String}
      (active : task.opens = [⟨position, name⟩])
      (shallow : cause.exceedsDepth = false) :
      PassesOn task cause (.inFunction position name cause)

/-- A script that a script runs does not pass on an error. -/
theorem ne_nested_of_relay
    {error : EvalError}
    (relayed : task.relay environment failure state = .fail (.error error) final)
    (position : Position)
    (text : String) :
    task ≠ .nested position text := by
  rintro rfl
  cases failure <;> cases relayed

/-- A step that fails with an error has passed on an error, or is a file in which the host
crashed. -/
theorem relay_eq_error
    {error : EvalError}
    (relayed : task.relay environment failure state = .fail (.error error) final) :
    (∃ cause, failure = .error cause ∧ task.PassesOn cause error) ∨
      ∃ position message, failure = .crash message ∧ error = .failed position (.crash message) := by
  cases task with
  | call position function arguments =>
      cases function with
      | user callee =>
          rcases failure with cause | message | _
          · simp only [Task.relay, callResult] at relayed
            split at relayed
            · next tooDeep =>
                cases relayed
                exact .inl ⟨error, rfl, .unchanged (.inr tooDeep)⟩
            · next notTooDeep =>
                cases relayed
                exact .inl ⟨cause, rfl, .wrapped rfl (Bool.eq_false_iff.mpr notTooDeep)⟩
          · cases relayed
          · cases relayed
      | builtin callee =>
          cases relayed
          exact .inl ⟨error, rfl, .unchanged (.inl rfl)⟩
  | nested position text =>
      cases failure <;> cases relayed
  | file script =>
      rcases failure with cause | message | _
      · cases relayed
        exact .inl ⟨error, rfl, .unchanged (.inl rfl)⟩
      · cases relayed
        exact .inr ⟨_, message, rfl, rfl⟩
      · cases relayed
  | _ =>
      cases relayed
      exact .inl ⟨error, rfl, .unchanged (.inl rfl)⟩

/-- A crash is passed on by all but files. -/
theorem relay_eq_crash
    {message : String}
    (relayed : task.relay environment failure state = .fail (.crash message) final) :
    failure = .crash message ∧ ∀ script, task ≠ .file script := by
  constructor
  · cases task with
    | call position function arguments =>
        cases function with
        | user callee =>
            rcases failure with cause | message | _
            · simp only [Task.relay, callResult] at relayed
              split at relayed <;> cases relayed
            · cases relayed
              rfl
            · cases relayed
        | builtin callee =>
            cases relayed
            rfl
    | nested position text =>
        cases failure <;> cases relayed
        rfl
    | file script =>
        cases failure <;> cases relayed
    | _ =>
        cases relayed
        rfl
  · rintro script rfl
    cases failure <;> cases relayed

end Relay

namespace Step

/-- No function of the host that a step can call crashes. -/
structure Steady (step : Step) : Prop where
  functions : step.state.functions.All Function.Steady
  task :
    ∀ position function arguments, step.task = .call position function arguments →
      function.Steady

/-- A file turns the crash of its host into an error. -/
theorem ne_crash_of_file
    {step : Step}
    {script : Script}
    (runs : step.task = .file script)
    (message : String)
    (final : State) :
    step.outcome ≠ .fail (.crash message) final := by
  rcases step with ⟨fuel, environment, task, state⟩
  subst runs
  intro crashes
  have ends := runFile_ends fuel environment script state
  rw [show runFile fuel environment script state = .fail (.crash message) final from crashes] at ends
  rcases ends with ranOut | ⟨error, failed⟩
  · cases ranOut
  · cases failed

/-- What a steady step takes is steady, unless it is a script with a session of its own. -/
theorem Edge.steady
    {step taken : Step}
    (edge : step.Edge taken)
    (steady : step.Steady)
    (notNested : ∀ position text, step.task ≠ .nested position text) :
    taken.Steady := by
  cases edge with
  | part part sameEnvironment alongside =>
      refine ⟨alongside.functions ▸ steady.functions, fun position function arguments calls => ?_⟩
      rw [calls] at part
      generalize step.task = whole at part
      cases part with
      | callee found =>
          exact steady.functions _ _ found
  | body calls executes sameEnvironment sameFunctions deeper allowed =>
      refine ⟨sameFunctions ▸ steady.functions, fun position function arguments called => ?_⟩
      rw [executes] at called
      cases called
  | @content script runs executes sameEnvironment hoists =>
      have hoisted := all_hoist script.origin script.file.items steady.functions
        fun _ _ => trivial
      rw [hoists] at hoisted
      refine ⟨hoisted, fun position function arguments called => ?_⟩
      rw [executes] at called
      cases called
  | nested runs =>
      exact (notNested _ _ runs).elim

theorem Edge.file_of_nested
    {step taken : Step}
    {position : Position}
    {text : String}
    (edge : step.Edge taken)
    (nests : step.task = .nested position text) :
    ∃ script, taken.task = .file script := by
  cases edge with
  | part part =>
      rw [nests] at part
      cases part
  | body calls =>
      cases nests.symm.trans calls
  | content runs =>
      cases nests.symm.trans runs
  | nested runs executes =>
      exact ⟨_, executes⟩

/-- A steady step does not crash. -/
theorem Steady.ne_crash
    {step : Step}
    (steady : step.Steady)
    (message : String)
    (final : State) :
    step.outcome ≠ .fail (.crash message) final := by
  induction step using Step.induction generalizing final with
  | steps step inductionHypothesis =>
      intro crashes
      by_cases failing : ∃ taken ∈ step.substeps, taken.Fails
      · obtain ⟨taken, member, failure, between, fails⟩ := failing
        obtain ⟨after, relayed⟩ := outcome_of_fail member fails
        obtain ⟨rfl, notFile⟩ := relay_eq_crash (relayed.symm.trans crashes)
        by_cases nests : ∃ position text, step.task = .nested position text
        · obtain ⟨position, text, nests⟩ := nests
          obtain ⟨script, runs⟩ := (edge_of_mem member).file_of_nested nests
          exact ne_crash_of_file runs message between fails
        · exact inductionHypothesis taken member
            ((edge_of_mem member).steady steady fun position text runs =>
              nests ⟨position, text, runs⟩) between fails
      · have allowed := allows_outcome fun taken member fails => failing ⟨taken, member, fails⟩
        rw [crashes] at allowed
        obtain ⟨position, function, arguments, message, calls, crashed⟩ := allowed
        exact steady.task _ _ _ calls arguments step.state.hostCalls message crashed

/-- A step fails because of a step that is taken during it, and that fails, as do all on the way
to it.  The calls are those that became active on the way and still are, outermost first. -/
inductive FailsBy (start : Step) : List ActiveCall → Step → Prop where
  | here :
      start.Fails →
      FailsBy start [] start
  | takes {calls : List ActiveCall} {step taken : Step} :
      FailsBy start calls step →
      taken ∈ step.substeps →
      taken.Fails →
      FailsBy start (calls ++ step.task.opens) taken

theorem FailsBy.leads
    {start step : Step}
    {calls : List ActiveCall}
    (fails : start.FailsBy calls step) :
    start.Leads calls step := by
  induction fails with
  | here =>
      exact .here
  | takes _ member _ inductionHypothesis =>
      exact .takes inductionHypothesis member

theorem FailsBy.of_taken
    {start taken step : Step}
    {calls : List ActiveCall}
    (fails : start.Fails)
    (member : taken ∈ start.substeps)
    (later : taken.FailsBy calls step) :
    start.FailsBy (start.task.opens ++ calls) step := by
  induction later with
  | here takenFails =>
      rw [List.append_nil]
      exact .takes (.here fails) member takenFails
  | takes _ laterMember laterFails inductionHypothesis =>
      rw [← List.append_assoc]
      exact .takes inductionHypothesis laterMember laterFails

/-- The failure of a step arises in a step that takes no step that fails. -/
structure Arises (start : Step) (calls : List ActiveCall) (origin : Step) : Prop where
  fails : start.FailsBy calls origin
  original : ∀ taken ∈ origin.substeps, ¬ taken.Fails

/-- Every failure arises somewhere. -/
theorem exists_arises
    {start : Step}
    (fails : start.Fails) :
    ∃ calls origin, start.Arises calls origin := by
  induction start using Step.induction with
  | steps start inductionHypothesis =>
      by_cases failing : ∃ taken ∈ start.substeps, taken.Fails
      · obtain ⟨taken, member, takenFails⟩ := failing
        obtain ⟨calls, origin, arises⟩ := inductionHypothesis taken member takenFails
        exact ⟨_, origin, .of_taken fails member arises.fails, arises.original⟩
      · exact ⟨[], start, .here fails, fun taken member takenFails =>
          failing ⟨taken, member, takenFails⟩⟩

/-- Along the steps by which a steady step fails, one error is passed on. -/
theorem FailsBy.passes_on
    {start step : Step}
    {calls : List ActiveCall}
    {error : EvalError}
    {final : State}
    (failsBy : start.FailsBy calls step)
    (steady : start.Steady)
    (failed : start.outcome = .fail (.error error) final) :
    step.Steady ∧
      ∃ cause between, step.outcome = .fail (.error cause) between ∧
        (error.exceedsDepth = false →
          cause.exceedsDepth = false ∧ error.calls = calls ++ cause.calls) ∧
        (error.exceedsDepth = true → cause = error) := by
  induction failsBy with
  | here =>
      exact ⟨steady, error, final, failed, fun shallow => ⟨shallow, rfl⟩, fun _ => rfl⟩
  | @takes calls step taken _ member takenFails inductionHypothesis =>
      obtain ⟨stepSteady, cause, between, stepFailed, isShallow, isDeep⟩ := inductionHypothesis
      obtain ⟨failure, earlier, takenFailed⟩ := takenFails
      obtain ⟨after, relayed⟩ := outcome_of_fail member takenFailed
      have relays := relayed.symm.trans stepFailed
      have takenSteady := (edge_of_mem member).steady stepSteady (ne_nested_of_relay relays)
      refine ⟨takenSteady, ?_⟩
      rcases relay_eq_error relays with ⟨earlierCause, rfl, passesOn⟩ | ⟨_, message, rfl, -⟩
      · refine ⟨earlierCause, earlier, takenFailed, ?_⟩
        cases passesOn with
        | unchanged kept =>
            refine ⟨fun shallow => ?_, isDeep⟩
            obtain ⟨causeShallow, callsEq⟩ := isShallow shallow
            have noCall := kept.resolve_right (by simp [causeShallow])
            exact ⟨causeShallow, by rw [callsEq, noCall, List.append_nil]⟩
        | @wrapped position name active causeShallow =>
            refine ⟨fun shallow => ⟨causeShallow, ?_⟩, fun deep => ?_⟩
            · rw [(isShallow shallow).2, active, List.append_assoc]
              rfl
            · have causeDeep : earlierCause.exceedsDepth = true := by
                rw [← isDeep deep] at deep
                exact deep
              simp [causeShallow] at causeDeep
      · exact (takenSteady.ne_crash message earlier takenFailed).elim

/-- The error of a steady step is wrapped with the calls that were active where it arose.  One that
says that calls are nested too deeply is not wrapped at all. -/
theorem Arises.calls_eq
    {start origin : Step}
    {calls : List ActiveCall}
    {error : EvalError}
    {final : State}
    (arises : start.Arises calls origin)
    (steady : start.Steady)
    (failed : start.outcome = .fail (.error error) final) :
    (error.exceedsDepth = false → error.calls = calls) ∧
      (error.exceedsDepth = true → error.calls = [] ∧ error.chain.length = 1) := by
  obtain ⟨-, cause, between, originFailed, isShallow, isDeep⟩ :=
    arises.fails.passes_on steady failed
  have allowed := allows_outcome arises.original
  rw [originFailed] at allowed
  cases cause with
  | failed position fault =>
      refine ⟨fun shallow => ?_, fun deep => ?_⟩
      · rw [(isShallow shallow).2]
        exact List.append_nil calls
      · rw [← isDeep deep]
        exact ⟨rfl, rfl⟩
  | host text =>
      refine ⟨fun shallow => ?_, fun deep => ?_⟩
      · rw [(isShallow shallow).2]
        exact List.append_nil calls
      · rw [← isDeep deep]
        exact ⟨rfl, rfl⟩
  | inFunction position name cause =>
      exact allowed.elim

/-- A step evaluates a call, written at the position of a call and of a function of its name. -/
def Evaluates (step : Step) (call : ActiveCall) : Prop :=
  ∃ function arguments callee,
    step.task = .expr (.call function arguments) ∧ function.position = call.position ∧
      step.state.functions[function.text]? = some (.user callee) ∧ callee.name = call.name

/-- A call of a function is made by an expression that is evaluated while the same calls are
active. -/
theorem Leads.evaluates
    {start step : Step}
    {calls : List ActiveCall}
    {script : Script}
    {position : Position}
    {callee : UserFunction}
    {arguments : List Value}
    (leads : start.Leads calls step)
    (runs : start.task = .file script)
    (called : step.task = .call position (.user callee) arguments) :
    ∃ caller, start.Leads calls caller ∧ caller.Evaluates ⟨position, callee.name⟩ := by
  cases leads with
  | here =>
      cases runs.symm.trans called
  | @takes calls caller _ earlier member =>
      cases edge_of_mem member with
      | part part =>
          rw [part.opens_eq, List.append_nil]
          rw [called] at part
          generalize whole : caller.task = task at part
          cases part with
          | callee found =>
              exact ⟨caller, earlier, _, _, callee, whole, rfl, found, rfl⟩
      | body _ executes =>
          cases called.symm.trans executes
      | content _ executes =>
          cases called.symm.trans executes
      | nested _ executes =>
          cases called.symm.trans executes

/-- Every active call was made by an expression that was evaluated while the calls outside of it
were active. -/
theorem Leads.started
    {start step : Step}
    {calls outer inner : List ActiveCall}
    {script : Script}
    {call : ActiveCall}
    (leads : start.Leads calls step)
    (runs : start.task = .file script)
    (split : calls = outer ++ call :: inner) :
    ∃ caller, start.Leads outer caller ∧ caller.Evaluates call := by
  induction leads generalizing inner with
  | here =>
      simp at split
  | @takes calls step taken earlier _ inductionHypothesis =>
      rcases Task.opens_cases step.task with closed | ⟨position, callee, arguments, called⟩
      · rw [closed, List.append_nil] at split
        exact inductionHypothesis split
      · rw [called] at split
        change calls ++ [⟨position, callee.name⟩] = outer ++ call :: inner at split
        rcases List.eq_nil_or_concat inner with rfl | ⟨others, last, rfl⟩
        · obtain ⟨rfl, ⟨⟩⟩ := List.append_inj' split rfl
          exact earlier.evaluates runs called
        · rw [List.concat_eq_append, ← List.cons_append, ← List.append_assoc] at split
          exact inductionHypothesis (List.append_inj' split rfl).1

end Step

end Evaluation

namespace Ending

/-- The error with which a run fails. -/
def runningError? : Ending → Option EvalError
  | .failed (.running error) => some error
  | _ => none

theorem of_runningError?
    {ending : Ending}
    {error : EvalError}
    (found : ending.runningError? = some error) :
    ending = .failed (.running error) := by
  unfold runningError? at found
  split at found
  · cases found
    rfl
  · cases found

end Ending

namespace Session

/-- A run is a step, and leaves behind the state in which it ends. -/
theorem run_eq_execution (session : Session) (limits : Limits) (script : Script) :
    session.run limits script =
      session.execution (session.firstStep limits [] script).outcome.state
        (.ofOutcome (session.firstStep limits [] script).outcome) :=
  session.runAfter_eq limits [] script

/-- A run that fails with an error is a step that fails with it. -/
theorem outcome_of_run_failed
    {session : Session}
    {limits : Limits}
    {script : Script}
    {error : EvalError}
    (failed : (session.run limits script).ending = .failed (.running error)) :
    ∃ final, (session.firstStep limits [] script).outcome = .fail (.error error) final := by
  rw [run_eq_execution] at failed
  revert failed
  rcases (session.firstStep limits [] script).outcome with
    ⟨_, final⟩ | ⟨cause | message | _, final⟩
  · nofun
  · rintro ⟨⟩
    exact ⟨final, rfl⟩
  · nofun
  · nofun

/-- The functions that the errors of a failed run name are those of the calls that were active when
the failure arose, outermost first, each at the position of the call.  An error that says that calls
are nested too deeply names no function. -/
theorem error_chain_is_call_stack
    {session : Session}
    {limits : Limits}
    {script : Script}
    {error : EvalError}
    (steady : session.functions.All Function.Steady)
    (failed : (session.run limits script).ending = .failed (.running error)) :
    (∃ calls origin, (session.firstStep limits [] script).Arises calls origin) ∧
      (error.exceedsDepth = false →
        ∀ calls origin, (session.firstStep limits [] script).Arises calls origin →
          error.calls = calls ∧
            ∀ outer call inner, calls = outer ++ call :: inner →
              ∃ caller, (session.firstStep limits [] script).Leads outer caller ∧
                caller.Evaluates call) ∧
      (error.exceedsDepth = true → error.calls = [] ∧ error.chain.length = 1) := by
  obtain ⟨final, ended⟩ := outcome_of_run_failed failed
  have steadyStart : (session.firstStep limits [] script).Steady := ⟨steady, nofun⟩
  obtain ⟨calls, origin, arises⟩ :=
    Evaluation.Step.exists_arises ⟨.error error, final, ended⟩
  refine ⟨⟨calls, origin, arises⟩, fun shallow calls origin arises => ⟨?_, ?_⟩, fun deep => ?_⟩
  · exact (arises.calls_eq steadyStart ended).1 shallow
  · intro outer call inner split
    exact arises.fails.leads.started rfl split
  · exact (arises.calls_eq steadyStart ended).2 deep

/-- A host with a function that always fails. -/
def fetching : Options :=
  { Options.usual with
    hostFunctions := [⟨"fetch", [], fun _ => .failure "no connection"⟩] }

/-- A script in which the function that fails is called two calls deep, for the argument of a third
one. -/
def fetchingScript : String :=
  "fun twice(n) \x7b return n + n \x7d\nfun load(n) \x7b return n + fetch() \x7d\n" ++
    "fun show(n) \x7b\n  for k in (1...2) \x7b print(twice(load(twice(n)))) \x7d\n\x7d\nshow(3)"

/-- The host of the script does not crash. -/
theorem steady_of_fetching
    {session : Session}
    {script : Script}
    (reads : reading? fetching fetchingScript = some (session, script)) :
    session.functions.All Function.Steady := by
  obtain ⟨created, isCreated, parsed⟩ := of_reading? reads
  obtain ⟨_, _, _, _, _, _, rfl⟩ := parse_eq_ok parsed
  have steady : created.functions.All Function.Steady := by
    refine all_of_create isCreated (fun _ => trivial) fun function member => ?_
    cases List.mem_singleton.mp member
    exact fun _ _ _ => nofun
  exact steady

/-- The failure of the script arises while two of its three functions are active. -/
theorem fetch_fails_two_calls_deep :
    ∃ session script calls origin,
      reading? fetching fetchingScript = some (session, script) ∧
        (session.firstStep (.still 40) [] script).Arises calls origin ∧
        calls.map Evaluation.ActiveCall.name = ["show", "load"] := by
  have checked :
      (reading? fetching fetchingScript).any (fun (session, script) =>
        (session.run (.still 40) script).ending.runningError?.any fun error =>
          decide (error.exceedsDepth = false ∧
            error.calls.map Evaluation.ActiveCall.name = ["show", "load"])) = true := by
    decide +kernel
  obtain ⟨⟨session, script⟩, reads, failing⟩ := (Option.any_eq_true _ _).mp checked
  obtain ⟨error, found, holds⟩ := (Option.any_eq_true _ _).mp failing
  obtain ⟨shallow, named⟩ := of_decide_eq_true holds
  obtain ⟨⟨calls, origin, arises⟩, isStack, -⟩ :=
    error_chain_is_call_stack (steady_of_fetching reads) (Ending.of_runningError? found)
  obtain ⟨callsEq, -⟩ := isStack shallow calls origin arises
  exact ⟨session, script, calls, origin, reads, arises, callsEq ▸ named⟩

end Session

end Scripting
