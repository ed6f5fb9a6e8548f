import Scripting.Proofs.Evaluation.History
import Scripting.Session.Run

namespace Scripting

/-!
# Scripts that scripts run

A script that a script runs sees nothing of the script that runs it, and leaves nothing behind but
what it printed and logged, and how often it turned to the clocks, to the context and to the host.
What it prints and what it answers follow from its text, from the options other than the global
variables, from what the host answers, and from the moment when the run is cancelled.
-/

/-- What stays the same while a script runs that a script runs. -/
def Environment.nested (environment : Environment) : Environment :=
  { environment with
    options := { environment.options with globals := ∅ }
    logger := environment.logger.map fun logger => logger.within Standard.runScript.name }

/-- Two places from which scripts are run under the same conditions: the options differ at most in
the global variables, the functions of the host answer alike, and from then on the context is done
after the same numbers of looks and lines and for the same reason. -/
structure Environment.Hosts (first : Environment) (state : State) (second : Environment)
    (other : State) : Prop where
  options : { second.options with globals := ∅ } = { first.options with globals := ∅ }
  logger : second.logger = first.logger
  hosts : ∀ function ∈ first.options.hostFunctions, function.AnswersAlike ⟨state, other⟩
  reason : second.cancellation.reason = first.cancellation.reason
  happened :
    ∀ looks lines,
      second.cancellation.happened (other.contextLooks + looks) (other.output.size + lines) =
        first.cancellation.happened (state.contextLooks + looks) (state.output.size + lines)

/-- A run is cancelled in both places at the same moment. -/
theorem Environment.Hosts.cancelled
    {first second : Environment}
    {state other final finalOther : State}
    (hosts : first.Hosts state second other)
    (since : final.Since ⟨state, other⟩ finalOther) :
    second.cancelled finalOther = first.cancelled final := by
  obtain ⟨⟨printed, finalOutput, otherOutput⟩, ⟨looks, finalLooks, otherLooks⟩, -⟩ := since
  simp only [Environment.cancelled, finalOutput, otherOutput, finalLooks, otherLooks,
    Array.size_append]
  exact hosts.happened looks printed.size

/-- Scripts that are run under the same conditions run in environments that are alike. -/
theorem Environment.Hosts.nested
    {first second : Environment}
    {state other : State}
    (hosts : first.Hosts state second other) :
    first.nested.Echoes ⟨state, other⟩ second.nested where
  options := hosts.options
  logger := by simp only [Environment.nested, hosts.logger]
  reason := hosts.reason
  cancelled := fun since => hosts.cancelled since
  hosts := hosts.hosts

/-- A step has left its caller's variables, functions and depth of calls as they were. -/
structure State.Undisturbed (state final : State) : Prop where
  scopes : final.scopes = state.scopes
  functions : final.functions = state.functions
  depth : final.depth = state.depth

/-- A session keeps from a state what it would have kept before the step; only the host may have been
called more often. -/
theorem State.Undisturbed.after
    {state final : State}
    (undisturbed : state.Undisturbed final)
    (session : Session) :
    session.after final = { session.after state with hostCalls := final.hostCalls } := by
  simp only [Session.after, undisturbed.scopes, undisturbed.functions]

namespace Evaluation

/-- Call the function that runs a script. -/
def callScript (fuel : Nat) (environment : Environment) (position : Position) (text : String)
    (state : State) : Outcome Value :=
  callFunction fuel environment position (.builtin (.standard .runScript)) [.string text] state

/-- A call with enough fuel to start runs the script, and logs how long it took. -/
theorem callScript_eq
    (fuel : Nat)
    (environment : Environment)
    (position : Position)
    (text : String)
    (state : State) :
    callScript (fuel + 2) environment position text state =
      (runScript fuel environment position text state).afterwards fun final =>
        final.note (logged environment.logger .timing (.callTook Standard.runScript.name)) :=
  rfl

section Caller

variable (environment : Environment) (position : Position) (text : String) (state : State)

theorem undisturbed_runScript (fuel : Nat) :
    state.Undisturbed (runScript fuel environment position text state).state := by
  cases fuel with
  | zero =>
      exact ⟨rfl, rfl, rfl⟩
  | succ fuel =>
      simp only [runScript]
      split
      · exact ⟨rfl, rfl, rfl⟩
      · split
        · exact ⟨rfl, rfl, rfl⟩
        · generalize runFile fuel _ _ _ = outcome
          rcases outcome with ⟨_, final⟩ | ⟨error | message | _, final⟩ <;> exact ⟨rfl, rfl, rfl⟩

/-- A call of a script leaves its caller as it was, however the script ends. -/
theorem undisturbed_callScript (fuel : Nat) :
    state.Undisturbed (callScript fuel environment position text state).state := by
  match fuel with
  | 0 =>
      exact ⟨rfl, rfl, rfl⟩
  | 1 =>
      exact ⟨rfl, rfl, rfl⟩
  | fuel + 2 =>
      rw [callScript_eq, Outcome.state_afterwards]
      have undisturbed := undisturbed_runScript environment position text state fuel
      exact ⟨undisturbed.scopes, undisturbed.functions, undisturbed.depth⟩

end Caller

/-- A file that crashes the host fails with an error. -/
theorem runFile_ends
    (fuel : Nat)
    (environment : Environment)
    (script : Script)
    (state : State) :
    (runFile fuel environment script state).Ends (fun _ _ => True)
      (fun failure _ => failure = .outOfFuel ∨ ∃ error, failure = .error error) := by
  cases fuel with
  | zero =>
      exact .inl rfl
  | succ fuel =>
      simp only [runFile]
      generalize (hoist script.origin script.file.items state).andThen _ = outcome
      rcases outcome with ⟨_, final⟩ | ⟨error | message | _, final⟩
      · trivial
      · exact .inr ⟨error, rfl⟩
      · exact .inr ⟨_, rfl⟩
      · exact .inl rfl

/-- What a script answers to the script that runs it: nothing, or a message. -/
def IsAnswer (value : Value) : Prop :=
  value = .null ∨ ∃ message, value = .string message

/-- The functions of the host that can be had for a session can be had for the scripts in it. -/
theorem exists_create_nested
    {environment : Environment}
    {functions : FunctionTable}
    (registers :
      FunctionTable.registerAll standardFunctions environment.options.hostFunctions =
        .ok functions) :
    ∃ session,
      Session.create environment.nested.options environment.nested.logger = .ok session := by
  have registersNested :
      FunctionTable.registerAll standardFunctions environment.nested.options.hostFunctions =
        .ok functions :=
    registers
  rw [Session.create, registersNested]
  exact ⟨_, rfl⟩

section Nested

variable {environment : Environment} {session : Session}
  (created :
    Session.create environment.nested.options environment.nested.logger = .ok session)
  (fuel : Nat) (position : Position) (text : String) (state : State)

include created

/-- A script is read and run in a session of its own. -/
theorem runScript_succ :
    runScript (fuel + 1) environment position text state =
      match session.parse Standard.runScript.name text with
      | (records, .error error) => .ok (.string error.message) (state.note records)
      | (records, .ok (script, session)) =>
          scriptResult state
            (runFile fuel environment.nested script (state.enterScript session records)) := by
  rw [Environment.nested] at created
  simp only [runScript, created]
  rfl

/-- A script whose session can be had fails only for lack of fuel. -/
theorem runScript_ends :
    (runScript fuel environment position text state).Ends (fun value _ => IsAnswer value)
      (fun failure _ => failure = .outOfFuel) := by
  cases fuel with
  | zero =>
      rfl
  | succ fuel =>
      rw [runScript_succ created]
      split
      · exact .inr ⟨_, rfl⟩
      · next records script started _ =>
          have ends := runFile_ends fuel environment.nested script
            (state.enterScript started records)
          revert ends
          generalize runFile fuel _ script _ = outcome
          rcases outcome with ⟨_, final⟩ | ⟨error | message | _, final⟩
          · exact fun _ => .inl rfl
          · exact fun _ => .inr ⟨_, rfl⟩
          · rintro (ranOut | ⟨error, failed⟩)
            · cases ranOut
            · cases failed
          · exact fun _ => rfl

end Nested

theorem clockLooks_scriptResult (state : State) (outcome : Outcome Unit) :
    (scriptResult state outcome).state.clockLooks = outcome.state.clockLooks := by
  rcases outcome with ⟨_, final⟩ | ⟨error | message | _, final⟩ <;> rfl

/-- The answers of scripts that went alike are the same. -/
theorem scriptResult_agrees
    {start : Start}
    {outcome ending : Outcome Unit}
    (agrees : outcome.Agrees (State.Echoes start) ending)
    (state other : State) :
    (scriptResult state outcome).Agrees (State.PrintsAlike start) (scriptResult other ending) := by
  cases agrees with
  | ok echoes =>
      exact .ok echoes.since.1
  | @fail failure final finalOther echoes =>
      cases failure with
      | error error =>
          exact .ok echoes.since.1
      | crash message =>
          exact .fail echoes.since.1
      | outOfFuel =>
          exact .fail echoes.since.1

/-- Scripts that are run under the same conditions print the same lines and end in the same way. -/
theorem runScript_agrees
    {first second : Environment}
    {state other : State}
    {session : Session}
    (hosts : first.Hosts state second other)
    (created : Session.create first.nested.options first.nested.logger = .ok session)
    (fuel : Nat)
    (position place : Position)
    (text : String)
    (unclocked :
      (runScript fuel first position text state).state.clockLooks = state.clockLooks) :
    (runScript fuel first position text state).Agrees
      (State.PrintsAlike ⟨state, other⟩)
      (runScript fuel second place text other) := by
  have createdOther :
      Session.create second.nested.options second.nested.logger = .ok session := by
    rw [hosts.nested.options, hosts.nested.logger, created]
  cases fuel with
  | zero =>
      exact .fail (.refl state other)
  | succ fuel =>
      rw [runScript_succ created] at unclocked ⊢
      rw [runScript_succ createdOther]
      split at unclocked
      · exact .ok (State.PrintsAlike.refl state other)
      · next records script started parsed =>
          have answersAlike := hosts.nested.answersAlike rfl created parsed
          have begun : (state.enterScript started records).Echoes ⟨state, other⟩
              (other.enterScript started records) :=
            ⟨rfl, rfl, rfl, .refl state other, answersAlike⟩
          rw [clockLooks_scriptResult] at unclocked
          have simulated := (echoes_sameFuel fuel).runFile hosts.nested script
            (state.enterScript started records)
          exact scriptResult_agrees
            (simulated.agrees begun unclocked (Outcome.counts_everything _)) state other

/-- What is logged after a call is not printed. -/
theorem agrees_note
    {start : Start}
    {outcome ending : Outcome Value}
    (agrees : outcome.Agrees (State.PrintsAlike start) ending)
    (records otherRecords : List LogRecord) :
    (outcome.afterwards fun final => final.note records).Agrees (State.PrintsAlike start)
      (ending.afterwards fun final => final.note otherRecords) := by
  cases agrees with
  | ok alike =>
      exact .ok alike
  | fail alike =>
      exact .fail alike

/-- A call of a script whose session can be had fails only for lack of fuel. -/
theorem callScript_ends
    {environment : Environment}
    {session : Session}
    (created :
      Session.create environment.nested.options environment.nested.logger = .ok session)
    (fuel : Nat)
    (position : Position)
    (text : String)
    (state : State) :
    (callScript fuel environment position text state).Ends (fun value _ => IsAnswer value)
      (fun failure _ => failure = .outOfFuel) := by
  match fuel with
  | 0 =>
      rfl
  | 1 =>
      rfl
  | fuel + 2 =>
      rw [callScript_eq, Outcome.ends_afterwards]
      exact runScript_ends created fuel position text state

/-- Calls of a script under the same conditions print the same lines and end in the same way. -/
theorem callScript_agrees
    {first second : Environment}
    {state other : State}
    {session : Session}
    (hosts : first.Hosts state second other)
    (created : Session.create first.nested.options first.nested.logger = .ok session)
    (fuel : Nat)
    (position place : Position)
    (text : String)
    (unclocked :
      (callScript fuel first position text state).state.clockLooks = state.clockLooks) :
    (callScript fuel first position text state).Agrees
      (State.PrintsAlike ⟨state, other⟩)
      (callScript fuel second place text other) := by
  match fuel with
  | 0 =>
      exact .fail (.refl _ _)
  | 1 =>
      exact .fail (.refl _ _)
  | fuel + 2 =>
      rw [callScript_eq, Outcome.state_afterwards] at unclocked
      rw [callScript_eq, callScript_eq]
      exact agrees_note (runScript_agrees hosts created fuel position place text unclocked) _ _

/-- A script that is called from two places under the same conditions leaves both callers and their
sessions as they were, but for the number of calls of the host.  If it does not look at a clock, it
prints the same lines for both and gives both the same answer, or runs on for both. -/
theorem callScript_isolated
    {first second : Environment}
    {state other : State}
    {functions : FunctionTable}
    (hosts : first.Hosts state second other)
    (registers :
      FunctionTable.registerAll standardFunctions first.options.hostFunctions = .ok functions)
    (fuel : Nat)
    (position place : Position)
    (text : String) :
    let here := callScript fuel first position text state
    let there := callScript fuel second place text other
    (state.Undisturbed here.state ∧
        ∀ session : Session,
          session.after here.state =
            { session.after state with hostCalls := here.state.hostCalls }) ∧
      (other.Undisturbed there.state ∧
        ∀ session : Session,
          session.after there.state =
            { session.after other with hostCalls := there.state.hostCalls }) ∧
      (here.state.clockLooks = state.clockLooks →
        here.state.PrintsAlike ⟨state, other⟩ there.state ∧
          ((∃ answer, IsAnswer answer ∧ here = .ok answer here.state ∧
              there = .ok answer there.state) ∨
            (here = .fail .outOfFuel here.state ∧ there = .fail .outOfFuel there.state))) := by
  intro here there
  have undisturbedHere : state.Undisturbed here.state :=
    undisturbed_callScript first position text state fuel
  have undisturbedThere : other.Undisturbed there.state :=
    undisturbed_callScript second place text other fuel
  refine ⟨⟨undisturbedHere, undisturbedHere.after⟩, ⟨undisturbedThere, undisturbedThere.after⟩, ?_⟩
  intro unclocked
  obtain ⟨session, created⟩ := exists_create_nested registers
  have ends : here.Ends (fun value _ => IsAnswer value) (fun failure _ => failure = .outOfFuel) :=
    callScript_ends created fuel position text state
  have agrees : here.Agrees (State.PrintsAlike ⟨state, other⟩) there :=
    callScript_agrees hosts created fuel position place text unclocked
  generalize here = outcome at ends agrees ⊢
  generalize there = ending at agrees ⊢
  cases agrees with
  | @ok answer final finalOther alike =>
      exact ⟨alike, .inl ⟨answer, ends, rfl, rfl⟩⟩
  | @fail failure final finalOther alike =>
      obtain rfl : failure = .outOfFuel := ends
      exact ⟨alike, .inr ⟨rfl, rfl⟩⟩

/-- A script that prints, runs another script, and fails for a variable that is not its own. -/
def pryingScript : String :=
  "print(len(\"in\"))\nprint(nerve_run(\"print(secret)\"))\nprint(secret)"

/-- A caller at the start of a run, which may print three lines. -/
def freshCaller : Environment × State :=
  (⟨.usual, none, ⟨fun _ => 0, fun _ => 0⟩, .afterLines 3⟩,
    ⟨.empty "global", ∅, 0, #[], #[], 0, 0, 0⟩)

/-- A caller deep inside a run, with a secret, which may print four lines and has printed one. -/
def deepCaller : Environment × State :=
  (⟨{ Options.usual with globals := (∅ : Table Value).insert "secret" (.boolean true) }, none,
      ⟨fun _ => 1, fun _ => 1⟩, .afterLines 4⟩,
    ⟨((ScopeChain.empty "global").define "secret" ⟨.boolean true, false⟩).push "for loop",
      standardFunctions, 1999, #["before"], #[], 5, 7, 9⟩)

/-- The script that pries learns nothing from either caller. -/
theorem pryingScript_isolated :
    ∃ answer here there,
      callScript 40 freshCaller.1 .none pryingScript freshCaller.2 = .ok answer here ∧
        callScript 40 deepCaller.1 .none pryingScript deepCaller.2 = .ok answer there ∧
        answer.text = "nerve_run:3:7: variable secret is not defined" ∧
        there.output.toList = "before" :: here.output.toList ∧
        there.depth = 1999 := by
  have hosts : freshCaller.1.Hosts freshCaller.2 deepCaller.1 deepCaller.2 := by
    refine ⟨rfl, rfl, nofun, rfl, fun looks lines => ?_⟩
    simp [freshCaller, deepCaller, Cancellation.afterLines]
    omega
  have unclocked :
      (callScript 40 freshCaller.1 .none pryingScript freshCaller.2).state.clockLooks = 0 := by
    decide +kernel
  have answered :
      (match callScript 40 freshCaller.1 .none pryingScript freshCaller.2 with
        | .ok answer _ => some answer.text
        | .fail _ _ => none) = some "nerve_run:3:7: variable secret is not defined" := by
    decide +kernel
  obtain ⟨-, ⟨undisturbed, -⟩, alike⟩ :=
    callScript_isolated hosts rfl 40 .none .none pryingScript
  obtain ⟨⟨printed, hereOutput, thereOutput⟩, ⟨answer, -, hereEq, thereEq⟩ | ⟨hereEq, -⟩⟩ :=
    alike unclocked
  · refine ⟨answer, _, _, hereEq, thereEq, ?_, ?_, undisturbed.depth⟩
    · rw [hereEq] at answered
      exact Option.some.inj answered
    · rw [hereOutput, thereOutput]
      simp [freshCaller, deepCaller]
  · rw [hereEq] at answered
    cases answered

end Evaluation

end Scripting
