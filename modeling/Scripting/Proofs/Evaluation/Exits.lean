import Scripting.Proofs.Evaluation.Functions
import Scripting.Proofs.Evaluation.Signals
import Scripting.Proofs.Parser.Lawfulness
import Scripting.Proofs.Session.Agreement

namespace Scripting

/-!
# No signal leaves its construct

The parser lets functions be returned from only inside of functions, and loops be left or continued
only inside of loops of the same function.  So wherever a script gets to, in its own functions, in
those of scripts before it and in scripts that it runs, a statement ends only with signals that
something around it waits for: the loop or the call that they are meant for.
-/

/-- Whether a statement is a loop. -/
def Stmt.isLoop : Stmt → Bool
  | .forEach .. => true
  | .whileLoop .. => true
  | _ => false

/-- The signal of a loop control. -/
def LoopControl.signal : LoopControl → Signal
  | .leave => .broke
  | .next => .continued

/-- What a call gives when its body ends with a signal. -/
def Signal.result : Signal → Value
  | .returned value => value
  | _ => .null

/-- Something around a place waits for a signal. -/
def Signal.Awaited (place : Parser.Place) : Signal → Prop
  | .normal => True
  | .returned _ => place.inFunction = true
  | .broke => place.inLoop = true
  | .continued => place.inLoop = true

/-- The statements of a function stand where they may. -/
def Function.Placed : Function → Prop
  | .user callee => ∃ grammar, callee.declaration.body.Allowed grammar ⟨true, false⟩
  | .builtin _ => True

namespace Script

/-- The parser accepts the file of a script. -/
def Accepted (script : Script) : Prop :=
  ∃ grammar known tokens, (parseTokens grammar known tokens).outcome = .ok script.file

/-- The statements of a script stand where they may. -/
def Placed (script : Script) : Prop :=
  ∀ item ∈ script.file.items, ∃ grammar, item.Allowed grammar

theorem Accepted.placed {script : Script} (accepted : script.Accepted) : script.Placed := by
  obtain ⟨grammar, known, tokens, isOk⟩ := accepted
  obtain ⟨final, reads, -⟩ := parseTokens_eq_ok isOk
  exact fun item member => ⟨grammar, reads.allowed item member⟩

end Script

/-- A script that a session accepts is accepted by the parser. -/
theorem Session.accepted_of_parse
    {session after : Session}
    {name text : String}
    {script : Script}
    (parsed : (session.parse name text).2 = .ok (script, after)) :
    script.Accepted := by
  unfold parse at parsed
  split at parsed
  · cases parsed
  · next tokens scanned =>
      simp only at parsed
      split at parsed
      · cases parsed
      · next result isParsed =>
          cases parsed
          unfold Session.parseTokens at isParsed
          simp only at isParsed
          split at isParsed
          · cases isParsed
          · next file isOk =>
              cases isParsed
              exact ⟨_, _, _, isOk⟩

namespace Evaluation

/-- The statements of a task stand where they may, if the task is done at a place. -/
def Task.Allowed (place : Parser.Place) : Task → Prop
  | .stmts statements => ∃ grammar, Stmt.AllowedAll grammar place statements
  | .stmt statement => ∃ grammar, statement.Allowed grammar place
  | .choice branches => ∃ grammar, Branch.AllowedAll grammar place branches
  | .forLoop _ _ statements _ =>
      ∃ grammar, Stmt.AllowedAll grammar { place with inLoop := true } statements
  | .whileLoop _ _ statements =>
      ∃ grammar, Stmt.AllowedAll grammar { place with inLoop := true } statements
  | .call _ function _ => function.Placed
  | .topLevel items => ∀ item ∈ items, ∃ grammar, item.Allowed grammar
  | .file script => script.Placed
  | _ => True

theorem allowedAll_statements
    {grammar : Grammar}
    {place : Parser.Place}
    {body : Block}
    (allowed : body.Allowed grammar place) :
    Stmt.AllowedAll grammar place body.statements := by
  cases body
  exact allowed

section Parts

variable {functions : FunctionTable} {whole task : Task} {place : Parser.Place}

/-- In the same round, statements stand at the same place. -/
theorem Task.Parts.allowed_sameRound
    (part : whole.Parts functions task)
    (isStatement : whole.isStatement = true)
    (isPart : task.isStatement = true)
    (sameRound : whole.isLoop = true → task.isLoop = true)
    (allowed : whole.Allowed place) :
    task.Allowed place := by
  cases part with
  | firstStmt =>
      obtain ⟨grammar, first, -⟩ := allowed
      exact ⟨grammar, first⟩
  | otherStmts =>
      obtain ⟨grammar, -, others⟩ := allowed
      exact ⟨grammar, others⟩
  | choice =>
      exact allowed
  | forLoop =>
      obtain ⟨grammar, body⟩ := allowed
      exact ⟨grammar, allowedAll_statements body⟩
  | whileLoop =>
      obtain ⟨grammar, body⟩ := allowed
      exact ⟨grammar, allowedAll_statements body⟩
  | @branchBody first rest =>
      cases first
      obtain ⟨grammar, body, -⟩ := allowed
      exact ⟨grammar, allowedAll_statements body⟩
  | @otherBranches first rest =>
      cases first
      obtain ⟨grammar, -, others⟩ := allowed
      exact ⟨grammar, others⟩
  | forAgain =>
      exact allowed
  | whileAgain =>
      exact allowed
  | forRound =>
      cases sameRound rfl
  | whileRound =>
      cases sameRound rfl
  | _ =>
      trivial

/-- The statements of a round stand in a loop. -/
theorem Task.Parts.allowed_round
    (part : whole.Parts functions task)
    (isLoop : whole.isLoop = true)
    (isPart : task.isStatement = true)
    (notLoop : task.isLoop = false)
    (allowed : whole.Allowed place) :
    task.Allowed { place with inLoop := true } := by
  cases part with
  | forRound =>
      exact allowed
  | whileRound =>
      exact allowed
  | _ =>
      trivial

/-- What is done for no statement, or for a statement of a file, stands in nothing. -/
theorem Task.Parts.allowed_outside
    (part : whole.Parts functions task)
    (placed : functions.All Function.Placed)
    (outside : ¬ (whole.isStatement = true ∧ task.isStatement = true))
    (allowed : whole.Allowed place) :
    task.Allowed ⟨false, false⟩ := by
  cases part with
  | callee found =>
      exact placed _ _ found
  | statement =>
      exact allowed _ (List.mem_cons_self ..)
  | otherItems =>
      exact fun item member => allowed item (List.mem_cons_of_mem _ member)
  | _ =>
      first | trivial | exact (outside ⟨rfl, rfl⟩).elim

end Parts

namespace Step

variable {start step taken : Step} {calls : List ActiveCall} {place : Parser.Place}

/-- A step is taken in a round of a loop, while the same calls are active, and in no other round of
a loop during that one. -/
def InRound (start : Step) (calls : List ActiveCall) (step : Step) : Prop :=
  ∃ loop body, start.Leads calls loop ∧ loop.task.isLoop = true ∧ body ∈ loop.substeps ∧
    body.task.isStatement = true ∧ body.task.isLoop = false ∧ body.Encloses step

/-- The functions that a step can call are placed, and so is what it does.  Where it stands in a
loop, it is taken in a round of one. -/
structure Located (start : Step) (calls : List ActiveCall) (step : Step) : Prop where
  functions : step.state.functions.All Function.Placed
  place :
    ∃ place, step.task.Allowed place ∧ (place.inLoop = true → start.InRound calls step)

theorem TakesStatement.parts
    (takes : step.TakesStatement taken) :
    step.task.Parts step.state.functions taken.task := by
  have isStatement := takes.whole
  cases edge_of_mem takes.member with
  | part part =>
      exact part
  | body isCall =>
      rw [isCall] at isStatement
      cases isStatement
  | content isFile =>
      rw [isFile] at isStatement
      cases isStatement
  | nested isNested =>
      rw [isNested] at isStatement
      cases isStatement

theorem Located.of_part
    (located : start.Located calls step)
    (leads : start.Leads calls step)
    (member : taken ∈ step.substeps)
    (part : step.task.Parts step.state.functions taken.task)
    (alongside : step.state.Alongside taken.state) :
    start.Located calls taken := by
  refine ⟨alongside.functions ▸ located.functions, ?_⟩
  obtain ⟨place, allowed, inRound⟩ := located.place
  by_cases isStatement : step.task.isStatement = true ∧ taken.task.isStatement = true
  · have takes : step.TakesStatement taken := ⟨member, isStatement.1, isStatement.2⟩
    by_cases sameRound : step.task.isLoop = true → taken.task.isLoop = true
    · refine ⟨place, part.allowed_sameRound takes.whole takes.part sameRound allowed, ?_⟩
      intro inLoop
      obtain ⟨loop, body, leadsLoop, isLoop, isRound, isBody, notLoop, encloses⟩ := inRound inLoop
      exact ⟨loop, body, leadsLoop, isLoop, isRound, isBody, notLoop,
        encloses.tail ⟨takes, sameRound⟩⟩
    · -- Here a round starts: the step is its loop, and the step that it takes the body.
      obtain ⟨isLoop, notLoop⟩ := Classical.not_imp.mp sameRound
      have notLoop := Bool.eq_false_iff.mpr notLoop
      exact ⟨_, part.allowed_round isLoop takes.part notLoop allowed, fun _ =>
        ⟨step, taken, leads, isLoop, member, takes.part, notLoop, .refl⟩⟩
  · exact ⟨⟨false, false⟩, part.allowed_outside located.functions isStatement allowed, nofun⟩

/-- Wherever a step leads to, statements stand where they may. -/
theorem Leads.located
    (leads : start.Leads calls step)
    (placed : start.Located [] start) :
    start.Located calls step := by
  induction leads with
  | here =>
      exact placed
  | @takes calls step taken earlier member inductionHypothesis =>
      cases edge_of_mem member with
      | part part _ alongside =>
          rw [part.opens_eq, List.append_nil]
          exact inductionHypothesis.of_part earlier member part alongside
      | body isCall isBody _ sameFunctions =>
          refine ⟨sameFunctions ▸ inductionHypothesis.functions, ⟨true, false⟩, ?_, nofun⟩
          obtain ⟨place, allowed, -⟩ := inductionHypothesis.place
          rw [isCall] at allowed
          rw [isBody]
          obtain ⟨grammar, body⟩ := allowed
          exact ⟨grammar, allowedAll_statements body⟩
      | @content script isFile isContent _ hoists =>
          obtain ⟨place, allowed, -⟩ := inductionHypothesis.place
          rw [isFile] at allowed
          have functions := all_hoist script.origin script.file.items
            inductionHypothesis.functions fun declaration member => allowed _ member
          rw [hoists] at functions
          refine ⟨functions, ⟨false, false⟩, ?_, nofun⟩
          rw [isContent]
          exact allowed
      | @nested _ _ session started script records _ isFile _ created parsed enters =>
          have parsed : (session.parse Standard.runScript.name _).2 = .ok (script, started) :=
            congrArg Prod.snd parsed
          refine ⟨?_, ⟨false, false⟩, ?_, nofun⟩
          · obtain ⟨_, _, _, _, _, _, rfl⟩ := Session.parse_eq_ok parsed
            rw [enters]
            exact Session.all_of_create created (fun _ => trivial) fun _ _ => trivial
          · rw [isFile]
            exact (Session.accepted_of_parse parsed).placed

/-- Where a statement ends early, something around it waits for its signal. -/
theorem EndsWith.awaited
    {signal : Signal}
    {final : State}
    (ends : step.EndsWith signal final)
    (allowed : step.task.Allowed place) :
    signal.Awaited place := by
  induction step using Step.induction generalizing place final with
  | steps step inductionHypothesis =>
      by_cases early : signal = .normal
      · rw [early]
        trivial
      · rcases ends.source early with
          ⟨statement, isStatement, exits⟩ | ⟨taken, takes, ⟨between, takenEnds⟩, passes⟩
        · rw [isStatement] at allowed
          obtain ⟨grammar, allowed⟩ := allowed
          cases exits <;> exact allowed
        · by_cases sameRound : step.task.isLoop = true → taken.task.isLoop = true
          · exact inductionHypothesis taken takes.member takenEnds
              (takes.parts.allowed_sameRound takes.whole takes.part sameRound allowed)
          · obtain ⟨isLoop, notLoop⟩ := Classical.not_imp.mp sameRound
            -- Only a return gets out of a round, and it is awaited there as it is around the loop.
            obtain ⟨value, rfl⟩ := passes.resolve_left fun same => notLoop (same.round isLoop)
            have allowedRound := takes.parts.allowed_round isLoop takes.part
              (Bool.eq_false_iff.mpr notLoop) allowed
            have awaited := inductionHypothesis taken takes.member takenEnds allowedRound
            exact awaited

/-- A step that executes statements fails or ends with a signal. -/
theorem fails_or_endsWith (isStatement : step.task.isStatement = true) :
    step.Fails ∨ ∃ signal final, step.EndsWith signal final := by
  have ended (outcome : Outcome Signal) (same : step.ending? = some outcome)
      (fails : ∀ failure final, outcome = .fail failure final → step.Fails) :
      step.Fails ∨ ∃ signal final, step.EndsWith signal final := by
    cases outcome with
    | ok signal final =>
        exact .inr ⟨signal, final, same⟩
    | fail failure final =>
        exact .inl (fails failure final rfl)
  rcases step with ⟨fuel, environment, task, state⟩
  cases task
  case stmts | stmt | choice | forLoop | whileLoop =>
    exact ended _ rfl fun failure final fails => ⟨failure, final, fails⟩
  all_goals cases isStatement

/-- A call of a function of a script gives a value. -/
def Gives (step : Step) (value : Value) : Prop :=
  match step.task, step.outcome with
  | .call _ (.user _) _, outcome => ∃ final, outcome = .ok value final
  | _, _ => False

/-- A body runs off its end, executes a bare return, or executes a return whose value is null. -/
def GivesNothing (body : Step) : Prop :=
  (∃ final, body.EndsWith .normal final) ∨
    (∃ reached place, body.Executes reached ∧ reached.task = .stmt (.return none place)) ∨
    ∃ reached value place final, body.Executes reached ∧
      reached.task = .stmt (.return (some value) place) ∧ reached.EndsWith (.returned .null) final

/-- A step ends normally or with a return. -/
def EndsOrReturns (step : Step) : Prop :=
  (∃ final, step.EndsWith .normal final) ∨ ∃ value final, step.EndsWith (.returned value) final

/-- A return is executed during a step, outside of any call that it makes. -/
def ExecutesReturn (step : Step) : Prop :=
  ∃ reached value place, step.Executes reached ∧ reached.task = .stmt (.return value place)

/-- A step ends the round of a loop in which it is taken, while the same calls are active.  On the
way out of the round only scopes are closed, and after it the loop ends or goes on as it does
after a round with that signal. -/
def EndsRound (start : Step) (calls : List ActiveCall) (step : Step) (signal : Signal) : Prop :=
  ∃ loop body scopes,
    start.Leads calls loop ∧ loop.task.isLoop = true ∧ body ∈ loop.substeps ∧
      body.Encloses step ∧
      body.EndsWith signal (State.leave^[scopes] step.state) ∧
      loop.AfterRound signal (State.leave^[scopes] step.state)

/-- Signals do not get past the construct that they are meant for. -/
structure Confines (start : Step) (calls : List ActiveCall) (step : Step) : Prop where
  /-- A statement of a file ends normally. -/
  topLevel :
    ∀ items, step.task = .topLevel items →
      ∀ taken ∈ step.substeps, taken.task.isStatement = true →
        taken.Fails ∨ ∃ final, taken.EndsWith .normal final
  /-- The body of a function ends normally or with a return. -/
  body :
    ∀ position callee arguments, step.task = .call position (.user callee) arguments →
      ∀ body ∈ step.substeps, body.Fails ∨ body.EndsOrReturns
  /-- A call gives null exactly if its body gives nothing. -/
  result :
    ∀ value, step.Gives value →
      (value = .null ↔ ∃ body ∈ step.substeps, body.GivesNothing)
  /-- A loop ends normally or with a return, and with a return exactly if one of its own is
  executed. -/
  loop :
    ∀ statement, step.task = .stmt statement → statement.isLoop = true →
      step.Fails ∨
        step.EndsOrReturns ∧
          ((∃ value final, step.EndsWith (.returned value) final) ↔ step.ExecutesReturn)
  /-- A loop control ends the round of a loop in which it is executed. -/
  control :
    ∀ kind place, step.task = .stmt (.control kind place) →
      step.Fails ∨ start.EndsRound calls step kind.signal

theorem Located.topLevel
    {items : List Item}
    (located : start.Located calls step)
    (isTopLevel : step.task = .topLevel items)
    (member : taken ∈ step.substeps)
    (isStatement : taken.task.isStatement = true) :
    taken.Fails ∨ ∃ final, taken.EndsWith .normal final := by
  obtain ⟨place, allowed, -⟩ := located.place
  have outside : ¬ (step.task.isStatement = true ∧ taken.task.isStatement = true) := by
    rw [isTopLevel]
    nofun
  cases edge_of_mem member with
  | part part =>
      rcases fails_or_endsWith isStatement with fails | ⟨signal, final, ends⟩
      · exact .inl fails
      · have awaited := ends.awaited (part.allowed_outside located.functions outside allowed)
        cases signal with
        | normal =>
            exact .inr ⟨final, ends⟩
        | _ =>
            cases awaited
  | body isCall =>
      cases isTopLevel.symm.trans isCall
  | content isFile =>
      cases isTopLevel.symm.trans isFile
  | nested isNested =>
      cases isTopLevel.symm.trans isNested

theorem Located.body
    {position : Position}
    {callee : UserFunction}
    {arguments : List Value}
    (located : start.Located calls step)
    (isCall : step.task = .call position (.user callee) arguments)
    (member : taken ∈ step.substeps) :
    taken.Fails ∨ taken.EndsOrReturns := by
  obtain ⟨place, allowed, -⟩ := located.place
  cases edge_of_mem member with
  | part part =>
      rw [isCall] at part
      cases part
  | body calls executes =>
      cases isCall.symm.trans calls
      rw [isCall] at allowed
      obtain ⟨grammar, body⟩ := allowed
      have bodyAllowed : taken.task.Allowed ⟨true, false⟩ := by
        rw [executes]
        exact ⟨grammar, allowedAll_statements body⟩
      have isStatement : taken.task.isStatement = true := by
        rw [executes]
        rfl
      rcases fails_or_endsWith isStatement with fails | ⟨signal, final, ends⟩
      · exact .inl fails
      · have awaited := ends.awaited bodyAllowed
        cases signal with
        | normal =>
            exact .inr (.inl ⟨final, ends⟩)
        | returned value =>
            exact .inr (.inr ⟨value, final, ends⟩)
        | _ =>
            cases awaited
  | content isFile =>
      cases isCall.symm.trans isFile
  | nested isNested =>
      cases isCall.symm.trans isNested

theorem callResult_eq_ok
    {position : Position}
    {name : String}
    {outcome : Outcome Signal}
    {value : Value}
    {final : State}
    (gives : callResult position name outcome = .ok value final) :
    ∃ signal, outcome = .ok signal final ∧ value = signal.result := by
  rcases outcome with ⟨signal, state⟩ | ⟨error | message | _, state⟩
  · cases signal <;> cases gives <;> exact ⟨_, rfl, rfl⟩
  · simp only [callResult] at gives
    split at gives <;> cases gives
  · cases gives
  · cases gives

/-- A call that gives a value has executed its body, and gives what that has returned. -/
theorem Gives.body
    {value : Value}
    (gives : step.Gives value) :
    (∃ position callee arguments, step.task = .call position (.user callee) arguments) ∧
      ∃ body signal final, (∀ taken, taken ∈ step.substeps ↔ taken = body) ∧
        body.EndsWith signal final ∧ value = signal.result := by
  rcases step with ⟨fuel, environment, task, state⟩
  cases task with
  | call position function arguments =>
      cases function with
      | builtin callee =>
          cases gives
      | user callee =>
          refine ⟨⟨position, callee, arguments, rfl⟩, ?_⟩
          obtain ⟨final, called⟩ := gives
          change callFunction fuel environment position (.user callee) arguments state =
            .ok value final at called
          cases fuel with
          | zero =>
              cases called
          | succ fuel =>
              simp only [callFunction] at called
              split at called
              · cases called
              · next fitting =>
                  split at called
                  · cases called
                  · next allowed =>
                      obtain ⟨between, called, -⟩ := Outcome.afterwards_eq_ok.mp called
                      obtain ⟨signal, bodyEnds, isResult⟩ := callResult_eq_ok called
                      refine ⟨⟨fuel, environment, .stmts callee.declaration.body.statements,
                        state.enterCall callee arguments⟩, signal, between, fun taken => ?_,
                        congrArg some bodyEnds, isResult⟩
                      show taken ∈ (Task.planCall environment state position arguments
                        (.user callee)).steps fuel ↔ _
                      simp only [Task.planCall, if_neg fitting, if_neg allowed,
                        Plan.mem_steps_takes]
                      simp [Plan.steps]
  | _ =>
      cases gives

theorem Located.result
    {value : Value}
    (located : start.Located calls step)
    (gives : step.Gives value) :
    value = .null ↔ ∃ body ∈ step.substeps, body.GivesNothing := by
  obtain ⟨⟨position, callee, arguments, isCall⟩, body, signal, final, only, ends, rfl⟩ :=
    gives.body
  constructor
  · intro isNull
    have member := (only body).mpr rfl
    refine ⟨body, member, ?_⟩
    rcases located.body isCall member with fails | runsOff | ⟨value, last, returns⟩
    · exact (ends.not_fails fails).elim
    · exact .inl runsOff
    · obtain ⟨rfl, -⟩ := ends.unique returns
      cases isNull
      obtain ⟨reached, returned, place, between, executes, isReturn, returnsNull⟩ :=
        returns.exists_return
      cases returned with
      | none =>
          exact .inr (.inl ⟨reached, place, executes, isReturn⟩)
      | some value =>
          exact .inr (.inr ⟨reached, value, place, between, executes, isReturn, returnsNull⟩)
  · rintro ⟨other, member, nothing⟩
    rw [(only other).mp member] at nothing
    have returnsNull (returns : ∃ last, body.EndsWith (.returned .null) last) :
        signal.result = .null := by
      obtain ⟨last, returns⟩ := returns
      obtain ⟨rfl, -⟩ := ends.unique returns
      rfl
    rcases nothing with ⟨last, runsOff⟩ | ⟨reached, place, executes, isReturn⟩ |
      ⟨reached, returned, place, last, executes, isReturn, returns⟩
    · obtain ⟨rfl, -⟩ := ends.unique runsOff
      rfl
    · obtain ⟨result, last, returns, isNull⟩ :=
        endsWith_of_return isReturn fun fails => ends.not_fails (executes.fails fails)
      obtain rfl := isNull rfl
      exact returnsNull (executes.returns returns)
    · exact returnsNull (executes.returns returns)

theorem loop_ends
    {statement : Stmt}
    (isStmt : step.task = .stmt statement)
    (isLoop : statement.isLoop = true) :
    step.Fails ∨
      step.EndsOrReturns ∧
        ((∃ value final, step.EndsWith (.returned value) final) ↔ step.ExecutesReturn) := by
  have isStatement : step.task.isStatement = true := by
    rw [isStmt]
    rfl
  rcases fails_or_endsWith isStatement with fails | ⟨signal, final, ends⟩
  · exact .inl fails
  refine .inr ⟨?_, ?_, ?_⟩
  · by_cases early : signal = .normal
    · exact .inl ⟨final, early ▸ ends⟩
    · rcases ends.source early with
        ⟨other, isOther, exits⟩ | ⟨taken, takes, ⟨between, takenEnds⟩, -⟩
      · cases isStmt.symm.trans isOther
        cases exits <;> cases isLoop
      · have takenIsLoop : taken.task.isLoop = true := by
          have part := takes.parts
          have isPart := takes.part
          rw [isStmt] at part
          generalize taken.task = task at part isPart
          cases part with
          | forLoop =>
              rfl
          | whileLoop =>
              rfl
          | choice =>
              cases isLoop
          | _ =>
              cases isPart
        rcases takenEnds.of_loop takenIsLoop with isNormal | ⟨value, rfl⟩
        · exact (early isNormal).elim
        · exact .inr ⟨value, final, ends⟩
  · rintro ⟨value, last, returns⟩
    obtain ⟨reached, returned, place, -, executes, isReturn, -⟩ := returns.exists_return
    exact ⟨reached, returned, place, executes, isReturn⟩
  · rintro ⟨reached, returned, place, executes, isReturn⟩
    obtain ⟨value, between, returns, -⟩ :=
      endsWith_of_return isReturn fun fails => ends.not_fails (executes.fails fails)
    exact ⟨value, executes.returns returns⟩

theorem endsWith_of_control
    {kind : LoopControl}
    {position : Position}
    (isControl : step.task = .stmt (.control kind position))
    (succeeds : ¬ step.Fails) :
    step.EndsWith kind.signal step.state := by
  rcases step with ⟨_ | fuel, environment, task, state⟩
  · exact (succeeds ⟨_, _, Task.run_zero environment state task⟩).elim
  · subst isControl
    cases kind <;> rfl

theorem Located.control
    {kind : LoopControl}
    {position : Position}
    (located : start.Located calls step)
    (isControl : step.task = .stmt (.control kind position)) :
    step.Fails ∨ start.EndsRound calls step kind.signal := by
  by_cases fails : step.Fails
  · exact .inl fails
  · obtain ⟨place, allowed, inRound⟩ := located.place
    rw [isControl] at allowed
    obtain ⟨grammar, inLoop⟩ := allowed
    obtain ⟨loop, body, leads, isLoop, member, isBody, notLoop, encloses⟩ := inRound inLoop
    have early : kind.signal ≠ .normal := by
      cases kind <;> nofun
    obtain ⟨scopes, bodyEnds⟩ := encloses.endsWith (endsWith_of_control isControl fails) early
    refine .inr ⟨loop, body, scopes, leads, isLoop, member, encloses, bodyEnds, ?_⟩
    rcases cases_of_loop member isLoop isBody with ⟨-, after⟩ | ⟨isLoopToo, -⟩
    · exact after _ _ bodyEnds
    · cases notLoop.symm.trans isLoopToo

/-- Where statements stand as they may, signals are confined. -/
theorem Located.confines (located : start.Located calls step) : start.Confines calls step where
  topLevel := fun _ isTopLevel _ member isStatement =>
    located.topLevel isTopLevel member isStatement
  body := fun _ _ _ isCall _ member => located.body isCall member
  result := fun _ gives => located.result gives
  loop := fun _ isStmt isLoop => loop_ends isStmt isLoop
  control := fun _ _ isControl => located.control isControl

end Step

end Evaluation

namespace Session

/-- What can become of a session: functions of the host are added, scripts are read, numbered and
run, in any order and however the runs end. -/
inductive Reachable : Session → Prop where
  | created {options : Options} {logger : Option Logger} {session : Session} :
      create options logger = .ok session →
      Reachable session
  | registered {session after : Session} {function : HostFunction} :
      Reachable session →
      session.register function = .ok after →
      Reachable after
  | parsed {session after : Session} {name text : String} {script : Script} :
      Reachable session →
      (session.parse name text).2 = .ok (script, after) →
      Reachable after
  | adopted {session : Session} (file : File) :
      Reachable session →
      Reachable (session.adopt file).2
  | ran {session : Session} {script : Script} (limits : Limits) (records : List LogRecord) :
      Reachable session →
      script.Accepted →
      Reachable (session.runAfter limits records script).session

/-- Whatever has run, the statements of all functions stand where they may. -/
theorem Reachable.placed
    {session : Session}
    (reachable : session.Reachable) :
    session.functions.All Function.Placed := by
  induction reachable with
  | created created =>
      exact all_of_create created (fun _ => trivial) fun _ _ => trivial
  | @registered session after function _ registers inductionHypothesis =>
      unfold register at registers
      cases registered : session.functions.register function with
      | error error =>
          rw [registered] at registers
          cases registers
      | ok functions =>
          rw [registered] at registers
          cases registers
          exact inductionHypothesis.register trivial registered
  | parsed _ parsed inductionHypothesis =>
      obtain ⟨_, _, _, _, _, _, rfl⟩ := parse_eq_ok parsed
      exact inductionHypothesis
  | adopted file _ inductionHypothesis =>
      exact inductionHypothesis
  | @ran session script limits records _ accepted inductionHypothesis =>
      have settled : (session.firstStep limits records script).settled.functions.All
          Function.Placed := by
        rcases limits with ⟨_ | fuel, cancelAfter, clock⟩
        · exact inductionHypothesis
        · exact Evaluation.all_hoist script.origin script.file.items inductionHypothesis
            fun _ member => accepted.placed _ member
      have left := (session.firstStep limits records script).settled_alongside.functions
      rw [runAfter_eq]
      rw [← left] at settled
      exact settled

/-- Wherever the run of an accepted script gets to, signals do not get past the construct that they
are meant for.  Statements of files end normally, bodies of functions normally or with a return,
and so do loops.  A loop control ends the round of the innermost loop around it, in the same call
of the same function. -/
theorem signals_are_confined
    {session : Session}
    {script : Script}
    (reachable : session.Reachable)
    (accepted : script.Accepted)
    (limits : Limits)
    (records : List LogRecord)
    (calls : List Evaluation.ActiveCall)
    (step : Evaluation.Step)
    (leads : (session.firstStep limits records script).Leads calls step) :
    (session.firstStep limits records script).Confines calls step := by
  have placed :
      (session.firstStep limits records script).Located []
        (session.firstStep limits records script) :=
    ⟨reachable.placed, ⟨false, false⟩, accepted.placed, nofun⟩
  exact (leads.located placed).confines

/-- A script whose function leaves its loop from within two other statements. -/
def leavingScript : String :=
  "fun show(n) \x7b\n  for k in (1...9) \x7b\n    if (k == 1) \x7b continue \x7d\n" ++
    "    if (k < n) \x7b print(k) \x7d else \x7b if (k == n) \x7b break \x7d \x7d\n  \x7d\n\x7d\nshow(3)"

/-- Whether a step is to leave a loop. -/
def leavesLoop (step : Evaluation.Step) : Bool :=
  match step.fuel, step.task with
  | _ + 1, .stmt (.control .leave _) => true
  | _, _ => false

theorem of_leavesLoop
    {step : Evaluation.Step}
    (leaves : leavesLoop step = true) :
    (∃ place, step.task = .stmt (.control .leave place)) ∧ ¬ step.Fails := by
  rcases step with ⟨fuel, environment, task, state⟩
  unfold leavesLoop at leaves
  split at leaves
  · next fuel place isStarted isControl =>
      cases isStarted
      cases isControl
      refine ⟨⟨place, rfl⟩, ?_⟩
      rintro ⟨failure, final, ⟨⟩⟩
  · cases leaves

/-- The loop of the script is left, and ends normally. -/
theorem leaving_ends_the_loop :
    ∃ session script calls step loop final,
      reading? .usual leavingScript = some (session, script) ∧
        (session.firstStep (.still 60) [] script).Leads calls step ∧ leavesLoop step = true ∧
        (session.firstStep (.still 60) [] script).Leads calls loop ∧ loop.task.isLoop = true ∧
        loop.EndsWith .normal final := by
  have checked :
      (reading? .usual leavingScript).any (fun (session, script) =>
        !(session.firstStep (.still 60) [] script).throughout (fun step => !leavesLoop step) 60) =
          true := by
    decide +kernel
  obtain ⟨⟨session, script⟩, reads, found⟩ := (Option.any_eq_true _ _).mp checked
  obtain ⟨created, isCreated, parsed⟩ := of_reading? reads
  have somewhere :
      (session.firstStep (.still 60) [] script).throughout (fun step => !leavesLoop step)
        (session.firstStep (.still 60) [] script).fuel = false :=
    Bool.not_eq_true' _ ▸ found
  obtain ⟨calls, step, leads, leaves⟩ :=
    Evaluation.Step.exists_of_throughout_eq_false somewhere
  have confines := signals_are_confined (.parsed (.created isCreated) parsed)
    (accepted_of_parse parsed) (.still 60) [] calls step leads
  have leaves : leavesLoop step = true := by simpa using leaves
  obtain ⟨⟨place, isControl⟩, succeeds⟩ := of_leavesLoop leaves
  rcases confines.control .leave place isControl with
    fails | ⟨loop, body, scopes, leadsLoop, isLoop, -, -, -, ends⟩
  · exact (succeeds fails).elim
  · exact ⟨session, script, calls, step, loop, _, reads, leads, leaves, leadsLoop, isLoop, ends⟩

end Session

end Scripting
