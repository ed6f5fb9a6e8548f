import Scripting.Proofs.Evaluation.Keeping

namespace Scripting

/-!
# The variables of a caller

A function sees the global variables and its arguments, and nothing of the scopes that are open
where it is called.  So a call does the same whatever these scopes hold, and leaves them as they
are.  What an expression does to variables it does by calls, and so it changes at most the values
of mutable global variables.
-/

namespace State

/-- The state with other scopes above the global one. -/
def withLocals (state : State) (frames : List (Frame Variable)) : State :=
  { state with scopes := { state.scopes with inner := frames } }

@[simp] theorem depth_withLocals (state : State) (frames : List (Frame Variable)) :
    (state.withLocals frames).depth = state.depth :=
  rfl

@[simp] theorem hostCalls_withLocals (state : State) (frames : List (Frame Variable)) :
    (state.withLocals frames).hostCalls = state.hostCalls :=
  rfl

/-- A body starts in the same state, whatever scopes its caller has. -/
@[simp] theorem enterCall_withLocals
    (state : State)
    (frames : List (Frame Variable))
    (function : UserFunction)
    (arguments : List Value) :
    (state.withLocals frames).enterCall function arguments = state.enterCall function arguments :=
  rfl

/-- After a call its caller has its own scopes again. -/
@[simp] theorem leaveCall_withLocals (caller : State) (frames : List (Frame Variable)) :
    (caller.withLocals frames).leaveCall =
      fun state => (caller.leaveCall state).withLocals frames :=
  rfl

/-- An inner script starts without the frames of its caller. -/
@[simp] theorem enterScript_withLocals
    (state : State)
    (frames : List (Frame Variable))
    (session : Session)
    (records : List LogRecord) :
    (state.withLocals frames).enterScript session records = state.enterScript session records :=
  rfl

end State

namespace Evaluation

section WithLocals

variable (fuel : Nat) (environment : Environment) (position : Position) (state : State)
  (frames : List (Frame Variable))

/-- The frames of the caller are there again after an inner script. -/
theorem scriptResult_withLocals (outcome : Outcome Unit) :
    scriptResult (state.withLocals frames) outcome =
      (scriptResult state outcome).afterwards fun final => final.withLocals frames := by
  rcases outcome with ⟨_, final⟩ | ⟨error | message | _, final⟩ <;> rfl

/-- An inner script runs alike whatever the frames of its caller. -/
theorem runScript_withLocals (text : String) :
    runScript fuel environment position text (state.withLocals frames) =
      (runScript fuel environment position text state).afterwards
        fun final => final.withLocals frames := by
  cases fuel with
  | zero =>
      rfl
  | succ fuel =>
      simp only [runScript]
      split
      · rfl
      · split
        · rfl
        · rw [State.enterScript_withLocals]
          exact scriptResult_withLocals state frames _

/-- No standard function looks at the frames of its caller. -/
theorem callStandard_withLocals (function : Standard) (arguments : List Value) :
    callStandard fuel environment position function arguments (state.withLocals frames) =
      (callStandard fuel environment position function arguments state).afterwards
        fun final => final.withLocals frames := by
  cases fuel with
  | zero =>
      rfl
  | succ fuel =>
      cases function with
      | length =>
          simp only [callStandard, lengthCall]
          split <;> rfl
      | runScript =>
          exact runScript_withLocals fuel environment position state frames _
      | _ =>
          rfl

/-- A call neither reads nor writes the scopes of its caller. -/
theorem callFunction_withLocals (function : Function) (arguments : List Value) :
    callFunction fuel environment position function arguments (state.withLocals frames) =
      (callFunction fuel environment position function arguments state).afterwards
        fun final => final.withLocals frames := by
  cases fuel with
  | zero =>
      rfl
  | succ fuel =>
      cases function with
      | user callee =>
          simp only [callFunction]
          split
          · rfl
          · by_cases tooDeep : environment.options.depthLimit ≤ state.depth
            · simp only [State.depth_withLocals, tooDeep, ↓reduceIte]
              rfl
            · simp only [State.depth_withLocals, State.enterCall_withLocals,
                State.leaveCall_withLocals, tooDeep, ↓reduceIte]
              generalize callResult position callee.name _ = outcome
              cases outcome <;> rfl
      | builtin callee =>
          simp only [callFunction]
          split
          · rfl
          · cases callee with
            | host inner =>
                simp only [HostFunction.call, HostFunction.resultIn, State.hostCalls_withLocals]
                cases (inner.behaviour arguments).result state.hostCalls <;> rfl
            | standard inner =>
                dsimp only
                rw [callStandard_withLocals]
                generalize callStandard fuel environment position inner arguments state = outcome
                cases outcome <;> rfl

end WithLocals

/-- Whatever an expression does, and however it ends, the variables of all scopes but the global
one are as they were, as are the functions and the depth of calls.  No global variable is added or
removed or changes its mutability, and only mutable ones have other values.  Nor does a call that it
makes depend on those scopes. -/
theorem evalExpr_leaves_locals
    (fuel : Nat)
    (environment : Environment)
    (expression : Expr)
    (state : State) :
    let final := (evalExpr fuel environment expression state).state
    final.scopes.inner = state.scopes.inner ∧
      final.functions = state.functions ∧
      final.depth = state.depth ∧
      (∀ name,
        (final.scopes.outer.find? name).map Variable.mutable =
          (state.scopes.outer.find? name).map Variable.mutable) ∧
      (∀ name,
        final.scopes.outer.find? name ≠ state.scopes.outer.find? name →
          ∃ entry, state.scopes.outer.find? name = some entry ∧ entry.mutable = true) ∧
      ∀ position function arguments frames,
        callFunction fuel environment position function arguments (state.withLocals frames) =
          (callFunction fuel environment position function arguments state).afterwards
            fun final => final.withLocals frames := by
  have kept := (preserves fuel).evalExpr environment expression state
  refine ⟨kept.inner, kept.functions, kept.depth, fun name => ?_, fun name changed => ?_,
    fun position function arguments frames =>
      callFunction_withLocals fuel environment position state frames function arguments⟩
  · have entryKept := kept.outer name
    revert entryKept
    generalize state.scopes.outer.find? name = before
    generalize (evalExpr fuel environment expression state).state.scopes.outer.find? name = after
    rintro (entryKept | _)
    · exact congrArg some entryKept.1
    · rfl
  · have entryKept := kept.outer name
    revert entryKept changed
    generalize state.scopes.outer.find? name = before
    generalize (evalExpr fuel environment expression state).state.scopes.outer.find? name = after
    rintro changed (entryKept | _)
    · next first second =>
        refine ⟨first, rfl, ?_⟩
        by_contra immutable
        exact changed (congrArg some (entryKept.2 (Bool.eq_false_iff.mpr immutable)))
    · exact (changed rfl).elim

end Evaluation

end Scripting
