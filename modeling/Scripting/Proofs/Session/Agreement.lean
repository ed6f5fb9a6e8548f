import Scripting.Proofs.Evaluation.Files
import Scripting.Proofs.Evaluation.Functions
import Scripting.Proofs.Session.Declarations

namespace Scripting

/-!
# The parser and the evaluator agree

A session describes its variables and functions twice, to the parser and to the evaluator.  The
two are updated at different moments, and a script can fail at any point between them.  They agree
all the same after every sequence of executions, and this is what makes the checks of the parser
sound for whatever is executed next.
-/

namespace FunctionTable

/-- No function of a table is one of a script. -/
def AllBuiltin (table : FunctionTable) : Prop :=
  ∀ (name : String) function,
    table[name]? = some function → ∃ builtin, function = .builtin builtin

end FunctionTable

namespace Ending

/-- Whether an execution failed while its script ran. -/
def failsRunning : Ending → Bool
  | .finished => false
  | .failed (.reading _) => false
  | .failed (.running _) => true
  | .outOfFuel => false

/-- Whether an execution came to its end. -/
def isFinished : Ending → Bool
  | .finished => true
  | .failed _ => false
  | .outOfFuel => false

theorem eq_finished {ending : Ending} (isFinished : ending.isFinished = true) :
    ending = .finished := by
  cases ending <;> simp_all [Ending.isFinished]

/-- The variable that was not bound, when an execution failed because of one that it read. -/
def unboundVariable? : Ending → Option String
  | .failed (.running error) =>
      match error.origin? with
      | some (.undefinedVariable name) => some name
      | _ => none
  | _ => none

theorem of_unboundVariable?
    {ending : Ending}
    {name : String}
    (fails : ending.unboundVariable? = some name) :
    ∃ error, ending = .failed (.running error) ∧
      error.origin? = some (.undefinedVariable name) := by
  unfold unboundVariable? at fails
  split at fails
  · next error =>
      split at fails
      · next found origin =>
          cases fails
          exact ⟨error, rfl, origin⟩
      · simp at fails
  · simp at fails

end Ending

namespace Session

/-- What the parser knows is true of what the evaluator has. -/
structure Agrees (session : Session) : Prop where
  outermost : session.declared.scope.inner = []
  functions : session.functions.Matches session.declared
  bound : session.global.layout.Within session.declared.scope.outer.layout

/-- Every variable that the parser knows is bound. -/
def Complete (session : Session) : Prop :=
  session.declared.scope.outer.layout.NamesWithin session.global

/-- The parser is told of exactly the functions that there are. -/
theorem getElem?_initialDeclarations
    (options : Options)
    (functions : FunctionTable)
    (name : String) :
    (initialDeclarations options functions).functions[name]? =
      if name ∈ functions.keys then some ⟨none, true⟩ else none := by
  have inserted :
      ∀ (names : List String) (table : Signatures),
        (names.foldl (fun table name => table.insert name ⟨none, true⟩) table)[name]? =
          if name ∈ names then some ⟨none, true⟩ else table[name]? := by
    intro names
    induction names with
    | nil =>
        simp
    | cons first rest inductionHypothesis =>
        intro table
        rw [List.foldl_cons, inductionHypothesis]
        grind
  rw [initialDeclarations, inserted functions.keys ∅]
  simp

/-- The parser is told of exactly the variables of the host. -/
theorem layout_initialDeclarations (options : Options) (functions : FunctionTable) :
    (initialDeclarations options functions).scope.layout =
      ⟨[], (initialFrame options).layout⟩ := by
  have declared :
      ∀ (entries : List (String × Value)) (scope : Scope) (frame : Frame Variable),
        scope.layout = ⟨[], frame.layout⟩ →
        ((entries.map Prod.fst).foldl
            (fun (scope : Scope) name => scope.define name ⟨false, .none⟩) scope).layout =
          ⟨[], (entries.foldl
            (fun frame entry => frame.define entry.1 ⟨entry.2, false⟩) frame).layout⟩ := by
    intro entries
    induction entries with
    | nil =>
        exact fun scope frame sameLayout => sameLayout
    | cons first rest inductionHypothesis =>
        intro scope frame sameLayout
        refine inductionHypothesis _ _ ?_
        rw [ScopeChain.layout_define, sameLayout, Frame.layout_define]
        rfl
  have start : (ScopeChain.empty "global" : Scope).layout =
      ⟨[], (Frame.empty "global" : Frame Variable).layout⟩ := by
    simp [ScopeChain.layout, ScopeChain.empty, ScopeChain.ofFrame]
  have whole := declared options.globals.toList _ _ start
  rw [Std.ExtTreeMap.map_fst_toList_eq_keys] at whole
  exact whole

theorem agrees_of_create
    {options : Options}
    {logger : Option Logger}
    {session : Session}
    (created : create options logger = .ok session) :
    session.Agrees ∧ session.Complete := by
  have allBuiltin : session.functions.AllBuiltin :=
    all_of_create created (fun _ => ⟨_, rfl⟩) fun _ _ => ⟨_, rfl⟩
  simp only [create, Parser.bind_eq_ok] at created
  obtain ⟨functions, -, ⟨⟩⟩ := created
  have layoutEq := layout_initialDeclarations options functions
  have outerEq : (initialDeclarations options functions).scope.outer.layout =
      (initialFrame options).layout :=
    congrArg ScopeChain.outer layoutEq
  refine ⟨⟨?_, ⟨fun name => ?_, fun name function found => ?_⟩, ?_⟩, ?_⟩
  · simpa using congrArg ScopeChain.inner layoutEq
  · rw [getElem?_initialDeclarations]
    cases found : functions[name]? with
    | none =>
        simpa using found
    | some function =>
        obtain ⟨inner, rfl⟩ := allBuiltin name function found
        have isKey : name ∈ functions := by
          rw [Std.ExtTreeMap.mem_iff_isSome_getElem?, found]
          rfl
        simp [isKey, Function.signature]
  · obtain ⟨inner, isBuiltin⟩ := allBuiltin name _ found
    cases isBuiltin
  · exact outerEq ▸ .refl _
  · intro name found
    rw [outerEq] at found
    simpa using found

/-- An execution keeps the agreement, however it ends.  If it started with all variables bound, it
fails soundly, and it ends with all variables bound unless it fails while it runs. -/
theorem Agrees.exec
    {session : Session}
    {limits : Limits}
    {name text : String}
    (agrees : session.Agrees)
    (ended : (session.exec limits name text).ending ≠ .outOfFuel) :
    (session.exec limits name text).session.Agrees ∧
      (session.Complete → (session.exec limits name text).ending.failsRunning = false →
        (session.exec limits name text).session.Complete) ∧
      ∀ error, (session.exec limits name text).ending = .failed (.running error) →
        error.Sound session.Complete := by
  rcases parsed : session.parse name text with ⟨records, error | ⟨script, after⟩⟩
  · have refused : (session.parse name text).2 = .error error := by rw [parsed]
    obtain ⟨sameSession, -, isReading⟩ := exec_of_refused refused limits
    rw [sameSession, isReading]
    refine ⟨agrees, fun complete _ => complete, ?_⟩
    rintro _ ⟨⟩
  · have accepted : (session.parse name text).2 = .ok (script, after) := by rw [parsed]
    obtain ⟨tokens, final, -, reads, resolved, -, afterEq⟩ := parse_eq_ok accepted
    have sameStart : State.ofSession after records = .ofSession session records := by
      rw [afterEq]
      rfl
    have ends : (Evaluation.runFile limits.fuel (after.environment limits) script
        (.ofSession session records)).Ends _ _ :=
      Evaluation.ends_runFile limits.fuel (after.environment limits) reads agrees.outermost
        resolved rfl ⟨agrees.bound, agrees.functions⟩ (id : session.Complete → session.Complete)
    have finalOutermost := reads.outermost agrees.outermost
    have declaredEq : after.declared = final := by rw [afterEq]
    rw [exec_of_accepted parsed, runAfter_eq, sameStart] at ended ⊢
    simp only [execution, Session.after] at ended ⊢
    generalize Evaluation.runFile limits.fuel (after.environment limits) script
      (.ofSession session records) = outcome at ended ends ⊢
    subst declaredEq
    rcases outcome with ⟨_, state⟩ | ⟨error | message | _, state⟩
    · refine ⟨⟨finalOutermost, ends.1.functions, ends.1.bound⟩,
        fun complete _ => ends.2 complete, ?_⟩
      rintro _ ⟨⟩
    · have failed : Failure.error error ≠ .outOfFuel := by
        rintro ⟨⟩
      obtain ⟨isSound, conforms⟩ := ends failed
      refine ⟨⟨finalOutermost, conforms.functions, conforms.bound⟩, ?_, ?_⟩
      · rintro _ ⟨⟩
      · rintro _ ⟨⟩
        exact isSound
    · exact (ended rfl).elim
    · exact (ended rfl).elim

/-- A session that has executed scripts, with how the executions ended, the last one first. -/
inductive Reached : List Ending → Session → Prop where
  | created {options : Options} {logger : Option Logger} {session : Session} :
      create options logger = .ok session →
      Reached [] session
  | executed
      (ended : (session.exec limits name text).ending ≠ .outOfFuel) :
      Reached endings session →
      Reached ((session.exec limits name text).ending :: endings)
        (session.exec limits name text).session

/-- Sessions agree with themselves, and all variables are bound as long as no script has failed
while it ran. -/
theorem Reached.agrees
    {endings : List Ending}
    {session : Session}
    (reached : Reached endings session) :
    session.Agrees ∧
      ((∀ ending ∈ endings, ending.failsRunning = false) → session.Complete) := by
  induction reached with
  | created created =>
      exact ⟨(agrees_of_create created).1, fun _ => (agrees_of_create created).2⟩
  | executed ended _ inductionHypothesis =>
      obtain ⟨agrees, complete⟩ := inductionHypothesis
      obtain ⟨agreesAfter, completeAfter, -⟩ := agrees.exec ended
      refine ⟨agreesAfter, fun noneFails => ?_⟩
      exact completeAfter (complete fun ending member => noneFails ending (by simp [member]))
        (noneFails _ (by simp))

/-- The session that is had without options of its own. -/
def usual : Session where
  options := .usual
  logger := none
  declared := initialDeclarations .usual standardFunctions
  global := initialFrame .usual
  functions := standardFunctions
  nextOrigin := 0
  hostCalls := 0

theorem create_usual : create .usual none = .ok usual :=
  rfl

/-- However scripts have ended, the parser knows the functions that there are and how they are
called, and every global variable and whether it is mutable.  Unless a script has failed while it
ran, every variable that the parser knows is bound. -/
theorem parser_agrees_with_evaluator
    {endings : List Ending}
    {session : Session}
    (reached : Reached endings session) :
    (∀ name : String,
        session.declared.functions[name]? =
          (session.functions[name]?).map Function.signature) ∧
      (∀ name entry, session.global.find? name = some entry →
        ∃ binding, session.declared.scope.find? name = some binding ∧
          binding.mutable = entry.mutable) ∧
      ((∀ ending ∈ endings, ending.failsRunning = false) →
        ∀ name, (session.declared.scope.find? name).isSome →
          (session.global.find? name).isSome) := by
  obtain ⟨agrees, complete⟩ := reached.agrees
  have atTop := ScopeChain.find?_of_inner_nil agrees.outermost
  refine ⟨agrees.functions.signatures, fun name entry found => ?_, fun noneFails name known => ?_⟩
  · have declared := agrees.bound name entry.mutable (by simp [found])
    rw [Frame.find?_layout, Option.map_eq_some_iff] at declared
    rw [atTop]
    exact declared
  · refine complete noneFails name ?_
    rw [atTop] at known
    simpa using known

end Session

/-- Limits under which the clocks stand still. -/
def Limits.still (fuel : Nat) : Limits where
  fuel
  cancellation := .never
  clock := ⟨fun _ => 0, fun _ => 0⟩

namespace Session

/-- After a script that defines a variable and a function, both are known and there. -/
theorem agrees_after_definitions :
    ∃ session,
      Reached [.finished] session ∧
        session.declared.functions["add"]? = some ⟨some 2, false⟩ ∧
        (session.functions["add"]?).map Function.signature = some ⟨some 2, false⟩ ∧
        (session.global.find? "x").isSome := by
  have finished := Ending.eq_finished
    (show (usual.exec (.still 20) "main"
      "x = 1\nfun add(a, b) \x7b return a + b + x \x7d").ending.isFinished = true by
        decide +kernel)
  have reached := Reached.executed (by rw [finished]; rintro ⟨⟩) (.created create_usual)
  rw [finished] at reached
  obtain ⟨signatures, -, complete⟩ := parser_agrees_with_evaluator reached
  have declared : (usual.exec (.still 20) "main"
      "x = 1\nfun add(a, b) \x7b return a + b + x \x7d").session.declared.functions["add"]? =
        some ⟨some 2, false⟩ := by
    decide +kernel
  exact ⟨_, reached, declared, (signatures "add").symm.trans declared,
    complete (by simp [Ending.failsRunning]) "x" (by decide +kernel)⟩

/-- An execution never fails from a fault that the parser checks for.  Unless an earlier script has
failed while it ran, an unbound variable is only met in the body of a function. -/
theorem executions_fail_soundly
    {endings : List Ending}
    {session : Session}
    (reached : Reached endings session)
    {limits : Limits}
    {name text : String}
    {error : EvalError}
    (failed : (session.exec limits name text).ending = .failed (.running error)) :
    (∀ fault, error.origin? = some fault → fault.isChecked = false) ∧
      ((∀ ending ∈ endings, ending.failsRunning = false) →
        ∀ fault, error.origin? = some fault → fault.isUnbound = true →
          error.crossesCall = true) := by
  obtain ⟨agrees, complete⟩ := reached.agrees
  have ended : (session.exec limits name text).ending ≠ .outOfFuel := by
    rw [failed]
    rintro ⟨⟩
  obtain ⟨-, -, sound⟩ := agrees.exec ended
  have errorSound := sound error failed
  exact ⟨errorSound.unchecked, fun noneFails => errorSound.bound (complete noneFails)⟩

/-- A function that is called before a variable is bound that it reads meets an unbound variable,
and the error shows the call. -/
theorem unbound_variable_in_early_call :
    ∃ error name,
      (usual.exec (.still 20) "main"
          "y = f()\nx = 1\nfun f() \x7b return x \x7d").ending = .failed (.running error) ∧
        error.origin? = some (.undefinedVariable name) ∧
        error.crossesCall = true := by
  have fails : (usual.exec (.still 20) "main"
      "y = f()\nx = 1\nfun f() \x7b return x \x7d").ending.unboundVariable? = some "x" := by
    decide +kernel
  obtain ⟨error, failed, origin⟩ := Ending.of_unboundVariable? fails
  obtain ⟨-, bound⟩ := executions_fail_soundly (.created create_usual) failed
  exact ⟨error, "x", failed, origin, bound (by simp) _ origin rfl⟩

end Session

end Scripting
