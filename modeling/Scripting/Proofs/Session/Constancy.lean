import Scripting.Proofs.Evaluation.Joining
import Scripting.Proofs.Session.Agreement

namespace Scripting

/-!
# Global variables are constant

A global variable stays bound as long as its session lives, and keeps its mutability.  An immutable
one keeps its value.  The evaluator would let a definition replace any binding; it is the parser
that has refused every script in which a name is declared twice, so that what a script declares at
the top level is not bound when it is defined.
-/

namespace Frame

/-- Every variable of a frame is still bound, and kept. -/
def Retains (before after : Frame Variable) : Prop :=
  ∀ name entry, before.find? name = some entry →
    ∃ kept, after.find? name = some kept ∧ entry.Keeps kept

theorem Retains.refl (frame : Frame Variable) : frame.Retains frame :=
  fun _ entry found => ⟨entry, found, .refl entry⟩

theorem Retains.trans
    {first second third : Frame Variable}
    (firstRetained : first.Retains second)
    (secondRetained : second.Retains third) :
    first.Retains third := by
  intro name entry found
  obtain ⟨between, betweenFound, kept⟩ := firstRetained name entry found
  obtain ⟨after, afterFound, keptAgain⟩ := secondRetained name between betweenFound
  exact ⟨after, afterFound, kept.trans keptAgain⟩

theorem Within.retains
    {before after : Frame Variable}
    (within : before.Within after) :
    before.Retains after :=
  fun name entry found => ⟨entry, within name entry found, .refl entry⟩

theorem Keeps.retains
    {before after : Frame Variable}
    (kept : before.Keeps after) :
    before.Retains after := by
  intro name entry found
  have entryKept := kept name
  rw [found] at entryKept
  generalize after.find? name = other at entryKept
  cases entryKept with
  | some isKept =>
      exact ⟨_, rfl, isKept⟩

/-- A frame that keeps its names binds no others. -/
theorem Keeps.find?_eq_none
    {before after : Frame Variable}
    (kept : before.Keeps after)
    {name : String}
    (unbound : before.find? name = none) :
    after.find? name = none := by
  have entryKept := kept name
  rw [unbound] at entryKept
  generalize after.find? name = other at entryKept
  cases entryKept
  rfl

end Frame

namespace Item

/-- The variables that are bound before some items are those that are declared by then, and the
types of the items. -/
def Awaits (global : Frame Bool) (items : List Item) (frame : Frame Variable) : Prop :=
  ∀ name, global.find? name = none → (types items).find? name = none → frame.find? name = none

variable {global : Frame Bool} {items rest : List Item} {first : Item} {frame : Frame Variable}

theorem Awaits.keeps
    {after : Frame Variable}
    (awaits : Awaits global items frame)
    (kept : frame.Keeps after) :
    Awaits global items after :=
  fun name undeclared notType => kept.find?_eq_none (awaits name undeclared notType)

/-- Hoisting binds nothing but the types of a file. -/
theorem awaits_hoisted
    (bound : frame.layout.Within global)
    (items : List Item) :
    Awaits global items (items.foldl bindIn frame) := by
  intro name undeclared notType
  rw [find?_foldl_bindIn, notType, Option.none_or]
  cases found : frame.find? name with
  | none =>
      rfl
  | some entry =>
      have declared := bound name entry.mutable (by simp [found])
      rw [undeclared] at declared
      cases declared

/-- Hoisting a file replaces no variable. -/
theorem ScopedAll.retains_hoisted
    (obey : ScopedAll global items)
    (bound : frame.layout.Within global) :
    frame.Retains (items.foldl bindIn frame) := by
  refine Frame.Within.retains fun name entry found => ?_
  rw [obey.find?_foldl_bindIn bound, found, Option.some_or]

/-- An item that declares nothing is passed over. -/
theorem Awaits.of_undeclared
    (awaits : Awaits global (first :: rest) frame)
    (declaresNothing : first.declared? = none) :
    Awaits (first.declareIn global) rest frame := by
  intro name undeclared notType
  have sameGlobal : first.declareIn global = global := by
    simp [declareIn, declaresNothing]
  refine awaits name (sameGlobal ▸ undeclared) ?_
  rw [types, List.foldl_cons, find?_foldl_bindIn, notType, Option.none_or]
  cases first with
  | type declaration =>
      cases declaresNothing
  | _ =>
      exact Frame.find?_empty _ _

/-- What an item declares may be bound after it. -/
theorem Awaits.of_declared
    (awaits : Awaits global (first :: rest) frame)
    {identifier : Identifier}
    {mutable : Bool}
    (declares : first.declared? = some (identifier, mutable))
    {after : Frame Variable}
    (others : ∀ name, identifier.text ≠ name → frame.find? name = none → after.find? name = none) :
    Awaits (first.declareIn global) rest after := by
  intro name undeclared notType
  simp only [declareIn, declares, Frame.find?_define] at undeclared
  split at undeclared
  · cases undeclared
  · next different =>
      refine others name different (awaits name undeclared ?_)
      rw [types, List.foldl_cons, find?_foldl_bindIn, notType, Option.none_or]
      cases first with
      | type declaration =>
          cases declares
          rw [bindIn, Frame.find?_define, if_neg different, Frame.find?_empty]
      | _ =>
          exact Frame.find?_empty _ _

/-- What a statement declares at the top level is not bound before it. -/
theorem Awaits.find?_eq_none
    {statement : Stmt}
    (awaits : Awaits global (.statement statement :: rest) frame)
    (obey : ScopedAll global (.statement statement :: rest))
    {identifier : Identifier}
    {mutable : Bool}
    (declares : statement.declared? = some (identifier, mutable)) :
    frame.find? identifier.text = none := by
  refine awaits _ (obey.1.find?_eq_none declares) ?_
  cases declaredLater : (types rest).find? identifier.text with
  | none =>
      exact declaredLater
  | some entry =>
      -- A type of the same name would be declared once more, after the statement.
      have free := obey.2.find?_eq_none_of_types declaredLater
      simp [declareIn, declared?, declares] at free

/-- A statement at the top level replaces no global variable. -/
theorem Awaits.follows
    {statement : Stmt}
    {before after : Variables}
    (awaits : Awaits global (.statement statement :: rest) before.outer)
    (obey : ScopedAll global (.statement statement :: rest))
    (outermost : before.inner = [])
    (follows : before.Follows statement.declared? after) :
    before.outer.Retains after.outer ∧
      Awaits ((Item.statement statement).declareIn global) rest after.outer := by
  generalize declares : statement.declared? = declared at follows
  cases follows with
  | nothing kept =>
      exact ⟨kept.outer.retains, (awaits.of_undeclared declares).keeps kept.outer⟩
  | @declares between identifier mutable value kept =>
      have unbound := kept.outer.find?_eq_none (awaits.find?_eq_none obey declares)
      rw [ScopeChain.define_of_inner_nil (kept.inner_eq_nil_iff.mpr outermost)]
      refine ⟨kept.outer.retains.trans (Frame.within_define unbound _).retains, ?_⟩
      refine awaits.of_declared declares fun name different nameUnbound => ?_
      rw [Frame.find?_define, if_neg different]
      exact kept.outer.find?_eq_none nameUnbound

end Item

namespace Evaluation

/-- Items that obey the scoping rules replace no global variable, however they end. -/
theorem retains_execItems
    (fuel : Nat)
    (environment : Environment)
    {items : List Item}
    {global : Frame Bool}
    {state : State}
    (obey : Item.ScopedAll global items)
    (outermost : state.scopes.inner = [])
    (awaits : Item.Awaits global items state.scopes.outer) :
    state.scopes.outer.Retains (execItems fuel environment items state).state.scopes.outer := by
  induction items generalizing fuel global state with
  | nil =>
      cases fuel <;> exact .refl _
  | cons first rest inductionHypothesis =>
      cases fuel with
      | zero =>
          exact .refl _
      | succ fuel =>
          cases first with
          | function declaration =>
              exact inductionHypothesis fuel obey.2 outermost (awaits.of_undeclared rfl)
          | type declaration =>
              exact inductionHypothesis fuel obey.2 outermost
                (awaits.of_declared rfl fun _ _ unbound => unbound)
          | statement inner =>
              have ends := (preserves fuel).exec environment inner
                (state.note (statementRecord environment.logger inner))
              simp only [execItems]
              revert ends
              cases exec fuel environment inner
                  (state.note (statementRecord environment.logger inner)) with
              | fail failure after =>
                  exact fun kept => kept.outer.retains
              | ok signal after =>
                  intro follows
                  have stillOutermost := follows.scopes.inner_eq_nil outermost
                  obtain ⟨retained, awaitsNext⟩ := awaits.follows obey outermost follows.scopes
                  exact retained.trans
                    (inductionHypothesis fuel obey.2 stillOutermost awaitsNext)

/-- A file that was accepted replaces no global variable, however it ends. -/
theorem retains_runFile
    (fuel : Nat)
    (environment : Environment)
    {grammar : Grammar}
    {known final : Declarations}
    {tokens : List Token}
    {script : Script}
    {state : State}
    (reads : Parser.ReadsItems grammar known tokens script.file.items final)
    (outermost : known.scope.inner = [])
    (topLevel : state.scopes.inner = [])
    (conforms : state.Conforms known) :
    state.scopes.outer.Retains (runFile fuel environment script state).state.scopes.outer := by
  cases fuel with
  | zero =>
      exact .refl _
  | succ fuel =>
      have obey := reads.scoped outermost
      have hoists := reads.hoist_eq script.origin topLevel fun name undeclared => by
        simpa [conforms.functions.signatures] using undeclared
      have hoisted : state.scopes.outer.Retains
          (state.hoisted script.origin script.file.items).scopes.outer :=
        obey.retains_hoisted conforms.bound
      have executed := retains_execItems fuel environment obey
        (show (state.hoisted script.origin script.file.items).scopes.inner = [] from topLevel)
        (Item.awaits_hoisted conforms.bound script.file.items)
      simp only [runFile, hoists, Outcome.andThen]
      revert executed
      rcases execItems fuel environment script.file.items
        (state.hoisted script.origin script.file.items) with
        ⟨_, after⟩ | ⟨error | message | _, after⟩ <;>
        exact hoisted.trans

end Evaluation

namespace Session

/-- An execution replaces no global variable, however it ends. -/
theorem Agrees.retains_exec
    {session : Session}
    (agrees : session.Agrees)
    (limits : Limits)
    (name text : String) :
    session.global.Retains (session.exec limits name text).session.global := by
  rcases parsed : session.parse name text with ⟨records, error | ⟨script, after⟩⟩
  · have refused : (session.parse name text).2 = .error error := by rw [parsed]
    rw [(exec_of_refused refused limits).1]
    exact .refl _
  · have accepted : (session.parse name text).2 = .ok (script, after) := by rw [parsed]
    obtain ⟨tokens, final, -, reads, -, -, afterEq⟩ := parse_eq_ok accepted
    have sameStart : State.ofSession after records = .ofSession session records := by
      rw [afterEq]
      rfl
    have conforms : (State.ofSession session records).Conforms session.declared :=
      ⟨agrees.bound, agrees.functions⟩
    rw [exec_of_accepted parsed, runAfter_eq, sameStart]
    exact Evaluation.retains_runFile limits.fuel (after.environment limits) reads
      agrees.outermost rfl conforms

/-- A session to which executions lead that come to an end. -/
inductive LeadsTo (session : Session) : Session → Prop where
  | nowhere :
      LeadsTo session session
  | executed
      (ended : (later.exec limits name text).ending ≠ .outOfFuel) :
      LeadsTo session later →
      LeadsTo session (later.exec limits name text).session

/-- Executions keep the agreement and replace no global variable, however they end. -/
theorem LeadsTo.agrees_retains
    {session later : Session}
    (leads : session.LeadsTo later)
    (agrees : session.Agrees) :
    later.Agrees ∧ session.global.Retains later.global := by
  induction leads with
  | nowhere =>
      exact ⟨agrees, .refl _⟩
  | executed ended _ inductionHypothesis =>
      obtain ⟨laterAgrees, retained⟩ := inductionHypothesis
      exact ⟨(laterAgrees.exec ended).1, retained.trans (laterAgrees.retains_exec _ _ _)⟩

/-- A global variable stays bound and as mutable as it is, whatever is executed and however that
ends.  An immutable one keeps its value. -/
theorem globals_stay_as_they_are
    {endings : List Ending}
    {session later : Session}
    (reached : Reached endings session)
    (leads : session.LeadsTo later)
    {name : String}
    {entry : Variable}
    (bound : session.global.find? name = some entry) :
    ∃ kept, later.global.find? name = some kept ∧
      kept.mutable = entry.mutable ∧
      (entry.mutable = false → kept.value = entry.value) := by
  obtain ⟨-, retained⟩ := leads.agrees_retains reached.agrees.1
  obtain ⟨kept, found, sameMutability, unchanged⟩ := retained name entry bound
  exact ⟨kept, found, sameMutability, fun immutable => by rw [unchanged immutable]⟩

/-- A script that declares a limit and a counter. -/
def limiting : Execution :=
  usual.exec (.still 60) "first"
    "var limit = 10\nvar* total = 0\nfun add(n) \x7b total = total + n \x7d"

/-- A script that fails after it has changed the counter and declared a type. -/
def failing : Execution :=
  limiting.session.exec (.still 60) "second" "type Size\nadd(limit)\nadd(limit / 0)"

/-- The limit outlives the script that fails. -/
theorem limit_outlives_failure :
    failing.ending.failsRunning = true ∧
      ∃ entry kept, limiting.session.global.find? "limit" = some entry ∧
        entry.mutable = false ∧ failing.session.global.find? "limit" = some kept ∧
        kept.value = entry.value := by
  have firstFinished : limiting.ending = .finished := Ending.eq_finished (by decide +kernel)
  have firstEnds : limiting.ending ≠ .outOfFuel := by
    rw [firstFinished]
    rintro ⟨⟩
  have secondFails : failing.ending.failsRunning = true := by decide +kernel
  have secondEnds : failing.ending ≠ .outOfFuel := by
    intro ranOut
    rw [ranOut] at secondFails
    cases secondFails
  have reached : Reached [limiting.ending] limiting.session :=
    .executed firstEnds (.created create_usual)
  have leads : limiting.session.LeadsTo failing.session := .executed secondEnds .nowhere
  have isImmutable :
      (limiting.session.global.find? "limit").map Variable.mutable = some false := by
    decide +kernel
  obtain ⟨entry, found, immutable⟩ := Option.map_eq_some_iff.mp isImmutable
  obtain ⟨kept, keptFound, -, sameValue⟩ := globals_stay_as_they_are reached leads found
  exact ⟨secondFails, entry, kept, found, immutable, keptFound, sameValue immutable⟩

end Session

end Scripting
