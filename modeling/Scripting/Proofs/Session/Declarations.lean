import Scripting.CommandLine.Repl
import Scripting.Proofs.Evaluation.Outcome
import Scripting.Proofs.Parser.Scoping

namespace Scripting

/-!
# What a script declares

Parsing is a transaction on the declarations of a session.  A refused script leaves no trace, and
an accepted one adds what its items declare, under names that were free.
-/

/-- A table gains entries under new names, and keeps every entry that it had. -/
structure Table.Gains {Entry : Type} (before after : Table Entry)
    (added : List (String × Entry)) : Prop where
  distinct : (added.map Prod.fst).Nodup
  new : ∀ name ∈ added.map Prod.fst, before[name]? = none
  getElem? : ∀ name : String, after[name]? = (added.lookup name).or before[name]?

namespace Table.Gains

variable {Entry : Type}

theorem nothing (table : Table Entry) : Table.Gains table table [] where
  distinct := List.nodup_nil
  new := by simp
  getElem? := by simp

/-- One more entry is gained before the others. -/
theorem cons
    {before after : Table Entry}
    {added : List (String × Entry)}
    {name : String}
    {entry : Entry}
    (free : before[name]? = none)
    (gains : Table.Gains (before.insert name entry) after added) :
    Table.Gains before after ((name, entry) :: added) := by
  have notLater : name ∉ added.map Prod.fst := fun later => by
    simpa using gains.new name later
  refine ⟨List.nodup_cons.mpr ⟨notLater, gains.distinct⟩, ?_, ?_⟩
  · intro other member
    rcases List.mem_cons.mp member with rfl | later
    · exact free
    · have freeLater := gains.new other later
      grind
  · intro other
    rw [gains.getElem?, List.lookup_cons, Std.ExtTreeMap.getElem?_insert]
    by_cases same : other = name
    · subst same
      have lookupNone : added.lookup other = none := by
        rw [List.lookup_eq_none_iff]
        intro pair member
        have different : other ≠ pair.1 := by
          rintro rfl
          exact notLater (List.mem_map_of_mem member)
        simpa using different
      simp [lookupNone]
    · have different : ¬compare name other = .eq := by
        simpa using fun isSame => same isSame.symm
      have unequal : (other == name) = false := by simpa using same
      simp [unequal, different]

end Table.Gains

namespace ScopeChain

variable {Entry : Type}

/-- Bind names in the innermost frame one after another. -/
def defineAll (chain : ScopeChain Entry) (bindings : List (String × Entry)) :
    ScopeChain Entry :=
  bindings.foldl (fun chain (name, entry) => chain.define name entry) chain

@[simp] theorem entries_current_define
    (chain : ScopeChain Entry)
    (name : String)
    (entry : Entry) :
    (chain.define name entry).current.entries = chain.current.entries.insert name entry := by
  rcases chain with ⟨_ | ⟨frame, rest⟩, outer⟩ <;> rfl

end ScopeChain

namespace Item

/-- The name and the signature of the function that an item defines. -/
def signature? (item : Item) : Option (String × Signature) :=
  item.function?.map fun declaration =>
    (declaration.name.text, ⟨some declaration.parameters.length, false⟩)

/-- The name and the binding of the variable that an item declares at the top level. -/
def binding? (item : Item) : Option (String × Binding) :=
  item.declared?.map fun (identifier, mutable) =>
    (identifier.text, ⟨mutable, identifier.position⟩)

end Item

namespace Parser

variable {grammar : Grammar} {known between final : Declarations}
variable {tokens rest : List Token} {item : Item} {items : List Item}

/-- The signatures gain those of the functions that items define. -/
theorem ReadsItems.gains_functions
    (reads : ReadsItems grammar known tokens items final) :
    Table.Gains known.functions final.functions (items.filterMap Item.signature?) := by
  induction reads with
  | nil =>
      exact .nothing _
  | @cons known tokens first between rest others final firstReads _ inductionHypothesis =>
      rcases firstReads.functions_eq with
        ⟨declaration, rfl, free, functionsEq⟩ | ⟨notFunction, functionsEq⟩
      · rw [functionsEq] at inductionHypothesis
        exact inductionHypothesis.cons free
      · rw [functionsEq] at inductionHypothesis
        have noSignature : first.signature? = none := by
          simp [Item.signature?, notFunction]
        rwa [List.filterMap_cons_none noSignature]

/-- What an item declares at the top level is new in the innermost scope. -/
theorem ReadsItem.free
    (reads : ReadsItem grammar known tokens item between rest)
    {identifier : Identifier}
    {mutable : Bool}
    (declares : item.declared? = some (identifier, mutable)) :
    known.scope.current.find? identifier.text = none := by
  cases reads with
  | function _ _ _ _ _ =>
      simp [Item.declared?] at declares
  | type _ new =>
      cases declares
      exact new
  | statement inner =>
      cases inner with
      | declare _ _ new _ =>
          cases declares
          exact new
      | assignNew _ _ new _ =>
          cases declares
          exact ScopeChain.current_find?_eq_none new
      | _ =>
          simp [Item.declared?, Stmt.declared?] at declares

/-- The scope after items has the bindings that they declare, and the innermost frame gains
them. -/
theorem ReadsItems.gains_scope
    (reads : ReadsItems grammar known tokens items final) :
    final.scope = known.scope.defineAll (items.filterMap Item.binding?) ∧
      Table.Gains known.scope.current.entries final.scope.current.entries
        (items.filterMap Item.binding?) := by
  induction reads with
  | nil =>
      exact ⟨rfl, .nothing _⟩
  | @cons known tokens first between rest others final firstReads _ inductionHypothesis =>
      obtain ⟨scopeEq, gains⟩ := inductionHypothesis
      have betweenEq := firstReads.scope_eq
      cases declares : first.declared? with
      | none =>
          have noBinding : first.binding? = none := by
            simp [Item.binding?, declares]
          rw [declares] at betweenEq
          rw [betweenEq] at scopeEq gains
          rw [List.filterMap_cons_none noBinding]
          exact ⟨scopeEq, gains⟩
      | some declaration =>
          rcases declaration with ⟨identifier, mutable⟩
          have binds : first.binding? =
              some (identifier.text, ⟨mutable, identifier.position⟩) := by
            simp [Item.binding?, declares]
          rw [declares] at betweenEq
          rw [betweenEq] at scopeEq gains
          rw [List.filterMap_cons_some binds]
          simp only [Scope.extend, ScopeChain.entries_current_define] at scopeEq gains
          exact ⟨scopeEq, gains.cons (firstReads.free declares)⟩

end Parser

/-- How an execution ends that ran a script. -/
def Ending.ofOutcome : Outcome Unit → Ending
  | .ok () _ => .finished
  | .fail (.error error) _ => .failed (.running error)
  | .fail _ _ => .outOfFuel

namespace Session

/-- What is known of a script that a session accepts. -/
theorem parse_eq_ok
    {session after : Session}
    {name text : String}
    {script : Script}
    (accepted : (session.parse name text).2 = .ok (script, after)) :
    ∃ tokens final,
      scan name text = .ok tokens ∧
        Parser.ReadsItems session.options.grammar session.declared tokens script.file.items
          final ∧
        final.functions.Resolve script.file.calls ∧
        script.origin = session.nextOrigin ∧
        after = { session with declared := final, nextOrigin := session.nextOrigin + 1 } := by
  unfold parse at accepted
  split at accepted
  · simp at accepted
  · next tokens scanned =>
      simp only at accepted
      split at accepted
      · simp at accepted
      · next result parsed =>
          cases accepted
          unfold Session.parseTokens at parsed
          simp only at parsed
          split at parsed
          · simp at parsed
          · next file outcome =>
              cases parsed
              obtain ⟨final, reads, sameScope, sameFunctions, resolved⟩ :=
                parseTokens_eq_ok outcome
              refine ⟨tokens, final, scanned, reads, resolved, rfl, ?_⟩
              simp [sameScope, sameFunctions]

/-- A script that is refused is not run, and the session stays as it is. -/
theorem exec_of_refused
    {session : Session}
    {name text : String}
    {error : SyntaxError}
    (refused : (session.parse name text).2 = .error error)
    (limits : Limits) :
    (session.exec limits name text).session = session ∧
      (session.exec limits name text).output = [] ∧
      (session.exec limits name text).ending = .failed (.reading error) := by
  unfold exec
  split
  · next records found parsed =>
      rw [parsed] at refused
      cases refused
      exact ⟨rfl, rfl, rfl⟩
  · next parsed =>
      simp [parsed] at refused

/-- A script that is accepted is run in the session that knows its declarations. -/
theorem exec_of_accepted
    {session after : Session}
    {name text : String}
    {records : List LogRecord}
    {script : Script}
    (parsed : session.parse name text = (records, .ok (script, after)))
    (limits : Limits) :
    session.exec limits name text = after.runAfter limits records script := by
  simp only [exec, parsed]

/-- A run leaves its last state behind, however it ends. -/
theorem runAfter_eq
    (session : Session)
    (limits : Limits)
    (records : List LogRecord)
    (script : Script) :
    session.runAfter limits records script =
      session.execution
        (Evaluation.runFile limits.fuel (session.environment limits) script
          (.ofSession session records)).state
        (.ofOutcome
          (Evaluation.runFile limits.fuel (session.environment limits) script
            (.ofSession session records))) := by
  unfold runAfter
  rcases Evaluation.runFile limits.fuel (session.environment limits) script
    (.ofSession session records) with ⟨_, state⟩ | ⟨error | message | _, state⟩ <;> rfl

/-- An execution that ends early was refused by the parser. -/
theorem refused_of_endsEarly
    {session : Session}
    {limits : Limits}
    {name text : String}
    (endsEarly : (session.exec limits name text).ending.endsEarly = true) :
    ∃ error, (session.parse name text).2 = .error error := by
  unfold exec at endsEarly
  split at endsEarly
  · next records error parsed =>
      exact ⟨error, by rw [parsed]⟩
  · unfold runAfter at endsEarly
    split at endsEarly <;> simp [execution, Ending.endsEarly, ScriptError.endsEarly] at endsEarly

end Session

/-- A line that waits for its continuation has changed nothing. -/
theorem Repl.session_enter
    (repl : Repl)
    (limits : Limits)
    (line : String)
    (waits : (repl.enter limits line).repl.pending ≠ "") :
    (repl.enter limits line).repl.session = repl.session := by
  unfold enter at waits ⊢
  generalize (if repl.pending = "" then line else repl.pending ++ "\n" ++ line) = text at waits ⊢
  by_cases endsEarly :
      (repl.session.exec limits ("repl" ++ toString repl.entered) text).ending.endsEarly = true
  · obtain ⟨error, refused⟩ := Session.refused_of_endsEarly endsEarly
    simp only [endsEarly, ↓reduceIte, goOn]
    exact (Session.exec_of_refused refused limits).1
  · simp only [endsEarly, Bool.false_eq_true, ↓reduceIte, goOn] at waits
    exact (waits rfl).elim

/-- A refused script changes nothing and prints nothing, so that a script that ends too early can
be executed again when it has grown.  An accepted script adds the signatures of its functions and
the bindings of its top-level variables and types, all under names that were free. -/
theorem Session.parse_declares_exactly (session : Session) (name text : String) :
    (∀ error, (session.parse name text).2 = .error error → ∀ limits,
        (session.exec limits name text).session = session ∧
          (session.exec limits name text).output = [] ∧
          (session.exec limits name text).ending = .failed (.reading error)) ∧
      (∀ limits, (session.exec limits name text).ending.endsEarly = true →
        (session.exec limits name text).session = session ∧
          (session.exec limits name text).output = []) ∧
      (∀ (repl : Repl) limits line, (repl.enter limits line).repl.pending ≠ "" →
        (repl.enter limits line).repl.session = repl.session) ∧
      ∀ script after, (session.parse name text).2 = .ok (script, after) →
        Table.Gains session.declared.functions after.declared.functions
            (script.file.items.filterMap Item.signature?) ∧
          Table.Gains session.declared.scope.current.entries after.declared.scope.current.entries
            (script.file.items.filterMap Item.binding?) ∧
          after.declared.scope =
            session.declared.scope.defineAll (script.file.items.filterMap Item.binding?) := by
  refine ⟨fun error refused => exec_of_refused refused, ?_, ?_, ?_⟩
  · intro limits endsEarly
    obtain ⟨error, refused⟩ := refused_of_endsEarly endsEarly
    obtain ⟨sameSession, noOutput, -⟩ := exec_of_refused refused limits
    exact ⟨sameSession, noOutput⟩
  · intro repl limits line waits
    exact repl.session_enter limits line waits
  · intro script after accepted
    obtain ⟨tokens, final, -, reads, -, -, rfl⟩ := parse_eq_ok accepted
    exact ⟨reads.gains_functions, reads.gains_scope.2, reads.gains_scope.1⟩

end Scripting
