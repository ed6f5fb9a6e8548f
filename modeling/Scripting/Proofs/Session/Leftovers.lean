import Scripting.Proofs.Session.Constancy
import Scripting.Proofs.Session.Entries

namespace Scripting

/-!
# Names that are left behind

The parser learns at once what a script declares, and the evaluator binds it step by step.  When a
script fails while it runs, the names that it has declared and not bound yet are left behind: they
can neither be read nor be declared again, and nothing that is executed later changes that.  Every
other name can be read or be declared.
-/

namespace Item

/-- An item declares a name at the top level. -/
def Declares (item : Item) (name : String) : Prop :=
  ∃ identifier mutable, item.declared? = some (identifier, mutable) ∧ identifier.text = name

theorem mem_bindings_iff {items : List Item} {name : String} :
    name ∈ (items.filterMap binding?).map Prod.fst ↔ ∃ item ∈ items, item.Declares name := by
  simp only [List.mem_map, List.mem_filterMap, binding?, Option.map_eq_some_iff]
  constructor
  · rintro ⟨_, ⟨item, member, ⟨identifier, mutable⟩, declares, rfl⟩, rfl⟩
    exact ⟨item, member, identifier, mutable, declares, rfl⟩
  · rintro ⟨item, member, identifier, mutable, declares, rfl⟩
    exact ⟨_, ⟨item, member, _, declares, rfl⟩, rfl⟩

/-- Hoisting binds no name that no item declares. -/
theorem find?_bindIn_eq_none
    {items : List Item}
    {frame : Frame Variable}
    {name : String}
    (undeclared : ∀ item ∈ items, ¬ item.Declares name)
    (unbound : frame.find? name = none) :
    (items.foldl bindIn frame).find? name = none := by
  induction items generalizing frame with
  | nil =>
      exact unbound
  | cons first rest inductionHypothesis =>
      simp only [List.mem_cons, forall_eq_or_imp] at undeclared
      refine inductionHypothesis undeclared.2 ?_
      cases first with
      | type declaration =>
          have different : declaration.name.text ≠ name := fun same =>
            undeclared.1 ⟨declaration.name, false, rfl, same⟩
          rw [bindIn, Frame.find?_define, if_neg different]
          exact unbound
      | _ =>
          exact unbound

end Item

theorem Frame.Keeps.isSome_iff
    {before after : Frame Variable}
    (kept : before.Keeps after)
    (name : String) :
    (after.find? name).isSome ↔ (before.find? name).isSome := by
  have entryKept := kept name
  generalize before.find? name = first at entryKept
  generalize after.find? name = second at entryKept
  cases entryKept <;> rfl

/-- A statement at the top level binds the name that it declares, and no other. -/
theorem ScopeChain.Follows.isSome_iff
    {before after : Variables}
    {statement : Stmt}
    (follows : before.Follows statement.declared? after)
    (outermost : before.inner = [])
    (name : String) :
    (after.outer.find? name).isSome ↔
      (before.outer.find? name).isSome ∨ (Item.statement statement).Declares name := by
  have declaresIff : (Item.statement statement).Declares name ↔
      ∃ identifier mutable, statement.declared? = some (identifier, mutable) ∧
        identifier.text = name :=
    .rfl
  rw [declaresIff]
  generalize statement.declared? = declared at follows
  cases follows with
  | nothing kept =>
      simpa using kept.outer.isSome_iff name
  | @declares between identifier mutable value kept =>
      rw [define_of_inner_nil (kept.inner_eq_nil_iff.mpr outermost), Frame.find?_define]
      have before := kept.outer.isSome_iff name
      by_cases same : identifier.text = name
      · simp [same]
      · simpa [same] using before

namespace Evaluation

variable {fuel : Nat} {environment : Environment} {items : List Item} {state : State}

/-- Items bind no name that they do not declare, however they end. -/
theorem unbound_execItems
    {name : String}
    (outermost : state.scopes.inner = [])
    (undeclared : ∀ item ∈ items, ¬ item.Declares name)
    (unbound : state.scopes.outer.find? name = none) :
    (execItems fuel environment items state).state.scopes.outer.find? name = none := by
  induction items generalizing fuel state with
  | nil =>
      cases fuel <;> exact unbound
  | cons first rest inductionHypothesis =>
      simp only [List.mem_cons, forall_eq_or_imp] at undeclared
      obtain ⟨firstUndeclared, restUndeclared⟩ := undeclared
      cases fuel with
      | zero =>
          exact unbound
      | succ fuel =>
          cases first with
          | function declaration =>
              exact inductionHypothesis outermost restUndeclared unbound
          | type declaration =>
              exact inductionHypothesis outermost restUndeclared unbound
          | statement inner =>
              have ends := (preserves fuel).exec environment inner
                (state.note (statementRecord environment.logger inner))
              simp only [execItems]
              revert ends
              cases exec fuel environment inner
                  (state.note (statementRecord environment.logger inner)) with
              | fail failure after =>
                  exact fun kept => kept.outer.find?_eq_none unbound
              | ok signal after =>
                  intro follows
                  refine inductionHypothesis (follows.scopes.inner_eq_nil outermost)
                    restUndeclared ?_
                  rw [← Option.not_isSome_iff_eq_none, follows.scopes.isSome_iff outermost]
                  rintro (bound | declares)
                  · exact Option.not_isSome_iff_eq_none.mpr unbound bound
                  · exact firstUndeclared declares

/-- Items that come to their end have bound what their statements declare, and keep what was
bound. -/
theorem bound_execItems
    {after : State}
    {name : String}
    (succeeds : execItems fuel environment items state = .ok () after)
    (outermost : state.scopes.inner = [])
    (boundOrDeclared :
      (state.scopes.outer.find? name).isSome ∨
        ∃ statement, .statement statement ∈ items ∧
          (Item.statement statement).Declares name) :
    (after.scopes.outer.find? name).isSome := by
  induction items generalizing fuel state with
  | nil =>
      cases fuel with
      | zero =>
          cases succeeds
      | succ fuel =>
          cases succeeds
          exact boundOrDeclared.resolve_right (by simp)
  | cons first rest inductionHypothesis =>
      cases fuel with
      | zero =>
          cases succeeds
      | succ fuel =>
          cases first with
          | function declaration =>
              refine inductionHypothesis succeeds outermost (boundOrDeclared.imp_right ?_)
              rintro ⟨statement, member, declares⟩
              exact ⟨statement, by simpa using member, declares⟩
          | type declaration =>
              refine inductionHypothesis succeeds outermost (boundOrDeclared.imp_right ?_)
              rintro ⟨statement, member, declares⟩
              exact ⟨statement, by simpa using member, declares⟩
          | statement inner =>
              have ends := (preserves fuel).exec environment inner
                (state.note (statementRecord environment.logger inner))
              simp only [execItems] at succeeds
              revert ends succeeds
              cases exec fuel environment inner
                  (state.note (statementRecord environment.logger inner)) with
              | fail failure after =>
                  intro succeeds
                  cases succeeds
              | ok signal between =>
                  intro succeeds follows
                  refine inductionHypothesis succeeds (follows.scopes.inner_eq_nil outermost) ?_
                  rw [follows.scopes.isSome_iff outermost]
                  rcases boundOrDeclared with bound | ⟨statement, member, declares⟩
                  · exact .inl (.inl bound)
                  · rcases List.mem_cons.mp member with same | later
                    · cases same
                      exact .inl (.inr declares)
                    · exact .inr ⟨statement, later, declares⟩

/-- A file that was accepted binds no name that it does not declare, however it ends. -/
theorem unbound_runFile
    {grammar : Grammar}
    {known final : Declarations}
    {tokens : List Token}
    {script : Script}
    {name : String}
    (reads : Parser.ReadsItems grammar known tokens script.file.items final)
    (topLevel : state.scopes.inner = [])
    (matching : state.functions.Matches known)
    (undeclared : ∀ item ∈ script.file.items, ¬ item.Declares name)
    (unbound : state.scopes.outer.find? name = none) :
    (runFile fuel environment script state).state.scopes.outer.find? name = none := by
  cases fuel with
  | zero =>
      exact unbound
  | succ fuel =>
      have hoists := reads.hoist_eq script.origin topLevel fun name undeclared => by
        simpa [matching.signatures] using undeclared
      have executed : (execItems fuel environment script.file.items
          (state.hoisted script.origin script.file.items)).state.scopes.outer.find? name = none :=
        unbound_execItems topLevel undeclared (Item.find?_bindIn_eq_none undeclared unbound)
      simp only [runFile, hoists, Outcome.andThen]
      revert executed
      rcases execItems fuel environment script.file.items
        (state.hoisted script.origin script.file.items) with
        ⟨_, after⟩ | ⟨error | message | _, after⟩ <;>
        exact id

end Evaluation

namespace Session

/-- A name is stranded: the parser knows it, and it is not bound. -/
def Stranded (session : Session) (name : String) : Prop :=
  (session.declared.scope.find? name).isSome ∧ session.global.find? name = none

/-- An execution strands a name: its script declares the name and fails before it is bound. -/
structure Strands (session : Session) (limits : Limits) (file text name : String) : Prop where
  failed : (session.exec limits file text).ending.failsRunning = true
  declares :
    ∃ script after, (session.parse file text).2 = .ok (script, after) ∧
      ∃ item ∈ script.file.items, item.Declares name
  unbound : (session.exec limits file text).session.global.find? name = none

variable {session : Session} {limits : Limits} {file text name : String}

/-- A script that comes to its end has bound what it declares. -/
theorem Agrees.bound_exec
    {script : Script}
    {after : Session}
    (agrees : session.Agrees)
    (finished : (session.exec limits file text).ending = .finished)
    (accepted : (session.parse file text).2 = .ok (script, after))
    {item : Item}
    (member : item ∈ script.file.items)
    (declares : item.Declares name) :
    ((session.exec limits file text).session.global.find? name).isSome := by
  obtain ⟨course⟩ := exists_course agrees finished
  rw [course.parse_eq] at accepted
  cases accepted
  rw [course.exec_eq agrees]
  have topLevel : ((session.start file text).hoisted session.nextOrigin
      course.items).scopes.inner = [] := rfl
  show (course.last.scopes.outer.find? name).isSome
  refine Evaluation.bound_execItems course.executed topLevel ?_
  cases item with
  | function declaration =>
      obtain ⟨_, _, ⟨⟩, -⟩ := declares
  | type declaration =>
      obtain ⟨_, _, ⟨⟩, rfl⟩ := declares
      exact .inl (Item.isSome_bindIn member)
  | statement inner =>
      exact .inr ⟨inner, member, declares⟩

/-- An accepted script declares what its items declare, which was free, and leaves all else. -/
theorem Agrees.exec_of_accepted
    {records : List LogRecord}
    {script : Script}
    {after : Session}
    (agrees : session.Agrees)
    (parsed : session.parse file text = (records, .ok (script, after)))
    (limits : Limits)
    (name : String) :
    (((session.exec limits file text).session.declared.scope.find? name).isSome ↔
        (session.declared.scope.find? name).isSome ∨
          ∃ item ∈ script.file.items, item.Declares name) ∧
      ((session.declared.scope.find? name).isSome →
        ∀ item ∈ script.file.items, ¬ item.Declares name) ∧
      ((∀ item ∈ script.file.items, ¬ item.Declares name) →
        session.global.find? name = none →
          (session.exec limits file text).session.global.find? name = none) := by
  have accepted : (session.parse file text).2 = .ok (script, after) := by rw [parsed]
  obtain ⟨tokens, final, -, reads, -, -, rfl⟩ := parse_eq_ok accepted
  obtain ⟨-, gains⟩ := reads.gains_scope
  have findKnown := ScopeChain.find?_of_inner_nil agrees.outermost
  have finalOutermost := reads.outermost agrees.outermost
  have findFinal := ScopeChain.find?_of_inner_nil finalOutermost
  have currentKnown : session.declared.scope.current = session.declared.scope.outer := by
    simp [ScopeChain.current, agrees.outermost]
  have currentFinal : final.scope.current = final.scope.outer := by
    simp [ScopeChain.current, finalOutermost]
  rw [currentKnown, currentFinal] at gains
  rw [Session.exec_of_accepted parsed, runAfter_eq]
  refine ⟨?_, ?_, fun undeclared unbound => ?_⟩
  · show (final.scope.find? name).isSome ↔ _
    rw [← Item.mem_bindings_iff, findKnown, findFinal, Frame.find?, Frame.find?, gains.getElem?,
      Option.isSome_or, Bool.or_eq_true, List.lookup_isSome_iff, or_comm]
    refine or_congr_right ?_
    simp only [List.mem_map, beq_iff_eq]
    exact exists_congr fun _ => and_congr_right fun _ => eq_comm
  · intro known item member declares
    have free := gains.new name (Item.mem_bindings_iff.mpr ⟨item, member, declares⟩)
    rw [findKnown, Frame.find?, free] at known
    cases known
  · exact Evaluation.unbound_runFile reads rfl agrees.functions undeclared unbound

theorem ending_of_accepted
    {records : List LogRecord}
    {script : Script}
    {after : Session}
    (parsed : session.parse file text = (records, .ok (script, after)))
    (limits : Limits)
    (error : SyntaxError) :
    (session.exec limits file text).ending ≠ .failed (.reading error) := by
  rw [Session.exec_of_accepted parsed, runAfter_eq]
  rcases Evaluation.runFile limits.fuel (after.environment limits) script
    (.ofSession after records) with ⟨_, final⟩ | ⟨error | message | _, final⟩ <;> nofun

/-- A name is stranded after an execution if it was before or if the execution strands it. -/
theorem Agrees.stranded_exec_iff
    (agrees : session.Agrees)
    (ended : (session.exec limits file text).ending ≠ .outOfFuel) :
    (session.exec limits file text).session.Stranded name ↔
      session.Stranded name ∨ session.Strands limits file text name := by
  rcases parsed : session.parse file text with ⟨records, error | ⟨script, after⟩⟩
  · have refused : (session.parse file text).2 = .error error := by rw [parsed]
    obtain ⟨sameSession, -, isReading⟩ := exec_of_refused refused limits
    rw [sameSession]
    refine (or_iff_left fun strands => ?_).symm
    have failed := strands.failed
    rw [isReading] at failed
    cases failed
  · have accepted : (session.parse file text).2 = .ok (script, after) := by rw [parsed]
    obtain ⟨known, apart, stays⟩ := agrees.exec_of_accepted parsed limits name
    constructor
    · rintro ⟨isKnown, unbound⟩
      rcases known.mp isKnown with wasKnown | ⟨item, member, declares⟩
      · refine .inl ⟨wasKnown, ?_⟩
        cases found : session.global.find? name with
        | none =>
            rfl
        | some entry =>
            obtain ⟨kept, keptFound, -⟩ := agrees.retains_exec limits file text name entry found
            cases unbound.symm.trans keptFound
      · refine .inr ⟨?_, ⟨script, after, accepted, item, member, declares⟩, unbound⟩
        cases ending : (session.exec limits file text).ending with
        | finished =>
            have bound := agrees.bound_exec ending accepted member declares
            rw [unbound] at bound
            cases bound
        | failed error =>
            cases error with
            | running error =>
                rfl
            | reading error =>
                exact (ending_of_accepted parsed limits error ending).elim
        | outOfFuel =>
            exact (ended ending).elim
    · rintro (⟨wasKnown, wasUnbound⟩ | ⟨-, ⟨found, foundAfter, foundAccepted, declares⟩, unbound⟩)
      · exact ⟨known.mpr (.inl wasKnown), stays (apart wasKnown) wasUnbound⟩
      · cases accepted.symm.trans foundAccepted
        exact ⟨known.mpr (.inr declares), unbound⟩

/-- A stranded name stays so, whatever is executed. -/
theorem LeadsTo.stranded
    {later : Session}
    (leads : session.LeadsTo later)
    (agrees : session.Agrees)
    (stranded : session.Stranded name) :
    later.Stranded name := by
  induction leads with
  | nowhere =>
      exact stranded
  | executed ended earlier inductionHypothesis =>
      obtain ⟨laterAgrees, -⟩ := earlier.agrees_retains agrees
      exact (laterAgrees.stranded_exec_iff ended).mpr (.inl inductionHypothesis)

/-- A name is left behind if an earlier execution has stranded it. -/
def LeftBehind (session : Session) (name : String) : Prop :=
  ∃ endings earlier limits file text,
    Reached endings earlier ∧ earlier.Strands limits file text name ∧
      (earlier.exec limits file text).session.LeadsTo session

/-- The names that are left behind are those that the parser knows and that are not bound. -/
theorem Reached.stranded_iff
    {endings : List Ending}
    (reached : Reached endings session) :
    session.Stranded name ↔ session.LeftBehind name := by
  constructor
  · intro stranded
    induction reached with
    | @created options logger session created =>
        obtain ⟨agrees, complete⟩ := agrees_of_create created
        obtain ⟨known, unbound⟩ := stranded
        rw [ScopeChain.find?_of_inner_nil agrees.outermost] at known
        have bound := complete name (by simpa using known)
        rw [unbound] at bound
        cases bound
    | executed ended earlier inductionHypothesis =>
        rcases (earlier.agrees.1.stranded_exec_iff ended).mp stranded with before | strands
        · obtain ⟨endings, first, limits, file, text, firstReached, strands, leads⟩ :=
            inductionHypothesis before
          exact ⟨endings, first, limits, file, text, firstReached, strands, .executed ended leads⟩
        · exact ⟨_, _, _, _, _, earlier, strands, .nowhere⟩
  · rintro ⟨_, earlier, limits, file, text, earlierReached, strands, leads⟩
    have agrees := earlierReached.agrees.1
    have ended : (earlier.exec limits file text).ending ≠ .outOfFuel := by
      intro ranOut
      have failed := strands.failed
      rw [ranOut] at failed
      cases failed
    exact leads.stranded (agrees.exec ended).1
      ((agrees.stranded_exec_iff ended).mpr (.inr strands))

/-- A name can be read or be declared exactly if no script that failed has left it behind. -/
theorem names_are_usable_unless_left_behind
    {endings : List Ending}
    (reached : Reached endings session)
    (isName : IsName name)
    (enough : 6 ≤ limits.fuel)
    (goesOn : limits.cancellation.happened 0 0 = false)
    (file : String) :
    ((∃ entry, session.global.find? name = some entry ∧
        (session.exec limits file (printingScript name)).ending = .finished ∧
        (session.exec limits file (printingScript name)).output = [entry.value.text]) ∨
      (session.declared.scope.find? name = none ∧
        (session.exec limits file (declaringScript name)).ending = .finished ∧
        (session.exec limits file (declaringScript name)).session.global.find? name =
          some ⟨.integer 0, false⟩)) ↔
      ¬ session.LeftBehind name := by
  rw [← reached.stranded_iff]
  have agrees := reached.agrees.1
  constructor
  · rintro (⟨entry, bound, -⟩ | ⟨undeclared, -⟩) ⟨known, unbound⟩
    · cases unbound.symm.trans bound
    · rw [undeclared] at known
      cases known
  · intro notStranded
    cases found : session.global.find? name with
    | some entry =>
        exact .inl ⟨entry, rfl,
          exec_printingScript agrees reached.print isName found enough goesOn file⟩
    | none =>
        have undeclared : session.declared.scope.find? name = none := by
          rw [← Option.not_isSome_iff_eq_none]
          exact fun known => notStranded ⟨known, found⟩
        exact .inr ⟨undeclared, exec_declaringScript agrees isName undeclared (by omega) file⟩

/-- A script that fails before it has bound the variable that it declares. -/
def dividing : Execution :=
  usual.exec (.still 60) "first" "var x = 1 / 0"

theorem failsRunning_dividing : dividing.ending.failsRunning = true := by
  decide +kernel

theorem reached_dividing : Reached [dividing.ending] dividing.session := by
  refine .executed (fun ranOut => ?_) (.created create_usual)
  have failed := failsRunning_dividing
  rw [dividing, ranOut] at failed
  cases failed

/-- After the script has failed, its variable is left behind, and another one can be declared. -/
theorem dividing_leaves_its_variable_behind :
    dividing.session.LeftBehind "x" ∧
      (dividing.session.exec (.still 6) "second" (declaringScript "y")).ending = .finished := by
  have usable {name : String} (isName : IsName name) :=
    names_are_usable_unless_left_behind reached_dividing isName
      (show 6 ≤ (Limits.still 6).fuel from Nat.le_refl 6)
      (show (Limits.still 6).cancellation.happened 0 0 = false from rfl) "second"
  constructor
  · have isName : IsName "x" := ⟨⟨'x', [], rfl, by decide, nofun⟩, by decide, by decide⟩
    have known : (dividing.session.declared.scope.find? "x").isSome = true := by decide +kernel
    have unbound : (dividing.session.global.find? "x").isSome = false := by decide +kernel
    by_contra notLeft
    rcases (usable isName).mpr notLeft with ⟨entry, bound, -⟩ | ⟨undeclared, -⟩
    · rw [bound] at unbound
      cases unbound
    · rw [undeclared] at known
      cases known
  · have isName : IsName "y" := ⟨⟨'y', [], rfl, by decide, nofun⟩, by decide, by decide⟩
    have unknown : (dividing.session.declared.scope.find? "y").isSome = false := by decide +kernel
    have unbound : (dividing.session.global.find? "y").isSome = false := by decide +kernel
    have notLeft : ¬ dividing.session.LeftBehind "y" := by
      rw [← reached_dividing.stranded_iff]
      rintro ⟨known, -⟩
      cases unknown.symm.trans known
    rcases (usable isName).mpr notLeft with ⟨entry, bound, -⟩ | ⟨-, finished, -⟩
    · rw [bound] at unbound
      cases unbound
    · exact finished

/-- The variable that the script has declared can neither be read nor be declared again. -/
theorem dividing_strands_its_variable :
    Reached [dividing.ending] dividing.session ∧
      (dividing.session.global.find? "x").isSome = false ∧
      (dividing.session.exec (.still 60) "second" "var x = 0").ending.isFinished = false ∧
      ((dividing.session.exec (.still 60) "second" "var x = 0").session.global.find? "x").isSome =
        false ∧
      (dividing.session.exec (.still 60) "third" "print(x)").ending.unboundVariable? =
        some "x" := by
  refine ⟨reached_dividing, ?_, ?_, ?_, ?_⟩ <;> decide +kernel

end Session

end Scripting
