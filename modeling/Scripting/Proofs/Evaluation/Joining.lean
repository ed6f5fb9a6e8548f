import Scripting.Proofs.Evaluation.Files
import Scripting.Proofs.Evaluation.Mirroring

namespace Scripting

/-!
# Definitions and their surroundings

What hoisting a file adds to the functions and to the global variables, and what is left of it when
the items of the file have been executed.  Files that are equal up to positions add the same.
-/

/-- Tables of functions that are equal up to positions and the scripts that define them. -/
def FunctionTable.Alike (functions others : FunctionTable) : Prop :=
  ∀ name : String, Option.Rel Function.Alike functions[name]? others[name]?

namespace FunctionTable.Alike

variable {functions others : FunctionTable}

theorem refl (functions : FunctionTable) : functions.Alike functions := by
  intro name
  cases functions[name]? with
  | none =>
      exact .none
  | some function =>
      exact .some (.refl function)

/-- A function is found in both tables or in neither. -/
theorem exists_of_eq_some
    (alike : functions.Alike others)
    {name : String}
    {function : Function}
    (found : functions[name]? = some function) :
    ∃ other, others[name]? = some other ∧ function.Alike other := by
  have related := alike name
  rw [found] at related
  generalize others[name]? = there at related
  cases related with
  | some functionAlike =>
      exact ⟨_, rfl, functionAlike⟩

/-- Like items define like functions, whatever script they are from. -/
theorem defineIn
    (alike : functions.Alike others)
    {item other : Item}
    (itemAlike : item.Alike other)
    (origin otherOrigin : Nat) :
    FunctionTable.Alike (item.defineIn origin functions) (other.defineIn otherOrigin others) := by
  cases itemAlike with
  | @function declaration other declarationAlike =>
      intro name
      simp only [Item.defineIn, declarationAlike.name, Std.ExtTreeMap.getElem?_insert]
      split
      · exact .some (.user declarationAlike)
      · exact alike name
  | type =>
      exact alike
  | statement =>
      exact alike

/-- Alike items define alike functions. -/
theorem foldl_defineIn
    (alike : functions.Alike others)
    {items otherItems : List Item}
    (itemsAlike : List.Forall₂ Item.Alike items otherItems)
    (origin otherOrigin : Nat) :
    FunctionTable.Alike (items.foldl (Item.defineIn origin) functions)
      (otherItems.foldl (Item.defineIn otherOrigin) others) := by
  induction itemsAlike generalizing functions others with
  | nil =>
      exact alike
  | cons firstAlike _ inductionHypothesis =>
      exact inductionHypothesis (alike.defineIn firstAlike origin otherOrigin)

end FunctionTable.Alike

namespace Item

variable {items others : List Item} {frame : Frame Variable} {name : String}

/-- Alike items bind the same types. -/
theorem foldl_bindIn_of_alike
    (alike : List.Forall₂ Item.Alike items others)
    (frame : Frame Variable) :
    others.foldl bindIn frame = items.foldl bindIn frame := by
  induction alike generalizing frame with
  | nil =>
      rfl
  | cons firstAlike _ inductionHypothesis =>
      cases firstAlike <;> exact inductionHypothesis _

@[simp] theorem comment_foldl_bindIn (items : List Item) (frame : Frame Variable) :
    (items.foldl bindIn frame).comment = frame.comment := by
  induction items generalizing frame with
  | nil =>
      rfl
  | cons first rest inductionHypothesis =>
      cases first <;> exact inductionHypothesis _

/-- The types that items declare. -/
def types (items : List Item) : Frame Variable :=
  items.foldl bindIn (.empty "types")

/-- Hoisting binds the types of items besides what is bound already. -/
theorem find?_foldl_bindIn
    (items : List Item)
    (frame : Frame Variable)
    (name : String) :
    (items.foldl bindIn frame).find? name = ((types items).find? name).or (frame.find? name) := by
  unfold types
  induction items generalizing frame with
  | nil =>
      simp
  | cons first rest inductionHypothesis =>
      cases first with
      | type declaration =>
          simp only [List.foldl_cons, bindIn]
          rw [inductionHypothesis (frame.define _ _), inductionHypothesis (Frame.define _ _ _)]
          grind
      | _ =>
          exact inductionHypothesis frame

/-- A name in the frame of the types is that of a declared type. -/
theorem exists_of_find?_types
    {entry : Variable}
    (found : (types items).find? name = some entry) :
    ∃ declaration, .type declaration ∈ items ∧ declaration.name.text = name := by
  induction items generalizing entry with
  | nil =>
      simp [types] at found
  | cons first rest inductionHypothesis =>
      rw [types, List.foldl_cons, find?_foldl_bindIn] at found
      cases inRest : (types rest).find? name with
      | some other =>
          obtain ⟨declaration, member, sameName⟩ := inductionHypothesis inRest
          exact ⟨declaration, List.mem_cons_of_mem _ member, sameName⟩
      | none =>
          cases first with
          | type declaration =>
              refine ⟨declaration, List.mem_cons_self, ?_⟩
              by_contra different
              simp [inRest, bindIn, Frame.find?_define, different] at found
          | _ =>
              simp [inRest, bindIn] at found

/-- The types of a file have names that were free before it. -/
theorem ScopedAll.find?_eq_none_of_types
    {global : Frame Bool}
    (obey : ScopedAll global items)
    {entry : Variable}
    (declared : (types items).find? name = some entry) :
    global.find? name = none := by
  obtain ⟨declaration, member, rfl⟩ := exists_of_find?_types declared
  clear declared
  induction items generalizing global with
  | nil =>
      simp at member
  | cons first rest inductionHypothesis =>
      rcases List.mem_cons.mp member with rfl | inRest
      · exact obey.1.find?_eq_none rfl
      · have freeLater := inductionHypothesis obey.2 inRest
        cases found : global.find? declaration.name.text with
        | none =>
            rfl
        | some mutable =>
            have foundLater := obey.1.within _ _ found
            rw [freeLater] at foundLater
            cases foundLater

/-- Where the types of a file were free, it matters nothing which binding is looked for first. -/
theorem ScopedAll.find?_foldl_bindIn
    {global : Frame Bool}
    (obey : ScopedAll global items)
    (bound : frame.layout.Within global)
    (name : String) :
    (items.foldl bindIn frame).find? name = (frame.find? name).or ((types items).find? name) := by
  rw [Item.find?_foldl_bindIn]
  cases declared : (types items).find? name with
  | none =>
      simp
  | some entry =>
      have free := obey.find?_eq_none_of_types declared
      have unbound : frame.find? name = none := by
        cases found : frame.find? name with
        | none =>
            rfl
        | some other =>
            have known := bound name other.mutable (by simp [found])
            rw [free] at known
            cases known
      simp [unbound]

end Item

/-- Items that are read keep the functions that were there. -/
theorem Parser.ReadsItems.getElem?_defineIn
    {grammar : Grammar}
    {known final : Declarations}
    {tokens : List Token}
    {items : List Item}
    (reads : ReadsItems grammar known tokens items final)
    (origin : Nat)
    {functions : FunctionTable}
    (free :
      ∀ name : String, known.functions[name]? = none → functions[name]? = none)
    {name : String}
    {function : Function}
    (found : functions[name]? = some function) :
    (items.foldl (Item.defineIn origin) functions)[name]? = some function := by
  induction reads generalizing functions with
  | nil =>
      exact found
  | @cons known tokens first between rest others final firstReads _ inductionHypothesis =>
      rcases firstReads.functions_eq with
        ⟨declaration, rfl, isNew, functionsEq⟩ | ⟨notFunction, functionsEq⟩
      · have undefinedYet := free _ isNew
        refine inductionHypothesis (fun other undeclared => ?_) ?_
        · rw [functionsEq] at undeclared
          grind [Item.defineIn]
        · grind [Item.defineIn]
      · rw [functionsEq] at inductionHypothesis
        cases first with
        | function declaration =>
            simp [Item.function?] at notFunction
        | _ =>
            exact inductionHypothesis free found

namespace Evaluation

variable {environment : Environment} {fuel : Nat}

/-- No items end as soon as there is fuel to look. -/
theorem execItems_nil
    (notOut : 0 < fuel)
    (state : State) :
    execItems fuel environment [] state = .ok () state := by
  cases fuel with
  | zero =>
      cases notOut
  | succ fuel =>
      rfl

/-- The items of a file neither define functions nor leave a call or a scope open. -/
theorem execItems_keeps
    {items : List Item}
    {state after : State}
    (succeeds : execItems fuel environment items state = .ok () after)
    (outermost : state.scopes.inner = []) :
    after.functions = state.functions ∧ after.depth = state.depth ∧ after.scopes.inner = [] := by
  induction items generalizing fuel state with
  | nil =>
      cases fuel with
      | zero =>
          cases succeeds
      | succ fuel =>
          cases succeeds
          exact ⟨rfl, rfl, outermost⟩
  | cons first rest inductionHypothesis =>
      cases fuel with
      | zero =>
          cases succeeds
      | succ fuel =>
          cases first with
          | function declaration =>
              exact inductionHypothesis succeeds outermost
          | type declaration =>
              exact inductionHypothesis succeeds outermost
          | statement inner =>
              simp only [execItems] at succeeds
              have ends := (preserves fuel).exec environment inner
                (state.note (statementRecord environment.logger inner))
              cases executed : exec fuel environment inner
                  (state.note (statementRecord environment.logger inner)) with
              | fail failure between =>
                  simp [executed, Outcome.andThen] at succeeds
              | ok signal between =>
                  rw [executed] at ends
                  simp only [executed, Outcome.andThen] at succeeds
                  have follows : State.Follows _ _ between := ends
                  have stillOutermost : between.scopes.inner = [] :=
                    follows.scopes.inner_eq_nil outermost
                  obtain ⟨sameFunctions, sameDepth, restOutermost⟩ :=
                    inductionHypothesis succeeds stillOutermost
                  exact ⟨sameFunctions.trans follows.functions,
                    sameDepth.trans follows.depth, restOutermost⟩

/-- A file that runs to its end has been hoisted, and its items have been executed. -/
theorem runFile_eq_ok
    {script : Script}
    {state hoisted after : State}
    (hoists : hoist script.origin script.file.items state = .ok () hoisted)
    (ran : runFile fuel environment script state = .ok () after) :
    ∃ fewer last, fuel = fewer + 1 ∧
      execItems fewer environment script.file.items hoisted = .ok () last ∧
      after = last.note (logged environment.logger .timing .runTook) := by
  cases fuel with
  | zero =>
      cases ran
  | succ fuel =>
      simp only [runFile, hoists, Outcome.andThen] at ran
      cases executed : execItems fuel environment script.file.items hoisted with
      | ok result last =>
          rw [executed] at ran
          cases ran
          exact ⟨fuel, last, rfl, executed, rfl⟩
      | fail failure last =>
          rw [executed] at ran
          cases failure <;> simp [fileResult] at ran

/-- A file runs its items after its functions are defined. -/
theorem runFile_of_execItems
    {script : Script}
    {state hoisted last : State}
    (hoists : hoist script.origin script.file.items state = .ok () hoisted)
    (executed : execItems fuel environment script.file.items hoisted = .ok () last) :
    runFile (fuel + 1) environment script state =
      .ok () (last.note (logged environment.logger .timing .runTook)) := by
  simp only [runFile, hoists, Outcome.andThen, executed, fileResult]

end Evaluation

end Scripting
