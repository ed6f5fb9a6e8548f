import Mathlib.Data.List.Nodup
import Scripting.Proofs.Evaluation.Fuel
import Scripting.Proofs.Session.Agreement

namespace Scripting

/-!
# The place of definitions

The definitions of a file take effect before its statements run, and the statements pass them over.
So it does not matter where in a file they stand, nor in which order, as long as no two of them have
the same name.  Passing over a definition takes a unit of fuel; this is the only difference.
-/

namespace File

/-- The functions that a file defines, in order. -/
def functions (file : File) : List FunctionDecl :=
  file.items.filterMap Item.function?

/-- The types that a file defines, in order. -/
def types (file : File) : List TypeDecl :=
  file.items.filterMap Item.type?

/-- The statements of a file, in order. -/
def statements (file : File) : List Stmt :=
  file.items.filterMap Item.statement?

/-- Two files have the same statements in the same order, and the same definitions in any order and
at any places. -/
structure Rearranges (first second : File) : Prop where
  position : second.position = first.position
  statements : second.statements = first.statements
  functions : first.functions.Perm second.functions
  types : first.types.Perm second.types

/-- What is rearranged may be arranged as it was. -/
theorem Rearranges.symm
    {first second : File}
    (rearranges : first.Rearranges second) :
    second.Rearranges first :=
  ⟨rearranges.position.symm, rearranges.statements.symm, rearranges.functions.symm,
    rearranges.types.symm⟩

end File

/-- Entries with different names can be put into a table in any order. -/
theorem Table.foldl_insert_of_perm
    {Definition Entry : Type}
    (name : Definition → String)
    (entry : Definition → Entry)
    {first second : List Definition}
    (permuted : first.Perm second)
    (distinct : (first.map name).Nodup)
    (table : Table Entry) :
    first.foldl (fun table definition => table.insert (name definition) (entry definition)) table =
      second.foldl (fun table definition => table.insert (name definition) (entry definition))
        table := by
  refine permuted.foldl_eq' (fun one oneMember other otherMember table => ?_) table
  by_cases sameName : name one = name other
  · rw [List.inj_on_of_nodup_map distinct oneMember otherMember sameName]
  · refine Std.ExtTreeMap.ext_getElem? fun key => ?_
    grind

namespace Item

/-- Only the functions among the items define functions. -/
theorem foldl_defineIn_eq (origin : Nat) (items : List Item) (functions : FunctionTable) :
    items.foldl (defineIn origin) functions =
      (items.filterMap function?).foldl
        (fun table declaration =>
          table.insert declaration.name.text (.user ⟨origin, declaration⟩)) functions := by
  induction items generalizing functions with
  | nil =>
      rfl
  | cons first rest inductionHypothesis =>
      cases first <;> exact inductionHypothesis _

/-- Only the types among the items bind names beforehand. -/
theorem foldl_bindIn_eq (items : List Item) (frame : Frame Variable) :
    items.foldl bindIn frame =
      ⟨frame.comment,
        (items.filterMap type?).foldl
          (fun table declaration =>
            table.insert declaration.name.text ⟨.type declaration.name.text, false⟩)
          frame.entries⟩ := by
  induction items generalizing frame with
  | nil =>
      rfl
  | cons first rest inductionHypothesis =>
      cases first <;> exact inductionHypothesis _

end Item

/-- The definitions of a file take effect in any order. -/
theorem File.Rearranges.hoisted_eq
    {first second : File}
    (rearranges : first.Rearranges second)
    (distinctFunctions : (first.functions.map fun declaration => declaration.name.text).Nodup)
    (distinctTypes : (first.types.map fun declaration => declaration.name.text).Nodup)
    (origin : Nat)
    (state : State) :
    state.hoisted origin second.items = state.hoisted origin first.items := by
  have sameFunctions :
      second.items.foldl (Item.defineIn origin) state.functions =
        first.items.foldl (Item.defineIn origin) state.functions := by
    rw [Item.foldl_defineIn_eq, Item.foldl_defineIn_eq]
    exact (Table.foldl_insert_of_perm _ _ rearranges.functions distinctFunctions _).symm
  have sameFrame :
      second.items.foldl Item.bindIn state.scopes.outer =
        first.items.foldl Item.bindIn state.scopes.outer := by
    rw [Item.foldl_bindIn_eq, Item.foldl_bindIn_eq]
    congr 1
    exact (Table.foldl_insert_of_perm _ _ rearranges.types distinctTypes _).symm
  rw [State.hoisted, State.hoisted, sameFunctions, sameFrame]

namespace Evaluation

/-- Functions under new and different names can be defined. -/
theorem hoist_of_new
    (origin : Nat)
    {items : List Item}
    {state : State}
    (outermost : state.scopes.inner = [])
    (distinct :
      ((items.filterMap Item.function?).map fun declaration => declaration.name.text).Nodup)
    (new :
      ∀ declaration ∈ items.filterMap Item.function?,
        state.functions[declaration.name.text]? = none) :
    hoist origin items state = .ok () (state.hoisted origin items) := by
  induction items generalizing state with
  | nil =>
      rfl
  | cons first rest inductionHypothesis =>
      cases first with
      | function declaration =>
          have isFunction : (Item.function declaration).function? = some declaration := rfl
          rw [List.filterMap_cons_some isFunction] at distinct new
          rw [List.map_cons, List.nodup_cons] at distinct
          obtain ⟨notLater, distinctLater⟩ := distinct
          rw [List.forall_mem_cons] at new
          obtain ⟨firstNew, laterNew⟩ := new
          have defines : defineFunction ⟨origin, declaration⟩ state =
              .ok () { state with
                functions :=
                  state.functions.insert declaration.name.text (.user ⟨origin, declaration⟩) } := by
            simp [defineFunction, UserFunction.name, firstNew]
          simp only [hoist, defines, Outcome.andThen]
          refine inductionHypothesis outermost distinctLater fun later member => ?_
          have different : declaration.name.text ≠ later.name.text := fun same =>
            notLater (same ▸ List.mem_map_of_mem member)
          have isNew := laterNew later member
          grind
      | type declaration =>
          have bound := ScopeChain.define_of_inner_nil outermost declaration.name.text
            (⟨.type declaration.name.text, false⟩ : Variable)
          have stillOutermost :
              (state.define declaration.name.text (.type declaration.name.text)
                false).scopes.inner = [] := by
            simp [State.define, bound]
          simp only [hoist]
          rw [inductionHypothesis stillOutermost distinct new]
          simp [State.hoisted, State.define, bound, Item.bindIn, Item.defineIn, outermost]
      | statement inner =>
          exact inductionHypothesis outermost distinct new

section Items

variable (environment : Environment)

/-- Running items adds lines to those printed before. -/
theorem lines_execItems (fuel : Nat) (items : List Item) (state : State) :
    state.lines <+: (execItems fuel environment items state).state.lines :=
  Step.lines_grow ⟨fuel, environment, .topLevel items, state⟩

/-- Without the definitions, the fuel of a file lasts at least as long. -/
theorem execItems_approaches_statements
    {fuel more : Nat}
    (enough : fuel ≤ more)
    (items : List Item)
    (state : State) :
    (execItems fuel environment items state).Approaches
      (execItems more environment ((items.filterMap Item.statement?).map .statement) state) := by
  induction items generalizing fuel more state with
  | nil =>
      exact Task.run_approaches enough environment (.topLevel []) state
  | cons first rest inductionHypothesis =>
      cases fuel with
      | zero =>
          exact .cutOff (lines_execItems environment more _ state)
      | succ fuel =>
          cases first with
          | function declaration =>
              exact inductionHypothesis (Nat.le_of_succ_le enough) state
          | type declaration =>
              exact inductionHypothesis (Nat.le_of_succ_le enough) state
          | statement inner =>
              obtain ⟨fewer, rfl⟩ : ∃ fewer, more = fewer + 1 := ⟨more - 1, by omega⟩
              have enoughInside : fuel ≤ fewer := Nat.le_of_succ_le_succ enough
              refine (Task.run_approaches enoughInside environment (.stmt inner) _).andThen
                (fun _ between => inductionHypothesis enoughInside between)
                fun _ between => lines_execItems environment fewer _ between

/-- With a unit of fuel for each item, the fuel of a file lasts as long as without the
definitions. -/
theorem execItems_statements_approaches
    {fuel more : Nat}
    {items : List Item}
    (enough : fuel + items.length ≤ more)
    (state : State) :
    (execItems fuel environment ((items.filterMap Item.statement?).map .statement)
        state).Approaches
      (execItems more environment items state) := by
  induction items generalizing fuel more state with
  | nil =>
      exact Task.run_approaches enough environment (.topLevel []) state
  | cons first rest inductionHypothesis =>
      rw [List.length_cons] at enough
      obtain ⟨fewer, rfl⟩ : ∃ fewer, more = fewer + 1 := ⟨more - 1, by omega⟩
      cases first with
      | function declaration =>
          exact inductionHypothesis (by omega) state
      | type declaration =>
          exact inductionHypothesis (by omega) state
      | statement inner =>
          cases fuel with
          | zero =>
              exact .cutOff (lines_execItems environment _ _ state)
          | succ fuel =>
              have enoughInside : fuel ≤ fewer := by omega
              refine (Task.run_approaches enoughInside environment (.stmt inner) _).andThen
                (fun _ between => inductionHypothesis (by omega) between)
                fun _ between => lines_execItems environment fewer rest between

end Items

/-- The record of how a file ended keeps outcomes approaching each other. -/
theorem fileResult_approaches
    {first second : Outcome Unit}
    (approaches : first.Approaches second)
    (logger : Option Logger)
    (position : Position) :
    (fileResult logger position first).Approaches (fileResult logger position second) := by
  cases approaches with
  | same =>
      exact .same _
  | cutOff started =>
      exact .cutOff (by rwa [lines_fileResult])

/-- A file goes as far as one with the same statements and definitions does with less fuel. -/
theorem runFile_approaches
    {first second : File}
    (rearranges : first.Rearranges second)
    (distinctFunctions : (first.functions.map fun declaration => declaration.name.text).Nodup)
    (distinctTypes : (first.types.map fun declaration => declaration.name.text).Nodup)
    {state : State}
    (outermost : state.scopes.inner = [])
    (new :
      ∀ declaration ∈ first.functions, state.functions[declaration.name.text]? = none)
    {fuel more : Nat}
    (enough : fuel + second.items.length ≤ more)
    (environment : Environment)
    (origin : Nat) :
    (runFile fuel environment ⟨origin, first⟩ state).Approaches
      (runFile more environment ⟨origin, second⟩ state) := by
  cases fuel with
  | zero =>
      exact .cutOff (Step.lines_grow ⟨more, environment, .file ⟨origin, second⟩, state⟩)
  | succ fuel =>
      obtain ⟨fewer, rfl⟩ : ∃ fewer, more = fewer + 1 := ⟨more - 1, by omega⟩
      have enoughInside : fuel + second.items.length ≤ fewer := by omega
      have firstHoists := hoist_of_new origin outermost distinctFunctions new
      have secondHoists := hoist_of_new origin outermost
        ((rearranges.functions.map _).nodup_iff.mp distinctFunctions)
        fun declaration member => new declaration (rearranges.functions.mem_iff.mpr member)
      rw [rearranges.hoisted_eq distinctFunctions distinctTypes] at secondHoists
      have withoutDefinitions :=
        execItems_approaches_statements environment (Nat.le_refl fuel) first.items
          (state.hoisted origin first.items)
      have withDefinitions :=
        execItems_statements_approaches environment enoughInside
          (state.hoisted origin first.items)
      have sameStatements :
          second.items.filterMap Item.statement? = first.items.filterMap Item.statement? :=
        rearranges.statements
      rw [sameStatements] at withDefinitions
      simp only [runFile, firstHoists, secondHoists, Outcome.andThen, rearranges.position]
      exact fileResult_approaches (withoutDefinitions.trans withDefinitions) _ _

end Evaluation

namespace Session

/-- One script prints, logs, ends and leaves behind what another one does, as soon as it has some
more fuel.  Where the other one runs out of fuel, it prints at least as much. -/
def Matches (session : Session) (script other : Script) : Prop :=
  ∀ (limits : Limits) (more : Nat), limits.fuel + other.file.items.length ≤ more →
    ((session.run limits script).ending ≠ .outOfFuel →
        session.run { limits with fuel := more } other = session.run limits script) ∧
      (session.run limits script).output <+: (session.run { limits with fuel := more } other).output

/-- What a session makes of a script it makes of the rearranged one, with as much fuel or more. -/
theorem matches_of_rearranges
    {session : Session}
    {first second : File}
    (rearranges : first.Rearranges second)
    (distinctFunctions : (first.functions.map fun declaration => declaration.name.text).Nodup)
    (distinctTypes : (first.types.map fun declaration => declaration.name.text).Nodup)
    (new :
      ∀ declaration ∈ first.functions, session.functions[declaration.name.text]? = none)
    (origin : Nat) :
    session.Matches ⟨origin, first⟩ ⟨origin, second⟩ := by
  intro limits more enough
  have sameEnvironment :
      session.environment { limits with fuel := more } = session.environment limits :=
    rfl
  have outermost : (State.ofSession session []).scopes.inner = [] := rfl
  have approaches := Evaluation.runFile_approaches rearranges distinctFunctions distinctTypes
    outermost new enough (session.environment limits) origin
  simp only [run, runAfter_eq, sameEnvironment]
  revert approaches
  generalize Evaluation.runFile limits.fuel _ _ _ = smaller
  generalize Evaluation.runFile more _ _ _ = larger
  intro approaches
  refine ⟨fun ended => ?_, approaches.lines⟩
  cases approaches with
  | same =>
      rfl
  | cutOff =>
      exact (ended rfl).elim

/-- Where the definitions of a file stand does not matter.  If the functions have new and different
names and the types different ones, files with the same statements in the same order and the same
definitions print, log, end and leave behind the same. -/
theorem definitions_may_stand_anywhere
    {session : Session}
    {first second : File}
    (rearranges : first.Rearranges second)
    (distinctFunctions : (first.functions.map fun declaration => declaration.name.text).Nodup)
    (distinctTypes : (first.types.map fun declaration => declaration.name.text).Nodup)
    (new :
      ∀ declaration ∈ first.functions, session.functions[declaration.name.text]? = none)
    (origin : Nat) :
    session.Matches ⟨origin, first⟩ ⟨origin, second⟩ ∧
      session.Matches ⟨origin, second⟩ ⟨origin, first⟩ := by
  refine ⟨matches_of_rearranges rearranges distinctFunctions distinctTypes new origin, ?_⟩
  refine matches_of_rearranges rearranges.symm ?_ ?_ ?_ origin
  · exact (rearranges.functions.map _).nodup_iff.mp distinctFunctions
  · exact (rearranges.types.map _).nodup_iff.mp distinctTypes
  · exact fun declaration member => new declaration (rearranges.functions.mem_iff.mpr member)

end Session

/-- The file backwards. -/
def File.reversed (file : File) : File :=
  { file with items := file.items.reverse }

/-- A file with one statement at most may be reversed. -/
theorem File.rearranges_reversed
    {file : File}
    (few : file.statements.length ≤ 1) :
    file.Rearranges file.reversed := by
  refine ⟨rfl, ?_, ?_, ?_⟩
  · match statements : file.statements, few with
    | [], _ =>
        simpa [File.statements, reversed] using statements
    | [statement], _ =>
        simpa [File.statements, reversed] using congrArg List.reverse statements
  · rw [File.functions, File.functions, reversed, List.filterMap_reverse]
    exact (List.reverse_perm _).symm
  · rw [File.types, File.types, reversed, List.filterMap_reverse]
    exact (List.reverse_perm _).symm

namespace Session

/-- Two functions that call each other, a type, and a statement that uses them. -/
def parityScript : String :=
  "type Parity\nfun even(n) \x7b if (n == 0) \x7b return Parity \x7d\n  return odd(n - 1) \x7d\n" ++
    "fun odd(n) \x7b if (n == 0) \x7b return null \x7d\n  return even(n - 1) \x7d\n" ++
    "print([even(4), even(3)])"

/-- The script runs as well with its statement before its definitions. -/
theorem parity_runs_backwards :
    ∃ session script,
      reading? .usual parityScript = some (session, script) ∧
        session.run (.still 90) ⟨script.origin, script.file.reversed⟩ =
          session.run (.still 80) script ∧
        (session.run (.still 90) ⟨script.origin, script.file.reversed⟩).output =
          ["[Parity, null]"] := by
  have checked :
      (reading? .usual parityScript).any (fun (session, script) =>
        decide ((session.run (.still 80) script).ending.isFinished = true ∧
          (session.run (.still 80) script).output = ["[Parity, null]"] ∧
          script.file.statements.length ≤ 1 ∧
          (script.file.functions.map fun declaration => declaration.name.text).Nodup ∧
          (script.file.types.map fun declaration => declaration.name.text).Nodup ∧
          (Limits.still 80).fuel + script.file.reversed.items.length ≤ 90) &&
        script.file.functions.all fun declaration =>
          (session.functions[declaration.name.text]?).isNone) = true := by
    decide +kernel
  obtain ⟨⟨session, script⟩, reads, holds⟩ := (Option.any_eq_true _ _).mp checked
  obtain ⟨decided, allNew⟩ := Bool.and_eq_true_iff.mp holds
  obtain ⟨isFinished, printed, few, distinctFunctions, distinctTypes, enough⟩ :=
    of_decide_eq_true decided
  have new : ∀ declaration ∈ script.file.functions,
      session.functions[declaration.name.text]? = none := by
    simpa using allNew
  obtain ⟨runsAlike, -⟩ := definitions_may_stand_anywhere (File.rearranges_reversed few)
    distinctFunctions distinctTypes new script.origin
  obtain ⟨same, -⟩ := runsAlike (.still 80) 90 enough
  have backwards := same (by rw [Ending.eq_finished isFinished]; rintro ⟨⟩)
  exact ⟨session, script, reads, backwards, (congrArg Execution.output backwards).trans printed⟩

end Session

end Scripting
