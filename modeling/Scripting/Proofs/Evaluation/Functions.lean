import Scripting.Proofs.Evaluation.Outcome
import Scripting.Proofs.Parser.Cursor

namespace Scripting

/-!
# The functions of a table

What holds of the standard functions, of the functions of the host and of those that scripts define
holds of every function that there is.
-/

namespace FunctionTable

/-- Something holds of every function of a table. -/
def All (holds : Function → Prop) (table : FunctionTable) : Prop :=
  ∀ (name : String) function, table[name]? = some function → holds function

variable {holds : Function → Prop} {table : FunctionTable}

/-- A new function may be added to a table if what holds of all holds of it. -/
theorem All.insert
    {function : Function}
    (all : table.All holds)
    (name : String)
    (added : holds function) :
    All holds (table.insert name function) := by
  intro other found present
  rw [Std.ExtTreeMap.getElem?_insert] at present
  split at present
  · cases present
    exact added
  · exact all other found present

/-- What holds of the standard functions holds of the table they make. -/
theorem all_standardFunctions
    (standard : ∀ function, holds (.builtin (.standard function))) :
    standardFunctions.All holds := by
  have inserted (functions : List Standard) (table : FunctionTable) (all : table.All holds) :
      All holds (functions.foldl
        (fun table inner => table.insert inner.name (.builtin (.standard inner))) table) := by
    induction functions generalizing table with
    | nil =>
        exact all
    | cons first rest inductionHypothesis =>
        exact inductionHypothesis _ (all.insert _ (standard first))
  exact inserted _ ∅ fun _ _ present => by simp at present

/-- A host function may be registered if what holds of all holds of it. -/
theorem All.register
    {function : HostFunction}
    {functions : FunctionTable}
    (all : table.All holds)
    (host : holds (.builtin (.host function)))
    (registered : table.register function = .ok functions) :
    functions.All holds := by
  unfold FunctionTable.register at registered
  split at registered
  · cases registered
  · cases registered
    exact all.insert _ host

/-- So may host functions one after another. -/
theorem All.registerAll
    {hostFunctions : List HostFunction}
    {functions : FunctionTable}
    (all : table.All holds)
    (hosts : ∀ function ∈ hostFunctions, holds (.builtin (.host function)))
    (registered : table.registerAll hostFunctions = .ok functions) :
    functions.All holds := by
  induction hostFunctions generalizing table with
  | nil =>
      cases registered
      exact all
  | cons first rest inductionHypothesis =>
      simp only [FunctionTable.registerAll, Parser.bind_eq_ok] at registered
      obtain ⟨between, firstRegistered, restRegistered⟩ := registered
      exact inductionHypothesis (all.register (hosts first (by simp)) firstRegistered)
        (fun function member => hosts function (by simp [member])) restRegistered

end FunctionTable

/-- What holds of the functions of the host holds of those that a new session has. -/
theorem Session.all_of_create
    {holds : Function → Prop}
    {options : Options}
    {logger : Option Logger}
    {session : Session}
    (created : create options logger = .ok session)
    (standard : ∀ function, holds (.builtin (.standard function)))
    (hosts : ∀ function ∈ options.hostFunctions, holds (.builtin (.host function))) :
    session.functions.All holds := by
  simp only [create, Parser.bind_eq_ok] at created
  obtain ⟨functions, registered, ⟨⟩⟩ := created
  exact (FunctionTable.all_standardFunctions standard).registerAll hosts registered

/-- What holds of the functions that a script defines holds of those that there are afterwards. -/
theorem Evaluation.all_hoist
    {holds : Function → Prop}
    {state : State}
    (origin : Nat)
    (items : List Item)
    (all : state.functions.All holds)
    (defined :
      ∀ declaration, .function declaration ∈ items → holds (.user ⟨origin, declaration⟩)) :
    (hoist origin items state).state.functions.All holds := by
  induction items generalizing state with
  | nil =>
      exact all
  | cons first rest inductionHypothesis =>
      have later (declaration : FunctionDecl) (member : .function declaration ∈ rest) :
          holds (.user ⟨origin, declaration⟩) :=
        defined declaration (by simp [member])
      cases first with
      | function declaration =>
          have inserted := all.insert (UserFunction.name ⟨origin, declaration⟩)
            (defined declaration (by simp))
          simp only [hoist, defineFunction]
          split
          · refine inductionHypothesis ?_ later
            exact inserted
          · exact all
          · split
            · refine inductionHypothesis ?_ later
              exact inserted
            · exact all
      | type declaration =>
          refine inductionHypothesis ?_ later
          exact all
      | statement inner =>
          exact inductionHypothesis all later

end Scripting
