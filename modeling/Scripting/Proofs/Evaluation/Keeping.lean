import Scripting.Proofs.Evaluation.Outcome
import Scripting.Proofs.Scoping
import Mathlib.Data.List.Forall2

namespace Scripting

/-!
# What a run keeps

Whatever a step of a run does, variables keep their mutability, and immutable ones their values.
Expressions bind no name at all.  A statement binds at most the one that it declares, in the
innermost frame.  Neither changes a function or the depth of calls.  All this holds of every tree
and in every state, however the step ends.
-/

/-- A variable keeps its mutability and, unless it is mutable, its value. -/
def Variable.Keeps (before after : Variable) : Prop :=
  after.mutable = before.mutable ∧ (before.mutable = false → after = before)

theorem Variable.Keeps.refl (entry : Variable) : entry.Keeps entry :=
  ⟨rfl, fun _ => rfl⟩

/-- Mutability is kept step by step, and so is the value of an immutable variable. -/
theorem Variable.Keeps.trans
    {first second third : Variable}
    (firstKept : first.Keeps second)
    (secondKept : second.Keeps third) :
    first.Keeps third := by
  refine ⟨secondKept.1.trans firstKept.1, fun immutable => ?_⟩
  have same := firstKept.2 immutable
  subst same
  exact secondKept.2 immutable

namespace Frame

/-- A frame keeps its names, and each of its variables is kept. -/
def Keeps (before after : Frame Variable) : Prop :=
  ∀ name, Option.Rel Variable.Keeps (before.find? name) (after.find? name)

theorem Keeps.refl (frame : Frame Variable) : frame.Keeps frame := by
  intro name
  cases frame.find? name with
  | none =>
      exact .none
  | some entry =>
      exact .some (.refl entry)

/-- What two steps keep in a row, their sequence keeps in the frame. -/
theorem Keeps.trans
    {first second third : Frame Variable}
    (firstKept : first.Keeps second)
    (secondKept : second.Keeps third) :
    first.Keeps third := by
  intro name
  have firstEntry := firstKept name
  have secondEntry := secondKept name
  generalize first.find? name = before at *
  generalize second.find? name = between at *
  generalize third.find? name = after at *
  cases firstEntry with
  | none =>
      exact secondEntry
  | some kept =>
      cases secondEntry with
      | some keptAgain =>
          exact .some (kept.trans keptAgain)

/-- A frame that keeps its names keeps its layout. -/
theorem Keeps.layout_eq
    {before after : Frame Variable}
    (kept : before.Keeps after) :
    after.layout = before.layout := by
  refine ext_find? rfl fun name => ?_
  have entryKept := kept name
  simp only [find?_layout]
  generalize before.find? name = first at *
  generalize after.find? name = second at *
  cases entryKept with
  | none =>
      rfl
  | some kept =>
      simp [kept.1]

/-- Giving a mutable variable another value keeps a frame. -/
theorem keeps_define
    {frame : Frame Variable}
    {name : String}
    {entry : Variable}
    (found : frame.find? name = some entry)
    (mutable : entry.mutable = true)
    (value : Value) :
    frame.Keeps (frame.define name { entry with value }) := by
  intro other
  rw [find?_define]
  split
  · next same =>
      subst same
      rw [found]
      refine .some ⟨rfl, fun immutable => ?_⟩
      simp [mutable] at immutable
  · exact Keeps.refl frame other

end Frame

namespace ScopeChain

/-- Every frame of a scope chain is kept. -/
structure Keeps (before after : Variables) : Prop where
  inner : List.Forall₂ Frame.Keeps before.inner after.inner
  outer : before.outer.Keeps after.outer

theorem Keeps.refl (chain : Variables) : Keeps chain chain :=
  ⟨List.forall₂_same.mpr fun _ _ => .refl _, .refl _⟩

/-- What two steps keep in a row, their sequence keeps in every frame. -/
theorem Keeps.trans
    {first second third : Variables}
    (firstKept : Keeps first second)
    (secondKept : Keeps second third) :
    Keeps first third := by
  refine ⟨?_, firstKept.outer.trans secondKept.outer⟩
  have firstInner := firstKept.inner
  have secondInner := secondKept.inner
  generalize first.inner = before at *
  generalize second.inner = between at *
  generalize third.inner = after at *
  induction firstInner generalizing after with
  | nil =>
      exact secondInner
  | cons frameKept _ inductionHypothesis =>
      cases secondInner with
      | cons frameKeptAgain restKeptAgain =>
          exact .cons (frameKept.trans frameKeptAgain) (inductionHypothesis _ restKeptAgain)

/-- A scope chain that is kept has the same names in the same frames. -/
theorem Keeps.layout_eq
    {before after : Variables}
    (kept : Keeps before after) :
    after.layout = before.layout := by
  have innerEq : after.inner.map Frame.layout = before.inner.map Frame.layout := by
    have innerKept := kept.inner
    generalize before.inner = first at *
    generalize after.inner = second at *
    induction innerKept with
    | nil =>
        rfl
    | cons frameKept _ inductionHypothesis =>
        simp [frameKept.layout_eq, inductionHypothesis]
  simp [layout, innerEq, kept.outer.layout_eq]

/-- No scope is opened or closed where every frame is kept. -/
theorem Keeps.inner_eq_nil_iff
    {before after : Variables}
    (kept : Keeps before after) :
    after.inner = [] ↔ before.inner = [] := by
  have sameLength := kept.inner.length_eq
  rw [← List.length_eq_zero_iff, ← List.length_eq_zero_iff, sameLength]

/-- The scope chain around the innermost frame is kept too. -/
theorem Keeps.pop
    {before after : Variables}
    (kept : Keeps before after) :
    Keeps before.pop after.pop := by
  rcases before with ⟨beforeInner, beforeOuter⟩
  rcases after with ⟨afterInner, afterOuter⟩
  rcases kept with ⟨innerKept, outerKept⟩
  cases innerKept with
  | nil =>
      exact ⟨.nil, outerKept⟩
  | cons _ restKept =>
      exact ⟨restKept, outerKept⟩

/-- Frames that do not bind a name are left alone by an assignment to it. -/
theorem replaceIn?_eq_none
    {frames : List (Frame Variable)}
    {name : String}
    (hidden : (frames.findSome? fun frame => frame.find? name) = none)
    (entry : Variable) :
    replaceIn? name entry frames = none := by
  induction frames with
  | nil =>
      rfl
  | cons frame rest inductionHypothesis =>
      rw [List.findSome?_cons] at hidden
      unfold replaceIn?
      cases here : frame.find? name with
      | some other =>
          simp [here] at hidden
      | none =>
          simp only [here] at hidden
          simp [inductionHypothesis hidden]

/-- Among frames that bind a name, an assignment changes the nearest one. -/
theorem replaceIn?_keeps
    {frames : List (Frame Variable)}
    {name : String}
    {entry : Variable}
    (found : (frames.findSome? fun frame => frame.find? name) = some entry)
    (mutable : entry.mutable = true)
    (value : Value) :
    ∃ changed, replaceIn? name { entry with value } frames = some changed ∧
      List.Forall₂ Frame.Keeps frames changed := by
  induction frames with
  | nil =>
      simp at found
  | cons frame rest inductionHypothesis =>
      rw [List.findSome?_cons] at found
      unfold replaceIn?
      cases here : frame.find? name with
      | some other =>
          simp only [here, Option.some.injEq] at found
          subst found
          exact ⟨_, rfl, .cons (Frame.keeps_define here mutable value)
            (List.forall₂_same.mpr fun _ _ => .refl _)⟩
      | none =>
          simp only [here] at found
          obtain ⟨changed, replaced, kept⟩ := inductionHypothesis found
          exact ⟨frame :: changed, by simp [replaced], .cons (.refl frame) kept⟩

/-- Assigning to a mutable variable keeps a scope chain. -/
theorem keeps_replace
    {chain : Variables}
    {name : String}
    {entry : Variable}
    (found : chain.find? name = some entry)
    (mutable : entry.mutable = true)
    (value : Value) :
    Keeps chain (chain.replace name { entry with value }) := by
  rw [find?_eq] at found
  unfold replace
  cases inside : chain.inner.findSome? fun frame => frame.find? name with
  | some other =>
      simp only [inside, Option.some_or, Option.some.injEq] at found
      subst found
      obtain ⟨changed, replaced, kept⟩ := replaceIn?_keeps inside mutable value
      simp only [replaced]
      exact ⟨kept, .refl _⟩
  | none =>
      simp only [inside, Option.none_or] at found
      simp only [replaceIn?_eq_none inside]
      exact ⟨List.forall₂_same.mpr fun _ _ => .refl _,
        Frame.keeps_define found mutable value⟩

/-- Every frame below the innermost one is kept. -/
structure KeepsBelow (before after : Variables) : Prop where
  opened : after.inner ≠ []
  below : Keeps before.pop after.pop

/-- Where every frame is kept, those below the innermost one are. -/
theorem Keeps.keepsBelow
    {before after : Variables}
    (kept : Keeps before after)
    (opened : before.inner ≠ []) :
    KeepsBelow before after :=
  ⟨fun closed => opened (kept.inner_eq_nil_iff.mp closed), kept.pop⟩

/-- The frames below the innermost one are kept step by step. -/
theorem KeepsBelow.trans
    {first second third : Variables}
    (firstKept : KeepsBelow first second)
    (secondKept : KeepsBelow second third) :
    KeepsBelow first third :=
  ⟨secondKept.opened, firstKept.below.trans secondKept.below⟩

/-- Binding a name in the innermost frame keeps the frames below it. -/
theorem keepsBelow_define
    {chain : Variables}
    (opened : chain.inner ≠ [])
    (name : String)
    (entry : Variable) :
    KeepsBelow chain (chain.define name entry) := by
  refine ⟨inner_define_ne_nil opened name entry, ?_⟩
  rw [pop_define opened]
  exact .refl _

/-- The scope chain after a statement: every frame is kept, and then the variable that the
statement declares is bound in the innermost one. -/
inductive Follows (before : Variables) : Option (Identifier × Bool) → Variables → Prop where
  | nothing :
      Keeps before after →
      Follows before none after
  | declares :
      Keeps before between →
      Follows before (some (identifier, mutable))
        (between.define identifier.text ⟨value, mutable⟩)

/-- The names after a statement are those before it, and the one it declares. -/
theorem Follows.layout_eq
    {before after : Variables}
    {declared : Option (Identifier × Bool)}
    (follows : Follows before declared after) :
    after.layout = before.layout.declare declared := by
  cases follows with
  | nothing kept =>
      exact kept.layout_eq
  | declares kept =>
      rw [layout_define, kept.layout_eq]
      rfl

/-- A statement leaves no scope open. -/
theorem Follows.inner_eq_nil
    {before after : Variables}
    {declared : Option (Identifier × Bool)}
    (follows : Follows before declared after)
    (outermost : before.inner = []) :
    after.inner = [] := by
  cases follows with
  | nothing kept =>
      exact kept.inner_eq_nil_iff.mpr outermost
  | declares kept =>
      exact (inner_define_eq_nil_iff _ _ _).mpr (kept.inner_eq_nil_iff.mpr outermost)

/-- Whatever a statement declares, it declares in the innermost frame. -/
theorem Follows.keepsBelow
    {before after : Variables}
    {declared : Option (Identifier × Bool)}
    (follows : Follows before declared after)
    (opened : before.inner ≠ []) :
    KeepsBelow before after := by
  cases follows with
  | nothing kept =>
      exact kept.keepsBelow opened
  | declares kept =>
      have keptBelow := kept.keepsBelow opened
      exact keptBelow.trans (keepsBelow_define keptBelow.opened _ _)

end ScopeChain

namespace State

/-- What an expression keeps: all but the values of mutable global variables, what was printed and
logged, and how often it turned to the clocks, to its context and to the host. -/
structure Keeps (before after : State) : Prop where
  inner : after.scopes.inner = before.scopes.inner
  outer : before.scopes.outer.Keeps after.scopes.outer
  functions : after.functions = before.functions
  depth : after.depth = before.depth

theorem Keeps.refl (state : State) : state.Keeps state :=
  ⟨rfl, .refl _, rfl, rfl⟩

/-- A look at the context keeps everything. -/
theorem keeps_glance (state : State) : state.Keeps state.glance :=
  ⟨rfl, .refl _, rfl, rfl⟩

/-- What two expressions keep in a row, their sequence keeps. -/
theorem Keeps.trans
    {first second third : State}
    (firstKept : first.Keeps second)
    (secondKept : second.Keeps third) :
    first.Keeps third where
  inner := secondKept.inner.trans firstKept.inner
  outer := firstKept.outer.trans secondKept.outer
  functions := secondKept.functions.trans firstKept.functions
  depth := secondKept.depth.trans firstKept.depth

/-- What an expression keeps includes every frame of its scope chain. -/
theorem Keeps.scopes
    {before after : State}
    (kept : before.Keeps after) :
    before.scopes.Keeps after.scopes :=
  ⟨kept.inner ▸ List.forall₂_same.mpr fun _ _ => .refl _, kept.outer⟩

/-- What every step keeps, however it ends. -/
structure KeepsGlobally (before after : State) : Prop where
  outer : before.scopes.outer.Keeps after.scopes.outer
  functions : after.functions = before.functions
  depth : after.depth = before.depth

/-- What steps keep globally is kept by their sequence. -/
theorem KeepsGlobally.trans
    {first second third : State}
    (firstKept : first.KeepsGlobally second)
    (secondKept : second.KeepsGlobally third) :
    first.KeepsGlobally third where
  outer := firstKept.outer.trans secondKept.outer
  functions := secondKept.functions.trans firstKept.functions
  depth := secondKept.depth.trans firstKept.depth

/-- What an expression keeps includes what every step keeps. -/
theorem Keeps.globally
    {before after : State}
    (kept : before.Keeps after) :
    before.KeepsGlobally after :=
  ⟨kept.outer, kept.functions, kept.depth⟩

/-- What statements in a body keep: all but the variables of the body itself. -/
structure KeepsBelow (before after : State) : Prop where
  scopes : before.scopes.KeepsBelow after.scopes
  functions : after.functions = before.functions
  depth : after.depth = before.depth

/-- Statements in a row keep all but the variables of their body. -/
theorem KeepsBelow.trans
    {first second third : State}
    (firstKept : first.KeepsBelow second)
    (secondKept : second.KeepsBelow third) :
    first.KeepsBelow third where
  scopes := firstKept.scopes.trans secondKept.scopes
  functions := secondKept.functions.trans firstKept.functions
  depth := secondKept.depth.trans firstKept.depth

/-- What the statements of a body keep includes what every step keeps. -/
theorem KeepsBelow.globally
    {before after : State}
    (kept : before.KeepsBelow after) :
    before.KeepsGlobally after :=
  ⟨kept.scopes.below.outer, kept.functions, kept.depth⟩

/-- What a statement leaves: its scope chain follows what the statement declares. -/
structure Follows (before : State) (declared : Option (Identifier × Bool)) (after : State) :
    Prop where
  scopes : before.scopes.Follows declared after.scopes
  functions : after.functions = before.functions
  depth : after.depth = before.depth

/-- A statement that only evaluates an expression declares nothing. -/
theorem Keeps.follows
    {before after : State}
    (kept : before.Keeps after) :
    before.Follows none after :=
  ⟨.nothing kept.scopes, kept.functions, kept.depth⟩

/-- An expression before a statement that declares nothing. -/
theorem Keeps.trans_follows
    {first second third : State}
    (kept : first.Keeps second)
    (follows : second.Follows none third) :
    first.Follows none third := by
  rcases follows with ⟨⟨scopesKept⟩, sameFunctions, sameDepth⟩
  exact ⟨.nothing (kept.scopes.trans scopesKept), sameFunctions.trans kept.functions,
    sameDepth.trans kept.depth⟩

/-- Two statements that declare nothing, in a row. -/
theorem Follows.trans
    {first second third : State}
    (firstFollows : first.Follows none second)
    (secondFollows : second.Follows none third) :
    first.Follows none third := by
  rcases firstFollows with ⟨⟨firstKept⟩, firstFunctions, firstDepth⟩
  rcases secondFollows with ⟨⟨secondKept⟩, secondFunctions, secondDepth⟩
  exact ⟨.nothing (firstKept.trans secondKept), secondFunctions.trans firstFunctions,
    secondDepth.trans firstDepth⟩

/-- A statement that declares nothing keeps what every step keeps. -/
theorem Follows.globally
    {before after : State}
    (follows : before.Follows none after) :
    before.KeepsGlobally after := by
  rcases follows with ⟨⟨scopesKept⟩, sameFunctions, sameDepth⟩
  exact ⟨scopesKept.outer, sameFunctions, sameDepth⟩

/-- A statement in a body keeps all but the variables of the body. -/
theorem Follows.keepsBelow
    {before after : State}
    {declared : Option (Identifier × Bool)}
    (follows : before.Follows declared after)
    (opened : before.scopes.inner ≠ []) :
    before.KeepsBelow after :=
  ⟨follows.scopes.keepsBelow opened, follows.functions, follows.depth⟩

end State

namespace Evaluation

/-- What is kept by a step and by what comes after it is kept by both together. -/
theorem keeps_andThen
    {First Second : Type}
    {before : State}
    {outcome : Outcome First}
    {next : First → State → Outcome Second}
    (first : before.Keeps outcome.state)
    (second : ∀ result (between : State), between.Keeps (next result between).state) :
    before.Keeps (outcome.andThen next).state := by
  cases outcome with
  | ok result between =>
      exact first.trans (second result between)
  | fail failure between =>
      exact first

/-- A step that is kept can come before a statement-like step. -/
theorem ends_andThen_of_keeps
    {First : Type}
    {before : State}
    {outcome : Outcome First}
    {next : First → State → Outcome Signal}
    {declared : Option (Identifier × Bool)}
    (first : before.Keeps outcome.state)
    (second :
      ∀ result between, before.Keeps between →
        (next result between).Ends (fun _ => before.Follows declared)
          (fun _ => before.KeepsGlobally)) :
    (outcome.andThen next).Ends (fun _ => before.Follows declared)
      (fun _ => before.KeepsGlobally) := by
  cases outcome with
  | ok result between =>
      exact second result between first
  | fail failure between =>
      exact first.globally

/-- Making an error of the end of a call does not change the state. -/
theorem state_callResult
    (position : Position)
    (name : String)
    (outcome : Outcome Signal) :
    (callResult position name outcome).state = outcome.state := by
  rcases outcome with ⟨_ | value | _ | _, state⟩ | ⟨error | message | _, state⟩
  case fail.error =>
    simp only [callResult]
    split <;> rfl
  all_goals rfl

/-- Reading a variable does not change the state. -/
theorem state_readVariable (identifier : Identifier) (state : State) :
    (readVariable identifier state).state = state := by
  unfold readVariable
  split <;> rfl

/-- An operator does not change the state. -/
theorem state_applyOperator
    (operator : Operator)
    (position : Position)
    (left right : Value)
    (state : State) :
    (applyOperator operator position left right state).state = state := by
  unfold applyOperator
  split <;> rfl

/-- Finding the elements of a loop does not change the state. -/
theorem state_loopElements (position : Position) (bound : Value) (state : State) :
    (loopElements position bound state).state = state := by
  unfold loopElements
  split
  · rfl
  · split <;> rfl

/-- An assignment gives another value to a mutable variable or fails. -/
theorem ends_writeVariable (identifier : Identifier) (value : Value) (state : State) :
    (writeVariable identifier value state).Ends
      (fun _ => state.Follows none) (fun _ => state.KeepsGlobally) := by
  unfold writeVariable assignVariable
  cases found : state.scopes.find? identifier.text with
  | none =>
      exact (State.Keeps.refl state).globally
  | some entry =>
      by_cases mutable : entry.mutable = true
      · simp only [mutable, ↓reduceIte]
        have kept := ScopeChain.keeps_replace found mutable value
        rw [mutable] at kept
        exact ⟨.nothing kept, rfl, rfl⟩
      · simp only [mutable, Bool.false_eq_true, ↓reduceIte]
        exact (State.Keeps.refl state).globally

/-- A body that keeps all below its own frame keeps all when that frame is closed. -/
theorem ends_leave
    (state inside : State)
    {outcome : Outcome Signal}
    (below : inside.scopes.pop = state.scopes)
    (sameFunctions : inside.functions = state.functions)
    (sameDepth : inside.depth = state.depth)
    (ends : outcome.Ends (fun _ => inside.KeepsBelow) (fun _ => inside.KeepsGlobally)) :
    (outcome.afterwards State.leave).Ends
      (fun _ => state.Follows none) (fun _ => state.KeepsGlobally) := by
  rw [Outcome.ends_afterwards]
  refine ends.imp (fun _ final kept => ?_) (fun _ final kept => ?_)
  · exact ⟨.nothing (below ▸ kept.scopes.below), kept.functions.trans sameFunctions,
      kept.depth.trans sameDepth⟩
  · have sameOuter : inside.scopes.outer = state.scopes.outer := by
      rw [← below]
      rfl
    exact ⟨sameOuter ▸ kept.outer, kept.functions.trans sameFunctions,
      kept.depth.trans sameDepth⟩

/-- The arguments of a call are bound in a frame above the global variables. -/
theorem scopes_enterCall
    (state : State)
    (function : UserFunction)
    (arguments : List Value) :
    (state.enterCall function arguments).scopes =
      ⟨[(function.parameters.zip arguments).foldl
          (fun frame (name, value) => frame.define name ⟨value, false⟩)
          (.empty ("function " ++ function.name))],
        state.scopes.outer⟩ := by
  have bound :
      ∀ (pairs : List (String × Value)) (frame : Frame Variable),
        pairs.foldl (fun (scopes : Variables) (name, value) => scopes.define name ⟨value, false⟩)
            ⟨[frame], state.scopes.outer⟩ =
          ⟨[pairs.foldl (fun frame (name, value) => frame.define name ⟨value, false⟩) frame],
            state.scopes.outer⟩ := by
    intro pairs
    induction pairs with
    | nil =>
        intro frame
        rfl
    | cons pair rest inductionHypothesis =>
        intro frame
        exact inductionHypothesis _
  exact bound _ _

/-- A script that a script runs changes nothing of the script that runs it. -/
theorem keeps_runScript
    (fuel : Nat)
    (environment : Environment)
    (position : Position)
    (text : String)
    (state : State) :
    state.Keeps
      (Evaluation.runScript (fuel + 1) environment position text state).state := by
  simp only [Evaluation.runScript]
  split
  · exact .refl state
  · split
    · exact ⟨rfl, .refl _, rfl, rfl⟩
    · generalize Evaluation.runFile fuel _ _ _ = outcome
      rcases outcome with ⟨_, final⟩ | ⟨error | message | _, final⟩ <;>
        exact ⟨rfl, .refl _, rfl, rfl⟩

/-- What the functions of the evaluator keep with an amount of fuel. -/
structure Preserves (fuel : Nat) : Prop where
  evalExpr :
    ∀ environment expression (state : State),
      state.Keeps (Evaluation.evalExpr fuel environment expression state).state
  evalAll :
    ∀ environment expressions (state : State),
      state.Keeps (Evaluation.evalAll fuel environment expressions state).state
  evalCondition :
    ∀ environment expression (state : State),
      state.Keeps (Evaluation.evalCondition fuel environment expression state).state
  callFunction :
    ∀ environment position function arguments (state : State),
      state.Keeps
        (Evaluation.callFunction fuel environment position function arguments state).state
  callStandard :
    ∀ environment position function arguments (state : State),
      state.Keeps
        (Evaluation.callStandard fuel environment position function arguments state).state
  runScript :
    ∀ environment position text (state : State),
      state.Keeps (Evaluation.runScript fuel environment position text state).state
  execAll :
    ∀ environment statements (state : State),
      state.scopes.inner ≠ [] →
      (Evaluation.execAll fuel environment statements state).Ends
        (fun _ => state.KeepsBelow) (fun _ => state.KeepsGlobally)
  exec :
    ∀ environment statement (state : State),
      (Evaluation.exec fuel environment statement state).Ends
        (fun _ => state.Follows statement.declared?) (fun _ => state.KeepsGlobally)
  execChoice :
    ∀ environment branches (state : State),
      (Evaluation.execChoice fuel environment branches state).Ends
        (fun _ => state.Follows none) (fun _ => state.KeepsGlobally)
  execFor :
    ∀ environment position key statements elements (state : State),
      (Evaluation.execFor fuel environment position key statements elements state).Ends
        (fun _ => state.Follows none) (fun _ => state.KeepsGlobally)
  execWhile :
    ∀ environment position condition statements (state : State),
      (Evaluation.execWhile fuel environment position condition statements state).Ends
        (fun _ => state.Follows none) (fun _ => state.KeepsGlobally)

namespace Preserves

variable {fuel : Nat} (smaller : Preserves fuel) (environment : Environment)

include smaller

/-- More fuel by one keeps what an expression keeps, form by form. -/
private theorem evalExpr_step (expression : Expr) (state : State) :
    state.Keeps (Evaluation.evalExpr (fuel + 1) environment expression state).state := by
  cases expression with
  | literal text value place =>
      exact .refl state
  | null place =>
      exact .refl state
  | name identifier =>
      simp only [Evaluation.evalExpr, state_readVariable]
      exact .refl state
  | paren inner place =>
      exact smaller.evalExpr environment inner state
  | template parts place =>
      exact keeps_andThen (smaller.evalAll environment parts state) fun _ _ => .refl _
  | list elements place =>
      exact keeps_andThen (smaller.evalAll environment elements state) fun _ _ => .refl _
  | binary operator left right =>
      refine keeps_andThen (smaller.evalExpr environment left state) fun first between => ?_
      refine keeps_andThen (smaller.evalExpr environment right between) fun second final => ?_
      rw [state_applyOperator]
      exact .refl final
  | call function arguments =>
      simp only [Evaluation.evalExpr]
      split
      · exact state.keeps_glance
      · split
        · exact state.keeps_glance
        · refine state.keeps_glance.trans ?_
          exact keeps_andThen (smaller.evalAll environment arguments state.glance)
            fun values between => smaller.callFunction environment _ _ values between

/-- Expressions in a row, the rest in the state that the first one left. -/
private theorem evalAll_step (expressions : List Expr) (state : State) :
    state.Keeps (Evaluation.evalAll (fuel + 1) environment expressions state).state := by
  cases expressions with
  | nil =>
      exact .refl state
  | cons first rest =>
      refine keeps_andThen (smaller.evalExpr environment first state) fun value between => ?_
      exact keeps_andThen (smaller.evalAll environment rest between) fun _ _ => .refl _

/-- A condition is an expression whose value is looked at. -/
private theorem evalCondition_step (expression : Expr) (state : State) :
    state.Keeps (Evaluation.evalCondition (fuel + 1) environment expression state).state := by
  refine keeps_andThen (smaller.evalExpr environment expression state) fun value between => ?_
  split <;> exact .refl between

/-- A call gives the frames of its caller back, and the depth. -/
private theorem callFunction_step
    (position : Position)
    (function : Function)
    (arguments : List Value)
    (state : State) :
    state.Keeps
      (Evaluation.callFunction (fuel + 1) environment position function arguments state).state := by
  cases function with
  | user callee =>
      simp only [Evaluation.callFunction]
      split
      · exact .refl state
      · split
        · exact .refl state
        · have inside := scopes_enterCall state callee arguments
          have opened : (state.enterCall callee arguments).scopes.inner ≠ [] := by
            simp [inside]
          have sameOuter : (state.enterCall callee arguments).scopes.outer =
              state.scopes.outer := by
            rw [inside]
          have bodyKept : (state.enterCall callee arguments).KeepsGlobally
              (Evaluation.execAll fuel environment callee.declaration.body.statements
                (state.enterCall callee arguments)).state := by
            have bodyEnds := smaller.execAll environment callee.declaration.body.statements
              (state.enterCall callee arguments) opened
            revert bodyEnds
            cases Evaluation.execAll fuel environment callee.declaration.body.statements
              (state.enterCall callee arguments) with
            | ok signal final =>
                exact State.KeepsBelow.globally
            | fail failure final =>
                exact id
          simp only [Outcome.state_afterwards, state_callResult]
          exact
            { inner := rfl
              outer := sameOuter ▸ bodyKept.outer
              functions := bodyKept.functions
              depth := by
                show _ - 1 = _
                rw [bodyKept.depth]
                rfl }
  | builtin callee =>
      simp only [Evaluation.callFunction]
      split
      · exact .refl state
      · cases callee with
        | host inner =>
            simp only [HostFunction.call]
            cases inner.resultIn arguments state <;> exact ⟨rfl, .refl _, rfl, rfl⟩
        | standard inner =>
            have kept := smaller.callStandard environment position inner arguments state
            simp only [Outcome.state_afterwards]
            exact ⟨kept.inner, kept.outer, kept.functions, kept.depth⟩

/-- A standard function leaves the variables of its caller alone. -/
private theorem callStandard_step
    (position : Position)
    (function : Standard)
    (arguments : List Value)
    (state : State) :
    state.Keeps
      (Evaluation.callStandard (fuel + 1) environment position function arguments state).state := by
  cases function with
  | length =>
      simp only [Evaluation.callStandard, lengthCall]
      split <;> exact .refl state
  | runScript =>
      exact smaller.runScript environment position _ state
  | _ =>
      exact ⟨rfl, .refl _, rfl, rfl⟩

/-- Statements in a row bind names in the frame of their body only. -/
private theorem execAll_step
    (statements : List Stmt)
    (state : State)
    (opened : state.scopes.inner ≠ []) :
    (Evaluation.execAll (fuel + 1) environment statements state).Ends
      (fun _ => state.KeepsBelow) (fun _ => state.KeepsGlobally) := by
  cases statements with
  | nil =>
      exact (State.Keeps.refl state).follows.keepsBelow opened
  | cons first rest =>
      have firstEnds := smaller.exec environment first state
      refine Outcome.Ends.andThen firstEnds fun signal between follows => ?_
      have keptBelow := follows.keepsBelow opened
      cases signal with
      | normal =>
          refine (smaller.execAll environment rest between keptBelow.scopes.opened).imp ?_ ?_
          · exact fun _ _ => keptBelow.trans
          · exact fun _ _ => keptBelow.globally.trans
      | _ =>
          exact keptBelow

/-- A statement binds at most what it declares, form by form. -/
private theorem exec_step (statement : Stmt) (state : State) :
    (Evaluation.exec (fuel + 1) environment statement state).Ends
      (fun _ => state.Follows statement.declared?) (fun _ => state.KeepsGlobally) := by
  cases statement with
  | expr value =>
      exact ends_andThen_of_keeps (smaller.evalExpr environment value state)
        fun _ _ kept => kept.follows
  | declare mutable name value place =>
      exact ends_andThen_of_keeps (smaller.evalExpr environment value state)
        fun _ _ kept => ⟨.declares kept.scopes, kept.functions, kept.depth⟩
  | assign defines name value =>
      refine ends_andThen_of_keeps (smaller.evalExpr environment value state)
        fun result between kept => ?_
      cases defines with
      | true =>
          exact ⟨.declares kept.scopes, kept.functions, kept.depth⟩
      | false =>
          refine (ends_writeVariable name result between).imp ?_ ?_
          · exact fun _ _ => kept.trans_follows
          · exact fun _ _ => kept.globally.trans
  | choice branches place =>
      exact smaller.execChoice environment branches state
  | forEach key bound body place =>
      refine ends_andThen_of_keeps (smaller.evalExpr environment bound state)
        fun value between kept => ?_
      have elementsKept : state.Keeps (loopElements bound.position value between).state := by
        rw [state_loopElements]
        exact kept
      refine ends_andThen_of_keeps elementsKept fun elements inside keptInside => ?_
      refine (smaller.execFor environment place key.text body.statements elements
        inside).imp ?_ ?_
      · exact fun _ _ => keptInside.trans_follows
      · exact fun _ _ => keptInside.globally.trans
  | whileLoop condition body place =>
      exact smaller.execWhile environment place condition body.statements state
  | «return» value place =>
      cases value with
      | none =>
          exact (State.Keeps.refl state).follows
      | some result =>
          exact ends_andThen_of_keeps (smaller.evalExpr environment result state)
            fun _ _ kept => kept.follows
  | control kind place =>
      cases kind <;> exact (State.Keeps.refl state).follows

/-- The chosen body has a frame of its own, which is left at its end. -/
private theorem execChoice_step (branches : List Branch) (state : State) :
    (Evaluation.execChoice (fuel + 1) environment branches state).Ends
      (fun _ => state.Follows none) (fun _ => state.KeepsGlobally) := by
  cases branches with
  | nil =>
      exact (State.Keeps.refl state).follows
  | cons first rest =>
      refine ends_andThen_of_keeps (smaller.evalCondition environment first.condition state)
        fun holds between kept => ?_
      cases holds with
      | true =>
          have bodyEnds := ends_leave between (between.enter "if") rfl rfl rfl
            (smaller.execAll environment first.body.statements _
              (by simp [State.enter, ScopeChain.push]))
          refine bodyEnds.imp ?_ ?_
          · exact fun _ _ => kept.trans_follows
          · exact fun _ _ => kept.globally.trans
      | false =>
          refine (smaller.execChoice environment rest between).imp ?_ ?_
          · exact fun _ _ => kept.trans_follows
          · exact fun _ _ => kept.globally.trans

/-- Every round has a frame of its own, with the key of the loop. -/
private theorem execFor_step
    (position : Position)
    (key : String)
    (statements : List Stmt)
    (elements : Elements)
    (state : State) :
    (Evaluation.execFor (fuel + 1) environment position key statements elements state).Ends
      (fun _ => state.Follows none) (fun _ => state.KeepsGlobally) := by
  simp only [Evaluation.execFor]
  split
  · exact (State.Keeps.refl state).follows
  · next element rest _ =>
      split
      · exact state.keeps_glance.globally
      · have bodyEnds := ends_leave state
          ((state.glance.enter "for loop").define key element false) rfl rfl rfl
          (smaller.execAll environment statements _
            (by simp [State.enter, State.define, ScopeChain.push, ScopeChain.define]))
        refine Outcome.Ends.andThen bodyEnds fun signal between follows => ?_
        cases signal with
        | returned value =>
            exact follows
        | broke =>
            exact follows
        | _ =>
            refine (smaller.execFor environment position key statements rest between).imp ?_ ?_
            · exact fun _ _ => follows.trans
            · exact fun _ _ => follows.globally.trans

/-- Every round has a frame of its own, after the condition outside of it. -/
private theorem execWhile_step
    (position : Position)
    (condition : Expr)
    (statements : List Stmt)
    (state : State) :
    (Evaluation.execWhile (fuel + 1) environment position condition statements state).Ends
      (fun _ => state.Follows none) (fun _ => state.KeepsGlobally) := by
  simp only [Evaluation.execWhile]
  split
  · exact state.keeps_glance.globally
  · refine ends_andThen_of_keeps
      (state.keeps_glance.trans (smaller.evalCondition environment condition state.glance))
      fun holds between kept => ?_
    cases holds with
    | false =>
        exact kept.follows
    | true =>
        have bodyEnds := ends_leave between (between.enter "while loop") rfl rfl rfl
          (smaller.execAll environment statements _
            (by simp [State.enter, ScopeChain.push]))
        have bodyEndsHere := bodyEnds.imp (fun _ _ => kept.trans_follows)
          (fun _ _ => kept.globally.trans)
        refine Outcome.Ends.andThen bodyEndsHere fun signal final follows => ?_
        cases signal with
        | returned value =>
            exact follows
        | broke =>
            exact follows
        | _ =>
            refine (smaller.execWhile environment position condition statements final).imp ?_ ?_
            · exact fun _ _ => follows.trans
            · exact fun _ _ => follows.globally.trans

end Preserves

/-- What the functions of the evaluator keep, with any amount of fuel. -/
theorem preserves (fuel : Nat) : Preserves fuel := by
  induction fuel with
  | zero =>
      constructor <;> intros <;>
        simp only [evalExpr, evalAll, evalCondition, callFunction, callStandard, runScript,
          execAll, exec, execChoice, execFor, execWhile, Outcome.state_fail, Outcome.ends_fail] <;>
        first
        | exact .refl _
        | exact (State.Keeps.refl _).globally
  | succ fuel smaller =>
      exact
        { evalExpr := smaller.evalExpr_step
          evalAll := smaller.evalAll_step
          evalCondition := smaller.evalCondition_step
          callFunction := smaller.callFunction_step
          callStandard := smaller.callStandard_step
          runScript := keeps_runScript fuel
          execAll := smaller.execAll_step
          exec := smaller.exec_step
          execChoice := smaller.execChoice_step
          execFor := smaller.execFor_step
          execWhile := smaller.execWhile_step }

section Finished

variable {fuel : Nat} {environment : Environment} {state after : State}

/-- An expression that gives a value keeps what expressions keep. -/
theorem keeps_evalExpr
    {expression : Expr}
    {value : Value}
    (evaluated : evalExpr fuel environment expression state = .ok value after) :
    state.Keeps after := by
  have kept := (preserves fuel).evalExpr environment expression state
  rwa [evaluated] at kept

/-- Expressions that give values keep what expressions keep. -/
theorem keeps_evalAll
    {expressions : List Expr}
    {values : List Value}
    (evaluated : evalAll fuel environment expressions state = .ok values after) :
    state.Keeps after := by
  have kept := (preserves fuel).evalAll environment expressions state
  rwa [evaluated] at kept

/-- A condition that is decided keeps what expressions keep. -/
theorem keeps_evalCondition
    {expression : Expr}
    {holds : Bool}
    (evaluated : evalCondition fuel environment expression state = .ok holds after) :
    state.Keeps after := by
  have kept := (preserves fuel).evalCondition environment expression state
  rwa [evaluated] at kept

/-- A body leaves the variables that it declares behind in its own frame. -/
theorem follows_body
    {statements : List Stmt}
    {inside : State}
    {signal : Signal}
    (executed :
      (execAll fuel environment statements inside).afterwards State.leave = .ok signal after)
    (opened : inside.scopes.inner ≠ [])
    (below : inside.scopes.pop = state.scopes)
    (sameFunctions : inside.functions = state.functions)
    (sameDepth : inside.depth = state.depth) :
    state.Follows none after :=
  (ends_leave state inside below sameFunctions sameDepth
    ((preserves fuel).execAll environment statements inside opened)).of_eq_ok executed

end Finished

end Evaluation

end Scripting
