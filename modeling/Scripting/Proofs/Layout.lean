import Scripting.Parser.Declarations
import Scripting.Evaluation.Function

namespace Scripting

/-!
# Layouts of scopes

The parser binds names to declarations and the evaluator binds them to values.  What the two have
in common is the layout of a scope chain: which names each frame binds, and which of them may be
assigned.  Comments, positions and values are left out of it.
-/

/-- What a name is bound to says whether the name may be assigned. -/
class Assignable (Entry : Type) where
  isMutable : Entry → Bool

instance : Assignable Bool := ⟨id⟩

instance : Assignable Binding := ⟨Binding.mutable⟩

instance : Assignable Variable := ⟨Variable.mutable⟩

@[simp] theorem isMutable_bool (mutable : Bool) :
    Assignable.isMutable mutable = mutable :=
  rfl

@[simp] theorem isMutable_binding (binding : Binding) :
    Assignable.isMutable binding = binding.mutable :=
  rfl

@[simp] theorem isMutable_variable (entry : Variable) :
    Assignable.isMutable entry = entry.mutable :=
  rfl

/-- A scope chain of which only names and their mutability are known. -/
abbrev Layout := ScopeChain Bool

namespace Frame

variable {Entry : Type}

@[simp] theorem find?_empty (comment name : String) :
    (Frame.empty comment : Frame Entry).find? name = none := by
  simp [Frame.empty, Frame.find?]

@[grind =] theorem find?_define
    (frame : Frame Entry)
    (defined name : String)
    (entry : Entry) :
    (frame.define defined entry).find? name =
      if defined = name then some entry else frame.find? name := by
  simp [Frame.define, Frame.find?, Std.ExtTreeMap.getElem?_insert]

@[simp] theorem find?_define_self
    (frame : Frame Entry)
    (name : String)
    (entry : Entry) :
    (frame.define name entry).find? name = some entry := by
  simp [find?_define]

/-- Frames with the same comment and the same bindings are equal. -/
theorem ext_find?
    {first second : Frame Entry}
    (sameComment : first.comment = second.comment)
    (sameEntries : ∀ name, first.find? name = second.find? name) :
    first = second := by
  have tables : first.entries = second.entries :=
    Std.ExtTreeMap.ext_getElem? fun {name} => sameEntries name
  cases first
  cases second
  simp_all

/-- One frame binds no more than another, and binds it in the same way. -/
def Within (small large : Frame Entry) : Prop :=
  ∀ name entry, small.find? name = some entry → large.find? name = some entry

theorem Within.refl (frame : Frame Entry) : frame.Within frame :=
  fun _ _ found => found

/-- Entries of one frame that are in a second and there in a third. -/
theorem Within.trans
    {first second third : Frame Entry}
    (firstWithin : first.Within second)
    (secondWithin : second.Within third) :
    first.Within third :=
  fun name entry found => secondWithin name entry (firstWithin name entry found)

/-- Binding a new name keeps every binding. -/
theorem within_define
    {frame : Frame Entry}
    {name : String}
    (new : frame.find? name = none)
    (entry : Entry) :
    frame.Within (frame.define name entry) := by
  intro other found otherFound
  rw [find?_define]
  split
  · next same =>
      subst same
      simp [new] at otherFound
  · exact otherFound

/-- A frame stays within another when a name is bound in it as the other binds it. -/
theorem Within.define
    {small large : Frame Entry}
    (within : small.Within large)
    {name : String}
    {entry : Entry}
    (found : large.find? name = some entry) :
    (small.define name entry).Within large := by
  intro other otherEntry otherFound
  rw [find?_define] at otherFound
  split at otherFound
  · next same =>
      cases otherFound
      exact same ▸ found
  · exact within other otherEntry otherFound

variable {Other : Type}

/-- Every name of one frame is a name of another. -/
def NamesWithin (small : Frame Entry) (large : Frame Other) : Prop :=
  ∀ name, (small.find? name).isSome → (large.find? name).isSome

theorem NamesWithin.refl (frame : Frame Entry) : frame.NamesWithin frame :=
  fun _ found => found

/-- A frame that binds another name has the names that it had. -/
theorem NamesWithin.define
    {small : Frame Entry}
    {large : Frame Other}
    (namesWithin : small.NamesWithin large)
    (name : String)
    (entry : Other) :
    small.NamesWithin (large.define name entry) := by
  intro other found
  rw [find?_define]
  split
  · rfl
  · exact namesWithin other found

/-- A name may be bound in the smaller frame that the larger one has. -/
theorem NamesWithin.of_define
    {small : Frame Entry}
    {large : Frame Other}
    (namesWithin : small.NamesWithin large)
    {name : String}
    (isName : (large.find? name).isSome)
    (entry : Entry) :
    (small.define name entry).NamesWithin large := by
  intro other found
  rw [find?_define] at found
  split at found
  · next same =>
      exact same ▸ isName
  · exact namesWithin other found

variable [Assignable Entry]

/-- The names of a frame and their mutability. -/
def layout (frame : Frame Entry) : Frame Bool :=
  ⟨"", frame.entries.map fun _ entry => Assignable.isMutable entry⟩

/-- The layout of a frame says of every name whether it may be assigned. -/
@[simp] theorem find?_layout (frame : Frame Entry) (name : String) :
    frame.layout.find? name = (frame.find? name).map Assignable.isMutable := by
  simp [layout, find?]

/-- Frames of the same layout have the same names. -/
theorem NamesWithin.of_layout_eq
    {small : Frame Other}
    {before after : Frame Entry}
    (namesWithin : small.NamesWithin before)
    (sameLayout : after.layout = before.layout) :
    small.NamesWithin after := by
  intro name found
  have sameEntry := congrArg (fun layout => (layout.find? name).isSome) sameLayout
  simp only [find?_layout, Option.isSome_map] at sameEntry
  rw [sameEntry]
  exact namesWithin name found

@[simp] theorem layout_empty (comment : String) :
    (Frame.empty comment : Frame Entry).layout = .empty "" := by
  refine ext_find? rfl fun name => ?_
  simp

/-- Defining an entry in a frame adds its mutability to the layout. -/
@[simp] theorem layout_define
    (frame : Frame Entry)
    (name : String)
    (entry : Entry) :
    (frame.define name entry).layout =
      frame.layout.define name (Assignable.isMutable entry) := by
  refine ext_find? rfl fun other => ?_
  simp only [find?_layout, find?_define]
  split <;> rfl

end Frame

namespace ScopeChain

variable {Entry : Type}

/-- A name is looked up in the innermost frame and then in the frames around it. -/
theorem find?_eq (chain : ScopeChain Entry) (name : String) :
    chain.find? name =
      (chain.inner.findSome? fun frame => frame.find? name).or (chain.outer.find? name) := by
  simp only [find?, frames, List.findSome?_append, List.findSome?_cons, List.findSome?_nil]
  cases chain.outer.find? name <;> rfl

/-- In an outermost scope names are looked up in its single frame. -/
theorem find?_of_inner_nil
    {chain : ScopeChain Entry}
    (outermost : chain.inner = [])
    (name : String) :
    chain.find? name = chain.outer.find? name := by
  simp [find?_eq, outermost]

/-- A name that no frame binds is not bound in the innermost one. -/
theorem current_find?_eq_none
    {chain : ScopeChain Entry}
    {name : String}
    (hidden : chain.find? name = none) :
    chain.current.find? name = none := by
  rw [find?_eq, Option.or_eq_none_iff] at hidden
  unfold current
  cases shape : chain.inner with
  | nil =>
      exact hidden.2
  | cons frame rest =>
      simp only [shape, List.findSome?_cons] at hidden
      cases found : frame.find? name with
      | none =>
          rfl
      | some entry =>
          simp [found] at hidden

@[simp] theorem pop_push (chain : ScopeChain Entry) (comment : String) :
    (chain.push comment).pop = chain :=
  rfl

/-- What is bound last is found. -/
@[simp] theorem find?_define_self
    (chain : ScopeChain Entry)
    (name : String)
    (entry : Entry) :
    (chain.define name entry).find? name = some entry := by
  rcases chain with ⟨_ | ⟨frame, rest⟩, outer⟩ <;> simp [define, find?, frames]

/-- A binding in an inner frame leaves the outermost frame alone. -/
theorem outer_define
    {chain : ScopeChain Entry}
    (opened : chain.inner ≠ [])
    (name : String)
    (entry : Entry) :
    (chain.define name entry).outer = chain.outer := by
  unfold define
  split
  · rfl
  · next closed =>
      exact (opened closed).elim

/-- A binding at the outermost level goes to the outermost frame. -/
theorem define_of_inner_nil
    {chain : ScopeChain Entry}
    (outermost : chain.inner = [])
    (name : String)
    (entry : Entry) :
    chain.define name entry = ⟨[], chain.outer.define name entry⟩ := by
  rcases chain with ⟨inner, outer⟩
  cases outermost
  rfl

/-- Closing the innermost frame drops what was defined in it. -/
theorem pop_define
    {chain : ScopeChain Entry}
    (opened : chain.inner ≠ [])
    (name : String)
    (entry : Entry) :
    (chain.define name entry).pop = chain.pop := by
  rcases chain with ⟨_ | ⟨frame, rest⟩, outer⟩
  · exact (opened rfl).elim
  · rfl

/-- A definition leaves an opened scope open. -/
theorem inner_define_ne_nil
    {chain : ScopeChain Entry}
    (opened : chain.inner ≠ [])
    (name : String)
    (entry : Entry) :
    (chain.define name entry).inner ≠ [] := by
  rcases chain with ⟨_ | ⟨frame, rest⟩, outer⟩
  · exact (opened rfl).elim
  · simp [define]

/-- A definition neither opens nor closes a scope. -/
theorem inner_define_eq_nil_iff
    (chain : ScopeChain Entry)
    (name : String)
    (entry : Entry) :
    (chain.define name entry).inner = [] ↔ chain.inner = [] := by
  rcases chain with ⟨_ | ⟨frame, rest⟩, outer⟩ <;> simp [define]

/-- What a binding does to the inner frames depends on these alone. -/
theorem inner_define_congr
    {first second : ScopeChain Entry}
    (sameInner : first.inner = second.inner)
    (name : String)
    (entry : Entry) :
    (first.define name entry).inner = (second.define name entry).inner := by
  rcases first with ⟨_ | ⟨frame, rest⟩, outer⟩ <;>
    rcases second with ⟨_ | ⟨other, others⟩, otherOuter⟩ <;> simp_all [define]

variable [Assignable Entry]

/-- The names of a scope chain and their mutability. -/
def layout (chain : ScopeChain Entry) : Layout :=
  ⟨chain.inner.map Frame.layout, chain.outer.layout⟩

@[simp] theorem layout_inner (chain : ScopeChain Entry) :
    chain.layout.inner = chain.inner.map Frame.layout :=
  rfl

@[simp] theorem layout_outer (chain : ScopeChain Entry) :
    chain.layout.outer = chain.outer.layout :=
  rfl

/-- The layout of a scope chain says of every visible name whether it may be assigned. -/
@[simp] theorem find?_layout (chain : ScopeChain Entry) (name : String) :
    chain.layout.find? name = (chain.find? name).map Assignable.isMutable := by
  have innermost :
      ∀ frames : List (Frame Entry),
        ((frames.map Frame.layout).findSome? fun frame => frame.find? name) =
          (frames.findSome? fun frame => frame.find? name).map Assignable.isMutable := by
    intro frames
    induction frames with
    | nil =>
        rfl
    | cons frame rest inductionHypothesis =>
        simp only [List.map_cons, List.findSome?_cons, Frame.find?_layout]
        cases frame.find? name with
        | none =>
            exact inductionHypothesis
        | some entry =>
            rfl
  simp only [find?_eq, layout_inner, layout_outer, innermost, Frame.find?_layout]
  cases chain.inner.findSome? fun frame => frame.find? name <;> rfl

@[simp] theorem current_layout (chain : ScopeChain Entry) :
    chain.layout.current = chain.current.layout := by
  rcases chain with ⟨_ | ⟨frame, rest⟩, outer⟩ <;> rfl

@[simp] theorem layout_push (chain : ScopeChain Entry) (comment : String) :
    (chain.push comment).layout = chain.layout.push "" := by
  simp [layout, push]

/-- Defining an entry in a scope chain adds its mutability to the layout. -/
@[simp] theorem layout_define
    (chain : ScopeChain Entry)
    (name : String)
    (entry : Entry) :
    (chain.define name entry).layout =
      chain.layout.define name (Assignable.isMutable entry) := by
  rcases chain with ⟨_ | ⟨frame, rest⟩, outer⟩ <;> simp [layout, define]

end ScopeChain

end Scripting
