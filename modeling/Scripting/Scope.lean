import Std.Data.ExtTreeMap

namespace Scripting

/-!
# Scopes

A scope chain is a stack of frames above an outermost frame.  Names are looked up from the
innermost frame outwards, and new names are bound in the innermost frame.  The same chains serve
the parser, which binds names to how they were declared, and the evaluator, which binds them to
values.
-/

/-- A finite map from names, in the order of names. -/
abbrev Table (Entry : Type) := Std.ExtTreeMap String Entry

/-- One scope: a comment on what it is for, and what its names are bound to. -/
structure Frame (Entry : Type) where
  comment : String
  entries : Table Entry

namespace Frame

/-- A frame without names. -/
def empty (comment : String) : Frame Entry :=
  ⟨comment, ∅⟩

/-- What a name is bound to in the frame. -/
def find? (frame : Frame Entry) (name : String) : Option Entry :=
  frame.entries[name]?

/-- Bind a name in the frame, in place of what it was bound to. -/
def define (frame : Frame Entry) (name : String) (entry : Entry) : Frame Entry :=
  { frame with entries := frame.entries.insert name entry }

/-- The names that are bound in the frame, in order. -/
def names (frame : Frame Entry) : List String :=
  frame.entries.keys

/-- The frame on one line, with what is shown for each entry. -/
def text (shown : String → Entry → String) (frame : Frame Entry) : String :=
  "scope " ++ frame.comment ++ " \x7b"
    ++ String.join (frame.entries.toList.map fun entry => " " ++ shown entry.1 entry.2)
    ++ " \x7d\n"

end Frame

/-- A stack of frames, innermost first, above an outermost one. -/
structure ScopeChain (Entry : Type) where
  inner : List (Frame Entry)
  outer : Frame Entry

namespace ScopeChain

/-- A chain of one frame. -/
def ofFrame (frame : Frame Entry) : ScopeChain Entry :=
  ⟨[], frame⟩

/-- A chain of one frame without names. -/
def empty (comment : String) : ScopeChain Entry :=
  ofFrame (.empty comment)

/-- The frames, innermost first. -/
def frames (chain : ScopeChain Entry) : List (Frame Entry) :=
  chain.inner ++ [chain.outer]

/-- The innermost frame. -/
def current (chain : ScopeChain Entry) : Frame Entry :=
  match chain.inner with
  | frame :: _ => frame
  | [] => chain.outer

/-- Open a frame inside the chain. -/
def push (chain : ScopeChain Entry) (comment : String) : ScopeChain Entry :=
  { chain with inner := .empty comment :: chain.inner }

/-- Close the innermost frame, unless it is the outermost one. -/
def pop (chain : ScopeChain Entry) : ScopeChain Entry :=
  { chain with inner := chain.inner.tail }

/-- Close every frame but the outermost one. -/
def outermost (chain : ScopeChain Entry) : ScopeChain Entry :=
  { chain with inner := [] }

/-- The nearest binding of a name and the frame that holds it. -/
def locate? (chain : ScopeChain Entry) (name : String) : Option (Entry × Frame Entry) :=
  chain.frames.findSome? fun frame => (frame.find? name).map fun entry => (entry, frame)

/-- The nearest binding of a name. -/
def find? (chain : ScopeChain Entry) (name : String) : Option Entry :=
  chain.frames.findSome? fun frame => frame.find? name

/-- Bind a name in the innermost frame, in place of what it was bound to there. -/
def define (chain : ScopeChain Entry) (name : String) (entry : Entry) : ScopeChain Entry :=
  match chain.inner with
  | frame :: rest => { chain with inner := frame.define name entry :: rest }
  | [] => { chain with outer := chain.outer.define name entry }

/-- Replace the nearest binding of a name among frames. -/
def replaceIn? (name : String) (entry : Entry) :
    List (Frame Entry) → Option (List (Frame Entry))
  | [] => none
  | frame :: rest =>
      match frame.find? name with
      | some _ => some (frame.define name entry :: rest)
      | none => (replaceIn? name entry rest).map (frame :: ·)

/-- Replace the nearest binding of a name, in the outermost frame if no other has one. -/
def replace (chain : ScopeChain Entry) (name : String) (entry : Entry) : ScopeChain Entry :=
  match replaceIn? name entry chain.inner with
  | some inner => { chain with inner }
  | none => { chain with outer := chain.outer.define name entry }

/-- The chain, one frame on a line, each indented more than the one inside it. -/
def text (shown : String → Entry → String) (chain : ScopeChain Entry) : String :=
  String.join (chain.frames.mapIdx fun depth frame =>
    String.ofList (List.replicate (2 * depth) ' ') ++ frame.text shown)

end ScopeChain

end Scripting
