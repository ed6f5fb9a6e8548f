import Scripting.Yaml.Scalar

namespace Scripting.Yaml

/-!
# Nodes

A document is a tree of scalars, sequences and mappings; each of them knows the line on which it
starts.
-/

mutual

/-- A part of a document. -/
inductive Node where
  | scalar (content : Scalar)
  | sequence (line : Nat) (items : List Node)
  | mapping (line : Nat) (entries : List Entry)

/-- A key of a mapping with its value. -/
inductive Entry where
  | mk (key : Scalar) (value : Node)

end

namespace Entry

/-- The key of an entry. -/
def key : Entry → Scalar
  | .mk name _ => name

/-- The value of an entry. -/
def value : Entry → Node
  | .mk _ content => content

end Entry

namespace Node

/-- The node that stands for nothing. -/
def nothing (line : Nat) : Node :=
  .scalar ⟨line, false, ""⟩

/-- The line on which a node starts. -/
def line : Node → Nat
  | .scalar content => content.line
  | .sequence start _ => start
  | .mapping start _ => start

/-- The tag of a node. -/
def tag : Node → String
  | .scalar content => content.meaning.tag
  | .sequence .. => "!!seq"
  | .mapping .. => "!!map"

end Node

end Scripting.Yaml
