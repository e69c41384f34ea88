import FormatterConfig.Yaml.Fault

set_option autoImplicit false

/-! # The node graph of a document

The nodes of a document are numbered, and collections refer to their parts by number, so that an
alias is simply a second reference to a node, even from inside that node. -/

namespace FormatterConfig.Yaml

/-- What a node holds. -/
inductive NodeBody where
  | scalar (text : String)
  | sequence (items : List Nat)
  | mapping (pairs : List (Nat × Nat))

/-- A node with its tag and the mark at its start. -/
structure Node where
  tag : String
  start : Mark
  body : NodeBody

/-- The kind of a node. -/
def Node.kind (n : Node) : NodeKind :=
  match n.body with
  | .scalar _ => .scalar
  | .sequence _ => .sequence
  | .mapping _ => .mapping

/-- The nodes of a document by number. -/
structure Graph where
  nodes : Array Node

namespace Graph

/-- The graph without nodes. -/
def empty : Graph := ⟨#[]⟩

/-- The node with a number; a number that none has is an empty text. -/
def node (g : Graph) (i : Nat) : Node :=
  g.nodes.getD i ⟨"", ⟨0, 0, 0⟩, .scalar ""⟩

/-- Adds a node; its number is the count of the earlier ones. -/
def add (g : Graph) (n : Node) : Graph := ⟨g.nodes.push n⟩

/-- Replaces the node with a number. -/
def set (g : Graph) (i : Nat) (n : Node) : Graph := ⟨g.nodes.setIfInBounds i n⟩

end Graph

end FormatterConfig.Yaml
