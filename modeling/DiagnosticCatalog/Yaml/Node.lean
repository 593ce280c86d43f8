import DiagnosticCatalog.Yaml.Tag
/-!
Nodes, and documents as graphs of them. Nodes know each other by number, because an alias is the
very node that its anchor names, and that may be a collection in which the alias stands. A missing
node is an empty plain scalar.
-/

namespace DiagnosticCatalog.Yaml

/-- The number of a node in its graph. -/
abbrev NodeId := Nat

inductive Shape
  | scalar (text : Text)
  | sequence (items : List NodeId)
  | mapping (entries : List (NodeId × NodeId))
  deriving DecidableEq, Repr, Inhabited

structure Node where
  tag : Tag
  shape : Shape
  deriving DecidableEq, Repr

instance : Inhabited Node := ⟨.null, .scalar ""⟩

def Node.missing : Node := ⟨.null, .scalar ""⟩

/-- The entries of a mapping; any other node has none. -/
def Node.entries (n : Node) : List (NodeId × NodeId) :=
  match n.shape with
  | .mapping es => es
  | _ => []

structure Graph where
  nodes : Array Node
  deriving DecidableEq, Repr, Inhabited

namespace Graph

def empty : Graph := ⟨#[]⟩

/-- The node of a number, a missing one if there is none. -/
def node (g : Graph) (id : NodeId) : Node := g.nodes.getD id .missing

def add (g : Graph) (n : Node) : NodeId × Graph := (g.nodes.size, ⟨g.nodes.push n⟩)

def reshape (g : Graph) (id : NodeId) (s : Shape) : Graph :=
  ⟨g.nodes.modify id fun n => { n with shape := s }⟩

def retag (g : Graph) (id : NodeId) (t : Tag) : Graph :=
  ⟨g.nodes.modify id fun n => { n with tag := t }⟩

end Graph

/-- A document: its nodes, and which of them is the root. -/
structure Document where
  graph : Graph
  root : NodeId

end DiagnosticCatalog.Yaml
