import DiagnosticCatalog.Yaml.Collection
import DiagnosticCatalog.Yaml.Feed
import DiagnosticCatalog.Yaml.Merge
import DiagnosticCatalog.Yaml.ScalarValue
/-!
The value of a document. A collection is made empty when it is met, and filled when all that was met
before it is filled, so of two faults the one in fewer collections is told, and the earlier of two
at one depth.
-/

namespace DiagnosticCatalog.Yaml

/-- What was made of a document so far: the part that each node came to, the collections, and those
still to be filled, with their nodes. -/
structure Making where
  graph : Graph
  parts : Array (Option Part)
  collections : Array Collection
  pending : List (NodeId × Nat)

/-- A step of making that may fail. -/
abbrev Make (α : Type) := StateT Making (Except Fault) α

namespace Make

def refuse {α : Type} : Make α := throw .malformed

/-- The text of a node where a scalar is wanted: a mapping stands for what it has under `=`. -/
def scalarText (g : Graph) : (fuel : Nat) → NodeId → Except Fault Text
  | 0, _ => .error (.scalar .endless)
  | fuel + 1, id =>
    match (g.node id).shape with
    | .scalar text => .ok text
    | .sequence _ => .error .malformed
    | .mapping es =>
      match es.find? fun e => (g.node e.1).tag == .value with
      | some e => scalarText g fuel e.2
      | none => .error .malformed

/-- The text of a scalar that can be reached at all is reached past each node at most once. -/
def textOf (g : Graph) (id : NodeId) : Except Fault Text := scalarText g (g.nodes.size + 1) id

/-- The value of a node whose tag is one of scalars. A moment must be written as a scalar. -/
def atomOf (g : Graph) (id : NodeId) : Except Fault Value :=
  let n := g.node id
  match n.tag, n.shape with
  | .merge, _ | .value, _ | .other _, _ => .error .malformed
  | .moment, .mapping _ => (textOf g id).bind fun _ => .error (.scalar .noMoment)
  | tag, _ => (textOf g id).bind (scalarValue tag)

/-- The collection that a tag makes, still empty. -/
def started? : Tag → Option Collection
  | .sequence | .pairs => some (.list [])
  | .mapping => some (.map [])
  | .set => some (.set [])
  | _ => none

def addCollection (c : Collection) : Make Nat := fun m =>
  .ok (m.collections.size, { m with collections := m.collections.push c })

def setCollection (n : Nat) (c : Collection) : Make Unit := fun m =>
  .ok ((), { m with collections := m.collections.setIfInBounds n c })

/-- The part that a node comes to; a node comes to one part however often it is referred to. -/
def part (id : NodeId) : Make Part := do
  let m ← get
  if let some p := (m.parts[id]?).join then return p
  let p ← match started? (m.graph.node id).tag with
    | some c => do
      let n ← addCollection c
      modify fun m => { m with pending := m.pending ++ [(id, n)] }
      pure (.collection n)
    | none => .value <$> (atomOf m.graph id : Except Fault Value)
  modify fun m => { m with parts := m.parts.setIfInBounds id (some p) }
  return p

/-- A key is a value without parts that can change. -/
def key (id : NodeId) : Make Value := do
  match ← part id with
  | .value v => return v
  | .collection _ => refuse

def items (id : NodeId) : Make (List NodeId) := do
  match ((← get).graph.node id).shape with
  | .sequence items => return items
  | _ => refuse

/-- The entries of a mapping with those merged into it, a later value of a key replacing the earlier
one. -/
def entries (id : NodeId) : Make (List (Value × Part)) := do
  let m ← get
  match (m.graph.node id).shape with
  | .mapping _ =>
    let g ← (m.graph.flatten id : Except Fault Graph)
    modify fun m => { m with graph := g }
    let pairs ← (g.node id).entries.mapM fun e => return (← key e.1, ← part e.2)
    return Value.bindAll pairs
  | _ => refuse

/-- An item that is a mapping of one entry, as a pair. -/
def pair (id : NodeId) : Make Part := do
  match ((← get).graph.node id).shape with
  | .mapping [(k, v)] =>
    let pair := Collection.tuple [← part k, ← part v]
    return .collection (← addCollection pair)
  | _ => refuse

/-- Fills the collection of a node. -/
def fill (id : NodeId) (n : Nat) : Make Unit := do
  match ((← get).graph.node id).tag with
  | .sequence => setCollection n (.list (← (← items id).mapM part))
  | .pairs => setCollection n (.list (← (← items id).mapM pair))
  | .set => setCollection n (.set ((← entries id).map Prod.fst))
  | _ => setCollection n (.map (← entries id))

/-- Fills all that is pending, and then what that left pending. Each round but the last meets nodes
for the first time, so there are no more rounds than nodes. -/
def fillAll : (rounds : Nat) → Make Unit
  | 0 => return ()
  | rounds + 1 => do
    let pending := (← get).pending
    if pending.isEmpty then return ()
    modify fun m => { m with pending := [] }
    pending.forM fun (id, n) => fill id n
    fillAll rounds

end Make

/-- The value of a document. -/
def Document.value (d : Document) : Except Fault Value := do
  let size := d.graph.nodes.size
  let making : Make Part := do
    let root ← Make.part d.root
    Make.fillAll (size + 1)
    return root
  let (root, m) ← making.run ⟨d.graph, Array.replicate size none, #[], []⟩
  return root.unfolded m.collections

/-- The value of a text with at most one document; without any it is null. -/
def read (s : String) : Except Fault Value := do
  match ← Document.ofStream? (.ofChars s.toList) with
  | none => return .null
  | some d => d.value

end DiagnosticCatalog.Yaml
