import DiagnosticCatalog.Yaml.Node
/-!
Merge keys. An entry under one stands for the entries of the mapping that is its value, or of a list
of mappings, and what it brings in goes in front of the mapping's own entries. The graph is changed
for good: a mapping that was merged into another has lost its merge keys, and the keys written `=`
that were passed on the way are text from then on, wherever else they are referred to.
-/

namespace DiagnosticCatalog.Yaml.Graph

abbrev Entries := List (NodeId × NodeId)

def isMerge (g : Graph) (e : NodeId × NodeId) : Bool := (g.node e.1).tag == .merge

/-- How many entries stand for others. -/
def mergeCount (g : Graph) : Nat :=
  g.nodes.foldl (fun count n => count + n.entries.countP g.isMerge) 0

def settleKey (g : Graph) (e : NodeId × NodeId) : Graph :=
  if (g.node e.1).tag == .value then g.retag e.1 .text else g

/-- The mapping with the merged entries in front, its keys settled. -/
def mergeInto (g : Graph) (id : NodeId) (merged : Entries) : Graph :=
  let own := (g.node id).entries
  (own.foldl settleKey g).reshape id (.mapping (merged ++ own))

/-- The mapping without its first merge entry, and the value of that. -/
def takeMerge? (g : Graph) (id : NodeId) : Option (NodeId × Graph) :=
  let es := (g.node id).entries
  match es.dropWhile fun e => !g.isMerge e with
  | [] => none
  | e :: rest =>
    some (e.2, g.reshape id (.mapping ((es.takeWhile fun e => !g.isMerge e) ++ rest)))

/-- Replaces the merge entries of a mapping, after those of the mappings that they name. `merged`
holds what was brought in before. A merge entry is taken out before its value is looked at, so the
fuel need not exceed their number by more than one, also where a mapping names itself. -/
def flattenWith : (fuel : Nat) → (merged : Entries) → NodeId → Graph → Except Fault Graph
  | 0, _, _, _ => .error .malformed
  | fuel + 1, merged, id, g =>
    match g.takeMerge? id with
    | none => .ok (g.mergeInto id merged)
    | some (source, g) => do
      match (g.node source).shape with
      | .scalar _ => throw .malformed
      | .mapping _ =>
        let g ← flattenWith fuel [] source g
        flattenWith fuel (merged ++ (g.node source).entries) id g
      | .sequence items =>
        let (found, g) ← items.foldlM (fun (found, g) item => do
          match (g.node item).shape with
          | .mapping _ =>
            let g ← flattenWith fuel [] item g
            return ((g.node item).entries ++ found, g)
          | _ => throw .malformed) (([] : Entries), g)
        flattenWith fuel (merged ++ found) id g

def flatten (g : Graph) (id : NodeId) : Except Fault Graph := flattenWith (g.mergeCount + 1) [] id g

end DiagnosticCatalog.Yaml.Graph
