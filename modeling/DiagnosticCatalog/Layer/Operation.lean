import DiagnosticCatalog.Layer
import DiagnosticCatalog.Registry.Operation
/-!
A registry together with the layers over it, and their changes as data. Layers go by name; a name
under which nothing was made stands for an empty layer. A change is one of the registry or of a
single layer, and a layer whose change fails stays as it is.
-/

namespace DiagnosticCatalog

/-- The first two put a new layer in the place of the old one. -/
inductive LayerOperation
  | make (pairs : List (Ref × Value))
  | makePreset (name : String)
  | set (ref : Ref) (level : Value)
  | error (ref : Ref)
  | hide (ref : Ref)

namespace Layer

/-- A new layer from a preset by its name, which need not be one. -/
def ofPresetNamed (r : Registry) (name : String) : Except Failure Layer :=
  match Preset.find name with
  | .error e => .error e
  | .ok p => ofPreset r p

def change (r : Registry) (l : Layer) : LayerOperation → Except Failure Layer
  | .make pairs => ofMapping r pairs
  | .makePreset name => ofPresetNamed r name
  | .set ref level => l.set r ref level
  | .error ref => l.set r ref (.severity .error)
  | .hide ref => l.set r ref (.severity .hidden)

end Layer

structure Layered where
  registry : Registry
  layers : List (String × Layer)

inductive Change
  | registry (op : Operation)
  | layer (name : String) (op : LayerOperation)

/-- What a change leaves, what it makes known, and its answer or failure. -/
structure Turn where
  state : Layered
  log : List Notice
  outcome : Except Failure Answer

namespace Layered

def layer (x : Layered) (name : String) : Layer := (x.layers.lookup name).getD .empty

def putLayer (name : String) (l : Layer) : List (String × Layer) → List (String × Layer)
  | [] => [(name, l)]
  | (n, k) :: rest => if n = name then (n, l) :: rest else (n, k) :: putLayer name l rest

def perform (x : Layered) : Change → Turn
  | .registry op =>
    let run := x.registry.perform op
    ⟨{ x with registry := run.registry }, run.log, run.outcome⟩
  | .layer name op =>
    match (x.layer name).change x.registry op with
    | .error e => ⟨x, [], .error e⟩
    | .ok l => ⟨{ x with layers := putLayer name l x.layers }, [], .ok .done⟩

/-- The registry and its layers after a history, failures and all. -/
def replay (x : Layered) : List Change → Layered
  | [] => x
  | c :: cs => replay (x.perform c).state cs

/-- A registry before any layer is made. -/
def ofRegistry (r : Registry) : Layered := ⟨r, []⟩

end Layered

end DiagnosticCatalog
