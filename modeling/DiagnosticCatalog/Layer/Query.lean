import DiagnosticCatalog.Layer.Operation
import DiagnosticCatalog.Registry.Query
/-!
Questions to a layer as data, and sessions with a registry and the layers over it. A question goes to
the registry or to one layer and changes nothing.
-/

namespace DiagnosticCatalog

inductive LayerQuery
  | contains (ref : Ref)
  | severityOf (ref : Ref)

def Layer.ask (r : Registry) (l : Layer) : LayerQuery → Except Failure Finding
  | .contains ref => (l.contains r ref).map .truth
  | .severityOf ref => (l.severityOf r ref).map .severity

/-- One thing that is asked of a registry or of a layer over it. -/
inductive LayeredCall
  | ask (q : Query)
  | askLayer (name : String) (q : LayerQuery)
  | perform (c : Change)

structure Reply where
  state : Layered
  log : List Notice
  outcome : Except Failure (Finding ⊕ Answer)

namespace Layered

def call (x : Layered) : LayeredCall → Reply
  | .ask q => ⟨x, [], (x.registry.ask q).map .inl⟩
  | .askLayer name q => ⟨x, [], ((x.layer name).ask x.registry q).map .inl⟩
  | .perform c => let turn := x.perform c; ⟨turn.state, turn.log, turn.outcome.map .inr⟩

/-- Calls one after the other, each in the state that the one before has left. -/
def session (x : Layered) : List LayeredCall → List Reply
  | [] => []
  | c :: cs => x.call c :: session (x.call c).state cs

end Layered

end DiagnosticCatalog
