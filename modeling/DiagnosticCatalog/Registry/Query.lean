import DiagnosticCatalog.Registry.Operation
import DiagnosticCatalog.Registry.Report
/-!
Questions to a registry as data, and sessions of questions and changes. A question is about one issue
or the name of one, and changes nothing.
-/

namespace DiagnosticCatalog

inductive Query
  | byCode (code : Int)
  | byName (name : Text)
  | resolve (token : Token)
  | contains (ref : Ref)
  | require (ref : Ref)
  | parent (ref : Ref)
  | level (ref : Ref)
  | inherits (ref : Ref)
  | userSet (ref : Ref)
  | effective (ref : Ref)
  | describe (ref : Ref)

inductive Finding
  | issue (i? : Option Issue)
  | truth (b : Bool)
  | level (l : Level)
  | severity (s : Severity)
  | fields (fs : Fields)

/-- One thing that is asked of a registry. -/
inductive Call
  | ask (q : Query)
  | perform (op : Operation)

namespace Registry

def ask (r : Registry) : Query → Except Failure Finding
  | .byCode code => .ok (.issue ((r.byCode? code).map (·.issue)))
  | .byName name => .ok (.issue ((name.string?.bind r.byName?).map (·.issue)))
  | .resolve token =>
    match r.resolve token with
    | .error e => .error (.overlong e)
    | .ok found => .ok (.issue (found.map (·.issue)))
  | .contains ref => (r.contains ref).map .truth
  | .require ref => (r.require ref).map fun e => .issue (some e.issue)
  | .parent ref => (r.require ref).map fun e => .issue ((r.parentOf? e.issue).map (·.issue))
  | .level ref => (r.require ref).map fun e => .level e.level
  | .inherits ref => (r.require ref).map fun e => .truth (e.level == .inherit)
  | .userSet ref => (r.require ref).map fun e => .truth e.userSet
  | .effective ref => (r.effectiveOf ref).map .severity
  | .describe ref =>
    (r.require ref).bind fun e => ((r.describe e).mapError .ofCatalog).map .fields

def call (r : Registry) : Call → Run (Finding ⊕ Answer)
  | .ask q => ⟨r, [], (r.ask q).map .inl⟩
  | .perform op => (r.perform op).map .inr

/-- Calls one after the other, each of the registry that the one before has left. -/
def session (r : Registry) : List Call → List (Run (Finding ⊕ Answer))
  | [] => []
  | c :: cs => r.call c :: session (r.call c).registry cs

end Registry

end DiagnosticCatalog
