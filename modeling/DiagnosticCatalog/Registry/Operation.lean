import DiagnosticCatalog.Settings
/-!
Changes of a registry as data, so that a history is a list of them. A change that fails has its
place in a history like any other.
-/

namespace DiagnosticCatalog

inductive Operation
  | setLevel (ref : Ref) (level : Value)
  | setSeverity (token : Token) (level : Value) (userSet : Bool)
  | configure (requests : List (Token × Value)) (userSet : Bool)
  | applyPreset (name : String)
  | applySettings (a : Arrangement)
  | reset

inductive Answer
  | done
  | found (all : Bool)
  | missed (tokens : List Text)
  | written (count : Nat)
  deriving DecidableEq, Repr

namespace Registry

def perform (r : Registry) : Operation → Run Answer
  | .setLevel ref level => (r.setLevel ref level).map fun _ => .done
  | .setSeverity token level userSet => (r.setSeverity token level userSet).map .found
  | .configure requests userSet => (r.configure requests userSet).map .missed
  | .applyPreset name => (r.applyPresetNamed name).map .written
  | .applySettings a => (r.applySettings a).map .missed
  | .reset => r.reset.map fun _ => .done

/-- The registry after a history, failures and all. -/
def replay (r : Registry) : List Operation → Registry
  | [] => r
  | op :: ops => replay (r.perform op).registry ops

end Registry

end DiagnosticCatalog
