import DiagnosticCatalog.Decimal.Binary64
import DiagnosticCatalog.Text
/-!
JSON values. Objects are lists of members in order; the writer takes them as they stand, and the
reader never makes two members of one name.
-/

namespace DiagnosticCatalog

inductive Json
  | null
  | truth (b : Bool)
  | whole (n : Int)
  | real (x : Decimal.Binary64)
  | text (s : Text)
  | array (items : List Json)
  | object (members : List (Text × Json))
  deriving Inhabited

namespace Json

/-- The members with `name` bound to `value`: in place if the name is there, else at the end. -/
def bind (name : Text) (value : Json) : List (Text × Json) → List (Text × Json)
  | [] => [(name, value)]
  | (n, v) :: ms => if n = name then (n, value) :: ms else (n, v) :: bind name value ms

def member? (name : Text) : Json → Option Json
  | object ms => ms.lookup name
  | _ => none

end Json

end DiagnosticCatalog
