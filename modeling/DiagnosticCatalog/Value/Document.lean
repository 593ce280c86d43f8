import DiagnosticCatalog.Json
import DiagnosticCatalog.Value
/-!
JSON values as documents.
-/

namespace DiagnosticCatalog.Value

mutual

def ofJson : Json → Value
  | .null => null
  | .truth b => truth b
  | .whole n => whole n
  | .real x => real x
  | .text s => text s
  | .array items => list (ofJsons items)
  | .object members => map (ofMembers members)

def ofJsons : List Json → List Value
  | [] => []
  | j :: js => ofJson j :: ofJsons js

def ofMembers : List (Text × Json) → List (Value × Value)
  | [] => []
  | (n, j) :: ms => (text n, ofJson j) :: ofMembers ms

end

end DiagnosticCatalog.Value
