import DiagnosticCatalog.Json.Printer
import DiagnosticCatalog.Value.Inline
/-!
The canonical JSON text of a value: members sorted by name in code-point order, sequences of all
kinds as arrays, members of closed types as their content, and a line break at the end. Names are
the display forms of keys; of two keys with one name the later wins.
-/

namespace DiagnosticCatalog

/-- Puts a member at its place in a sorted object; a member of the same name is replaced. -/
def Json.insertMember (name : Text) (value : Json) : List (Text × Json) → List (Text × Json)
  | [] => [(name, value)]
  | (n, v) :: ms =>
    if name = n then (name, value) :: ms
    else if name < n then (name, value) :: (n, v) :: ms
    else (n, v) :: insertMember name value ms

def categoryJson (c : Category) : Json :=
  .array [.text c.key, .text c.description, (c.ruleLink?.map Json.text).getD .null]

namespace Value

mutual

def toJson : Value → Json
  | null => .null
  | truth b => .truth b
  | whole n => .whole n
  | real x => .real x
  | text s => .text s
  | list xs => .array (toJsons xs)
  | tuple xs => .array (toJsons xs)
  | set _ xs => .array (toJsons xs)
  | map es => .object (toMembers [] es)
  | severity s => .text s.word
  | inherit => .text inheritWord
  | category c => categoryJson c
  | exit e => .whole e.code
  | cycle _ v => toJson v
  | v => .text v.display

def toJsons : List Value → List Json
  | [] => []
  | x :: xs => toJson x :: toJsons xs

/-- The entries put into the members already sorted, in order. -/
def toMembers (done : List (Text × Json)) : List (Value × Value) → List (Text × Json)
  | [] => done
  | (k, v) :: es => toMembers (Json.insertMember k.display (toJson v) done) es

end

/-- A margin for the width asked for; a negative width is as good as none but keeps the lines. -/
def marginOf (indent : Option Int) : Json.Margin := indent.map Int.toNat

def canonicalText (indent : Option Int) (v : Value) : String :=
  String.ofList (v.toJson.render (marginOf indent) 0 ++ ['\n'])

end Value

end DiagnosticCatalog
