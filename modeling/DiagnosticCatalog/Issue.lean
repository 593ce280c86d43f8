import DiagnosticCatalog.Value.Inline
/-!
Issues: the unchanging part of what can be reported. The level an issue currently has is not part of
it.
-/

namespace DiagnosticCatalog

structure Issue where
  code : Int
  name : String
  declaredId : String
  defaultLevel : Level
  category : Category
  parentCode? : Option Int
  rule? : Option String
  explanation? : Option String
  deriving DecidableEq, Repr, Inhabited

/-- Named values in the order in which they are given. -/
abbrev Fields := List (String × Value)

/-- A field only for a text that is there and not empty. -/
def textField (name : String) (text? : Option String) : Fields :=
  match text? with
  | some s => if s.isEmpty then [] else [(name, .text s)]
  | none => []

namespace Issue

def title (i : Issue) : String := "Issue #" ++ Decimal.intText i.code ++ " (" ++ i.name ++ ")"

def inherits (i : Issue) : Bool := i.defaultLevel == .inherit

def fields (i : Issue) : Fields :=
  [("code", .whole i.code), ("name", .text i.name), ("declared_id", .text i.declaredId),
    ("default_level", .text i.defaultLevel.word), ("category", .text i.category.key)] ++
  (match i.parentCode? with
    | some c => [("parent_code", .whole c)]
    | none => []) ++
  textField "rule" i.rule? ++ textField "explanation" i.explanation?

end Issue

end DiagnosticCatalog
