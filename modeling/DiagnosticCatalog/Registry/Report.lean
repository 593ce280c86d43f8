import DiagnosticCatalog.Registry
/-!
What is told about one issue: its unchanging fields, and its state with the severity in effect.
-/

namespace DiagnosticCatalog.Registry

def stateFields (r : Registry) (e : Entry) (s : Severity) : Fields :=
  [("level", .text e.level.word), ("effective_severity", .text s.word),
    ("user_set", .truth e.userSet), ("category_description", .text e.issue.category.description)] ++
  textField "rule_link" e.issue.category.ruleLink? ++
  (match r.parentOf? e.issue with
    | some p => [("parent", .text p.issue.name)]
    | none => [])

def describe (r : Registry) (e : Entry) : Except CatalogFailure Fields :=
  (r.effective e).map fun s => e.issue.fields ++ r.stateFields e s

/-- The codes whose level or mark differs between two states of one registry, as they are now. -/
def changes (before after : Registry) : List Entry :=
  (before.entries.zip after.entries).filterMap fun (b, a) =>
    if b.level = a.level && b.userSet = a.userSet then none else some a

end DiagnosticCatalog.Registry
