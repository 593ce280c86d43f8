import DiagnosticCatalog.Value.Inline
/-!
Presets: named tables of severities for the two usual comparisons, against the version under work
and against the last release.
-/

namespace DiagnosticCatalog

inductive Preset
  | current
  | released
  deriving DecidableEq, Repr

namespace Preset

def all : List Preset := [.current, .released]

def name : Preset → String
  | current => "current-compatibility"
  | released => "released-compatibility"

def ofName? (s : String) : Option Preset := all.find? (·.name = s)

/-- The codes from `first` to `last`, each with the severity. -/
def span (first last : Nat) (s : Severity) : List (Int × Severity) :=
  (List.range' first (last + 1 - first)).map fun n : Nat => (Int.ofNat n, s)

/-- The table in the order in which it is applied. -/
def table : Preset → List (Int × Severity)
  | current => span 2 21 .error ++ span 23 27 .error
  | released => span 2 6 .hidden ++ span 24 27 .hidden ++ span 7 18 .error ++ [(31, .error)]

/-- What is said about a name that is no preset's. -/
def unknownMessage (name : String) : String :=
  "unknown preset " ++ Text.quoted name ++ "; expected one of " ++
    (Value.list (all.map fun p => .text p.name)).inline

end Preset

end DiagnosticCatalog
