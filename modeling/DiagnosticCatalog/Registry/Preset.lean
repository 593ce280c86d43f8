import DiagnosticCatalog.Registry.Override
/-!
Presets put into a registry. This is not a user's request and passes over issues that a user has
set.
-/

namespace DiagnosticCatalog

def Preset.find (s : String) : Except Failure Preset :=
  match ofName? s with
  | some p => .ok p
  | none => .error (.preset s)

namespace Registry

/-- Writes the rows of a table and counts the codes written; each code must be an issue's. A code is
written through its decimal text. -/
def applyTable (r : Registry) : List (Int × Severity) → Run Nat
  | [] => .done r 0
  | (code, s) :: rest =>
    match r.require (.token (.code code)) with
    | .error e => .fail r e
    | .ok e =>
      if e.userSet then r.applyTable rest
      else (r.setSeverity (.code code) (.severity s) false).andThen fun r _ =>
        (applyTable r rest).map (· + 1)

def applyPreset (r : Registry) (p : Preset) : Run Nat :=
  (r.applyTable p.table).noting fun n => [.presetApplied p.name n]

/-- A preset by its name, which need not be one. -/
def applyPresetNamed (r : Registry) (name : String) : Run Nat :=
  match Preset.find name with
  | .error e => .fail r e
  | .ok p => r.applyPreset p

end Registry

end DiagnosticCatalog
