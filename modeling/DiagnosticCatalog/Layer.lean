import DiagnosticCatalog.Registry.Preset
/-!
Layers of severities over a registry. A layer holds severities by code, which take the place of the
registry's; the registry knows nothing of its layers. References are looked up when they are put in.
-/

namespace DiagnosticCatalog

/-- Severities by code, in the order in which the codes first came. -/
structure Layer where
  levels : List (Int × Severity)
  deriving DecidableEq, Repr

namespace Layer

def empty : Layer := ⟨[]⟩

def insert (code : Int) (s : Severity) : List (Int × Severity) → List (Int × Severity)
  | [] => [(code, s)]
  | (c, t) :: rest => if c = code then (c, s) :: rest else (c, t) :: insert code s rest

/-- The severity of a level asked for; the mark of inheritance is no severity here. -/
def requested : Value → Except Failure Severity
  | .severity s => .ok s
  | .text t => (Severity.parse t).mapError .word
  | v => .error (.noSeverity v)

/-- The reference is looked up first, so of two faults its own is reported. -/
def set (r : Registry) (l : Layer) (ref : Ref) (level : Value) : Except Failure Layer :=
  match r.require ref with
  | .error e => .error e
  | .ok e =>
    match requested level with
    | .error f => .error f
    | .ok s => .ok ⟨insert e.issue.code s l.levels⟩

/-- Sets severities one after the other; a failure gives no layer. -/
def setAll (r : Registry) : Layer → List (Ref × Value) → Except Failure Layer
  | l, [] => .ok l
  | l, (ref, level) :: rest =>
    match l.set r ref level with
    | .error e => .error e
    | .ok l => setAll r l rest

/-- Equality of references as keys: tokens as values, definitions by all their fields. -/
def sameKey : Ref → Ref → Bool
  | .token s, .token t => Value.sameKey s.value t.value
  | .token _, _ => false
  | _, .token _ => false
  | .member i, .member j | .member i, .foreign j | .foreign i, .member j | .foreign i, .foreign j =>
    i == j

def bind (ref : Ref) (level : Value) : List (Ref × Value) → List (Ref × Value)
  | [] => [(ref, level)]
  | (k, v) :: rest => if sameKey k ref then (k, level) :: rest else (k, v) :: bind ref level rest

/-- A new layer from a mapping, given by pairs of which a later one replaces an equal earlier. -/
def ofMapping (r : Registry) (pairs : List (Ref × Value)) : Except Failure Layer :=
  setAll r empty (pairs.foldl (fun m p => bind p.1 p.2 m) [])

def ofPreset (r : Registry) (p : Preset) : Except Failure Layer :=
  setAll r empty (p.table.map fun row => (.token (.code row.1), .severity row.2))

/-- Codes and severities by ascending code. -/
def items (l : Layer) : List (Int × Severity) := l.levels.mergeSort fun a b => a.1 ≤ b.1

def size (l : Layer) : Nat := l.levels.length

def holds (l : Layer) (code : Int) : Bool := l.levels.any (·.1 = code)

def contains (r : Registry) (l : Layer) : Ref → Except Failure Bool
  | .member i | .foreign i => .ok (l.holds i.code)
  | .token t =>
    match r.resolve t with
    | .error e => .error (.overlong e)
    | .ok found => .ok (found.any fun e => l.holds e.issue.code)

def severityOfEntry (r : Registry) (l : Layer) (e : Entry) : Except Failure Severity :=
  match l.levels.lookup e.issue.code with
  | some s => .ok s
  | none => (r.effective e).mapError .ofCatalog

/-- The layer's severity for an issue, else the one in effect in the registry. -/
def severityOf (r : Registry) (l : Layer) (ref : Ref) : Except Failure Severity :=
  match r.require ref with
  | .error e => .error e
  | .ok e => l.severityOfEntry r e

def severityOfAll (r : Registry) (l : Layer) : Except Failure (List (Int × Severity)) :=
  r.entries.mapM fun e => (l.severityOfEntry r e).map fun s => (e.issue.code, s)

end Layer

end DiagnosticCatalog
