import DiagnosticCatalog.Descent
import DiagnosticCatalog.Failure
import DiagnosticCatalog.Index
import DiagnosticCatalog.Standard
/-!
The registry: the issues in the order of their declarations, each with the level it now has and
whether a user asked for it. Look-ups go by code, by exact name, or by folded name; a token of
digits alone is a code. Nothing here changes a level.
-/

namespace DiagnosticCatalog

/-- An issue and its state. -/
structure Entry where
  issue : Issue
  level : Level
  userSet : Bool
  deriving DecidableEq, Repr, Inhabited

structure Registry where
  entries : List Entry
  deriving DecidableEq, Repr, Inhabited

namespace Registry

/-- The issue of a declaration; its parent is looked up among the declarations. -/
def issueOf (ds : List Declaration) (d : Declaration) : Issue where
  code := d.code
  name := d.name
  declaredId := d.identifier
  defaultLevel := d.level
  category := d.category
  parentCode? := (d.parent?.bind (Declaration.find? ds)).map (·.code)
  rule? := d.rule?
  explanation? := d.explanation?

def fresh (i : Issue) : Entry := ⟨i, i.defaultLevel, false⟩

/-- The registry of declarations taken to be sound. -/
def build (ds : List Declaration) : Registry := ⟨ds.map fun d => fresh (issueOf ds d)⟩

/-- The issues of indices, each with the level and the mark that stand under its code. -/
def ofIndex (x : Index) : Registry :=
  ⟨x.issues.map fun i =>
    ⟨i, (x.levels.get? i.code).getD i.defaultLevel, (x.userSet.get? i.code).getD false⟩⟩

def ofDeclarations (ds : List Declaration) : Except CatalogFailure Registry :=
  (Index.ofDeclarations ds).map ofIndex

def size (r : Registry) : Nat := r.entries.length

def issues (r : Registry) : List Issue := r.entries.map (·.issue)

def inCategory (r : Registry) (category? : Option Category) : List Entry :=
  match category? with
  | none => r.entries
  | some c => r.entries.filter (·.issue.category = c)

def byCode? (r : Registry) (code : Int) : Option Entry := r.entries.find? (·.issue.code = code)

def byName? (r : Registry) (name : String) : Option Entry := r.entries.find? (·.issue.name = name)

def byFoldedName? (r : Registry) (folded : String) : Option Entry :=
  r.entries.find? fun e => IssueName.fold e.issue.name = folded

/-- The exact name first, then without outer blanks a run of digits as a code, then any case. -/
def resolveString (r : Registry) (s : String) : Except Decimal.Overlong (Option Entry) :=
  match r.byName? s with
  | some e => .ok (some e)
  | none =>
    let word := Text.strip s.toList
    if Decimal.isNumeral word then
      match Decimal.readNumeral word with
      | .ok n => .ok (r.byCode? n)
      | .error e => .error e
    else .ok (r.byFoldedName? (IssueName.fold (String.ofList word)))

/-- A half stands in no name and in no number. -/
def resolveText (r : Registry) (t : Text) : Except Decimal.Overlong (Option Entry) :=
  match t.string? with
  | some s => r.resolveString s
  | none => .ok none

/-- A truth value names no issue. -/
def resolve (r : Registry) : Token → Except Decimal.Overlong (Option Entry)
  | .text s => r.resolveText s
  | .code n => .ok (r.byCode? n)
  | .truth _ => .ok none

def require (r : Registry) : Ref → Except Failure Entry
  | .token t =>
    match r.resolve t with
    | .error e => .error (.overlong e)
    | .ok none => .error (.unknown (.token t))
    | .ok (some e) => .ok e
  | .member i | .foreign i =>
    match r.byCode? i.code with
    | none => .error (.unknown (.definition i))
    | some e => .ok e

/-- Whether a token resolves, or a definition is one of the registry's own. -/
def contains (r : Registry) : Ref → Except Failure Bool
  | .token t =>
    match r.resolve t with
    | .error e => .error (.overlong e)
    | .ok found => .ok found.isSome
  | .member i => .ok (r.byCode? i.code |>.any (·.issue = i))
  | .foreign _ => .ok false

def parentOf? (r : Registry) (i : Issue) : Option Entry := i.parentCode?.bind r.byCode?

/-- The severity that an entry inherits or has. `seen` holds the codes already met, its own among
them. -/
def climb (r : Registry) (seen : List Int) (e : Entry) : Except CatalogFailure Severity :=
  match e.level with
  | .explicit s => .ok s
  | .inherit =>
    match _found : r.parentOf? e.issue with
    | none => .error (.telling e.issue.code (.noLevel e.issue.title))
    | some p =>
      if p.issue.code ∈ seen then .error (.telling p.issue.code (.loop p.issue.title))
      else climb r (p.issue.code :: seen) p
termination_by r.entries.countP fun x => x.issue.code ∉ seen
decreasing_by
  obtain ⟨c, _, hc⟩ := Option.bind_eq_some_iff.1 _found
  refine Descent.countP_lt (List.mem_of_find?_eq_some hc) (a := p) ?_ ?_ ?_
  · simp_all
  · simp_all
  · simp +contextual

def effective (r : Registry) (e : Entry) : Except CatalogFailure Severity :=
  r.climb [e.issue.code] e

/-- The effective severity of the issue that a reference leads to. -/
def effectiveOf (r : Registry) (ref : Ref) : Except Failure Severity :=
  match r.require ref with
  | .error e => .error e
  | .ok e =>
    match r.effective e with
    | .error f => .error (.ofCatalog f)
    | .ok s => .ok s

/-- Codes and effective severities of all issues, or the first fault met. -/
def effectiveAll (r : Registry) : Except CatalogFailure (List (Int × Severity)) :=
  r.entries.mapM fun e => (r.effective e).map fun s => (e.issue.code, s)

end Registry

end DiagnosticCatalog
