import DiagnosticCatalog.Declaration
import DiagnosticCatalog.Issue
import DiagnosticCatalog.Table
/-!
The indices that a registry is set up with. One pass over the declarations makes an issue of each and
enters it under its code, its name and its folded name, together with the level it starts from. What
is entered under a key that is taken replaces what was there, so indices that come out smaller than
the list of declarations are refused.
-/

namespace DiagnosticCatalog

structure Index where
  issues : List Issue
  byCode : Table Int Issue
  byName : Table String Issue
  byFoldedName : Table String Issue
  levels : Table Int Level
  userSet : Table Int Bool
  deriving DecidableEq, Repr

namespace Index

def empty : Index := ⟨[], .empty, .empty, .empty, .empty, .empty⟩

/-- Identifiers with the codes that are declared for them. -/
def codesOf (ds : List Declaration) : Table String Int :=
  Table.empty.bindAll (·.identifier) (·.code) ds

/-- The code of the parent that a declaration names, which may be declared further down. -/
def parentCode (codes : Table String Int) (d : Declaration) : Except CatalogFailure (Option Int) :=
  match d.parent? with
  | none => .ok none
  | some p =>
    match codes.get? p with
    | none => .error (.unlinked p)
    | some c => .ok (some c)

def issue (codes : Table String Int) (d : Declaration) : Except CatalogFailure Issue :=
  (parentCode codes d).map fun parentCode? => {
    code := d.code
    name := d.name
    declaredId := d.identifier
    defaultLevel := d.level
    category := d.category
    parentCode? := parentCode?
    rule? := d.rule?
    explanation? := d.explanation? }

/-- Enters an issue, with its level and without a user's mark. -/
def add (x : Index) (i : Issue) : Index where
  issues := x.issues ++ [i]
  byCode := x.byCode.bind i.code i
  byName := x.byName.bind i.name i
  byFoldedName := x.byFoldedName.bind (IssueName.fold i.name) i
  levels := x.levels.bind i.code i.defaultLevel
  userSet := x.userSet.bind i.code false

def fill (codes : Table String Int) : Index → List Declaration → Except CatalogFailure Index
  | x, [] => .ok x
  | x, d :: rest =>
    match issue codes d with
    | .error e => .error e
    | .ok i => fill codes (x.add i) rest

/-- Whether no declaration took the place of another. -/
def isComplete (x : Index) (count : Nat) : Bool :=
  x.byCode.size == count && x.byFoldedName.size == count

def ofDeclarations (ds : List Declaration) : Except CatalogFailure Index :=
  match Declaration.check ds with
  | .error e => .error e
  | .ok () =>
    match fill (codesOf ds) empty ds with
    | .error e => .error e
    | .ok x => if x.isComplete ds.length then .ok x else .error (.fault .incomplete)

end Index

end DiagnosticCatalog
