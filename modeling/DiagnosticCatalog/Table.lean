/-!
Tables bind a value to each of their keys. A key that is bound again keeps its place and takes the
later value.
-/

namespace DiagnosticCatalog

structure Table (κ α : Type) where
  rows : List (κ × α)
  deriving DecidableEq, Repr

namespace Table

variable {κ α β : Type} [DecidableEq κ]

def empty : Table κ α := ⟨[]⟩

def size (t : Table κ α) : Nat := t.rows.length

def get? (t : Table κ α) (k : κ) : Option α := (t.rows.find? (·.1 = k)).map Prod.snd

def bindRow (k : κ) (a : α) : List (κ × α) → List (κ × α)
  | [] => [(k, a)]
  | (j, b) :: rest => if j = k then (j, a) :: rest else (j, b) :: bindRow k a rest

def bind (t : Table κ α) (k : κ) (a : α) : Table κ α := ⟨bindRow k a t.rows⟩

/-- Binds the value of each member to its key, one after the other. -/
def bindAll (key : β → κ) (value : β → α) (t : Table κ α) (l : List β) : Table κ α :=
  l.foldl (fun t b => t.bind (key b) (value b)) t

end Table

end DiagnosticCatalog
