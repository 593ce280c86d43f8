import DiagnosticCatalog.Value
/-!
Order between values. Severities among themselves go by rank, a severity and a text as texts,
numbers as numbers; nothing else is ordered.
-/

namespace DiagnosticCatalog

/-- The order of a finite number and a whole one, or of an infinity and anything. -/
def Decimal.Binary64.compareInt (x : Decimal.Binary64) (n : Int) : Option Ordering :=
  match x with
  | .nan => none
  | .infinite s => some (if s then .lt else .gt)
  | .finite s m e =>
    let (num, den) := ratio m e
    some (compare (signed s num) (n * den))

namespace Value

def compareNumbers? : Int ⊕ Decimal.Binary64 → Int ⊕ Decimal.Binary64 → Option Ordering
  | .inl m, .inl n => some (compare m n)
  | .inr x, .inl n => x.compareInt n
  | .inl m, .inr y => (y.compareInt m).map Ordering.swap
  | .inr .nan, .inr _ => none
  | .inr _, .inr .nan => none
  | .inr (.infinite s), .inr (.infinite t) => some (compare t.toNat s.toNat)
  | .inr (.infinite s), .inr _ => some (if s then .lt else .gt)
  | .inr _, .inr (.infinite t) => some (if t then .gt else .lt)
  | .inr (.finite s m e), .inr (.finite t n f) =>
    let (num, den) := Decimal.Binary64.ratio m e
    let (num', den') := Decimal.Binary64.ratio n f
    some (compare (Decimal.Binary64.signed s (num * den')) (Decimal.Binary64.signed t (num' * den)))

def compare? (v w : Value) : Option Ordering :=
  match v, w with
  | severity s, severity t => some (compare s.rank t.rank)
  | _, _ =>
    match v.number?, w.number? with
    | some m, some n => compareNumbers? m n
    | _, _ =>
      match v.word?, w.word? with
      | some s, some t => some (compare s t)
      | _, _ => none

end Value

end DiagnosticCatalog
