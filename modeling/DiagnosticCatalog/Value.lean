import DiagnosticCatalog.Calendar
import DiagnosticCatalog.Category
import DiagnosticCatalog.Decimal.Shortest
import DiagnosticCatalog.ExitStatus
/-!
Dynamic values: what a document can hold, together with the members of the closed types of this
library. Mappings keep the order in which keys first came; keys are compared as numbers where they
are numbers, and a severity equals its word. A collection that contains itself is unfolded as far as
needed, and marked with a number by which it is known again.
-/

namespace DiagnosticCatalog

open Decimal

inductive Value
  | null
  | truth (b : Bool)
  | whole (n : Int)
  | real (x : Binary64)
  | text (s : Text)
  | list (items : List Value)
  | tuple (items : List Value)
  | set (frozen : Bool) (items : List Value)
  | map (entries : List (Value × Value))
  | date (d : Calendar.Date)
  | moment (m : Calendar.Moment)
  | bytes (octets : List Nat)
  | severity (s : Severity)
  | inherit
  | category (c : Category)
  | exit (e : ExitStatus)
  | named (s : String)
  | cycle (mark : Nat) (v : Value)
  deriving Inhabited

namespace Value

/-- The value without its mark. -/
def content : Value → Value
  | cycle _ v => v
  | v => v

/-- The value as a number, if it is one. -/
def number? : Value → Option (Int ⊕ Binary64)
  | truth b => some (.inl (if b then 1 else 0))
  | whole n => some (.inl n)
  | real x => some (match x.toInt? with
      | some n => .inl n
      | none => .inr x)
  | exit e => some (.inl e.code)
  | _ => none

/-- The value as text, if it is one. -/
def word? : Value → Option Text
  | text s => some s
  | severity s => some s.word
  | _ => none

/-- Equality of values without parts. -/
def sameAtom (v w : Value) : Bool :=
  match v.number?, w.number? with
  | some m, some n => m == n
  | some _, none => false
  | none, some _ => false
  | none, none =>
    match v.word?, w.word? with
    | some s, some t => s == t
    | some _, none => false
    | none, some _ => false
    | none, none =>
      match v, w with
      | null, null => true
      | date d, date e => d == e
      | moment d, moment e => d.same e
      | bytes s, bytes t => s == t
      | inherit, inherit => true
      | category c, category d => c == d
      | named s, named t => s == t
      | _, _ => false

mutual

/-- Equality as keys. A mapping is never a key and equals nothing. -/
def sameKey : Value → Value → Bool
  | list xs, list ys => sameKeys xs ys
  | tuple xs, tuple ys => sameKeys xs ys
  | set _ xs, set _ ys => sameKeys xs ys
  | v, w => sameAtom v w

def sameKeys : List Value → List Value → Bool
  | [], [] => true
  | x :: xs, y :: ys => sameKey x y && sameKeys xs ys
  | _, _ => false

end

/-- The entries with `key` bound to `value`: in place if the key is there, else at the end. -/
def bind {α : Type} (key : Value) (value : α) : List (Value × α) → List (Value × α)
  | [] => [(key, value)]
  | (k, v) :: es => if sameKey k key then (k, value) :: es else (k, v) :: bind key value es

/-- Pairs bound in order, a later value for a key replacing the earlier one. -/
def bindAll {α : Type} (pairs : List (Value × α)) : List (Value × α) :=
  pairs.foldl (fun es p => bind p.1 p.2 es) []

def ofPairs (pairs : List (Value × Value)) : Value := map (bindAll pairs)

def get? (name : Text) (entries : List (Value × Value)) : Option Value :=
  (entries.find? fun e => sameKey e.1 (text name)).map Prod.snd

/-- Whether the value counts as nothing: null, false, zero, or empty. -/
def isFalsy : Value → Bool
  | null => true
  | truth b => !b
  | whole n => n == 0
  | real x => x.isZero
  | text s => s.isEmpty
  | list xs => xs.isEmpty
  | tuple xs => xs.isEmpty
  | set _ xs => xs.isEmpty
  | map es => es.isEmpty
  | bytes os => os.isEmpty
  | _ => false

end Value

end DiagnosticCatalog
