import DiagnosticCatalog.Decimal.Binary64
/-!
The text of a binary64 number: the fewest decimal digits that read back as the same number, and of
those the nearest to it. Positional between the bounds of a layout, with an exponent outside them.
That seventeen digits always suffice is used and not proved here.
-/

namespace DiagnosticCatalog.Decimal

/-- The exponent of ten of the leading digit of `num / den`, which is not zero. -/
def leadingExponent (num den : Nat) : Int :=
  if den ≤ num then (digits (num / den)).length - 1
  else
    let size := (digits (den / num)).length
    if den = num * Nat.pow 10 (size - 1) then 1 - (size : Int) else -(size : Int)

/-- Of the two neighbours of the number with last digit at `10 ^ e`, the nearer that reads back. -/
def onGrid (mantissa : Nat) (exponent e : Int) : Option Nat :=
  let (num, den) := Binary64.ratio mantissa exponent
  let num := num * Nat.pow 10 (-e).toNat
  let den := den * Nat.pow 10 e.toNat
  let below := num / den
  let readsBack (d : Nat) :=
    Binary64.ofDecimal false (digits d) e == .finite false mantissa exponent
  match readsBack below, readsBack (below + 1) with
  | false, false => none
  | true, false => some below
  | false, true => some (below + 1)
  | true, true => some (divideEven num den)

/-- The first grid with a hit, from the coarse to the fine; `more` grids are left. -/
def searchGrids (mantissa : Nat) (exponent : Int) : (more : Nat) → (e : Int) → Nat × Int
  | 0, e => (0, e)
  | more + 1, e =>
    match onGrid mantissa exponent e with
    | some d => (d, e)
    | none => searchGrids mantissa exponent more (e - 1)

/-- Digits and exponent of the shortest decimal that reads back. -/
def shortest (mantissa : Nat) (exponent : Int) : List Char × Int :=
  let (num, den) := Binary64.ratio mantissa exponent
  let (d, e) := searchGrids mantissa exponent 17 (leadingExponent num den)
  let ds := digits d
  let zeros := (ds.reverse.takeWhile (· = '0')).length
  (ds.take (ds.length - zeros), e + zeros)

/-- Where positional writing begins and ends, and the least width of an exponent. -/
structure Layout where
  lowest : Int
  beyond : Int
  exponentWidth : Nat

/-- Positional from 10 ^ -4 to below 10 ^ 16, exponents of two digits or more. -/
def Layout.plain : Layout := ⟨-4, 16, 2⟩

def zeroDigits (n : Int) : List Char := List.replicate n.toNat '0'

/-- Digits with the point after the first `point` of them, zeros filled in. -/
def positional (ds : List Char) (point : Int) : List Char :=
  if point ≤ 0 then '0' :: '.' :: zeroDigits (-point) ++ ds
  else if (ds.length : Int) ≤ point then ds ++ zeroDigits (point - ds.length) ++ ['.', '0']
  else ds.take point.toNat ++ '.' :: ds.drop point.toNat

def withExponent (layout : Layout) (ds : List Char) (e : Int) : List Char :=
  let size := digits e.natAbs
  ds.take 1 ++ (if ds.length ≤ 1 then [] else '.' :: ds.drop 1) ++
    ['e', if e < 0 then '-' else '+'] ++
    zeroDigits (layout.exponentWidth - size.length) ++ size

def finiteDigits (layout : Layout) (mantissa : Nat) (exponent : Int) : List Char :=
  if mantissa = 0 then ['0', '.', '0']
  else
    let (ds, e) := shortest mantissa exponent
    let leading := e + ds.length - 1
    if layout.lowest ≤ leading && leading < layout.beyond then positional ds (leading + 1)
    else withExponent layout ds leading

def Binary64.text : Binary64 → String
  | .nan => "nan"
  | .infinite s => if s then "-inf" else "inf"
  | .finite s m e => String.ofList ((if s then ['-'] else []) ++ finiteDigits .plain m e)

end DiagnosticCatalog.Decimal
