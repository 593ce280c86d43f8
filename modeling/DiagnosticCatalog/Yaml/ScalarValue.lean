import DiagnosticCatalog.Text.Case
import DiagnosticCatalog.Value
import DiagnosticCatalog.Yaml.Tag
/-!
Values of scalars, by tag. A tag that stands in the text may demand a kind of value that the scalar
is not, and even a text that has its tag by itself may have no value, such as the thirtieth of
February.
-/

namespace DiagnosticCatalog.Yaml

open Decimal (Binary64)

/-- A whole number in a base, which the text need not name. -/
def wholeIn (base : Nat) (ls : List Letter) : Except ScalarFault Int :=
  match Decimal.readInt? base ls with
  | .ok (some n) => .ok n
  | .ok none => .error (.whole base ⟨ls⟩)
  | .error e => .error (.overlong e)

def dropLow (ls : List Letter) : List Letter := ls.filter (· ≠ .char '_')

def isMinus (ls : List Letter) : Bool := ls.head? == some (.char '-')

def dropLetterSign : List Letter → List Letter
  | .char '-' :: ls => ls
  | .char '+' :: ls => ls
  | ls => ls

def colonParts (ls : List Letter) : List (List Letter) := Text.splitAt (.char ':') ls

/-- Whole numbers between colons, each sixty times the next. -/
def wholeSixties (ls : List Letter) : Except ScalarFault Int := do
  let ns ← (colonParts ls).mapM (wholeIn 10)
  return ns.foldl (fun acc n => 60 * acc + n) 0

def wholeMagnitude : List Letter → Except ScalarFault Int
  | [] => .error .empty
  | [.char '0'] => .ok 0
  | .char '0' :: .char 'b' :: ds => wholeIn 2 ds
  | .char '0' :: .char 'x' :: ds => wholeIn 16 ds
  | .char '0' :: ds => wholeIn 8 (.char '0' :: ds)
  | ls => if ls.contains (.char ':') then wholeSixties ls else wholeIn 10 ls

def wholeValue (t : Text) : Except ScalarFault Value :=
  let ls := dropLow t.letters
  (wholeMagnitude (dropLetterSign ls)).map fun n => .whole (if isMinus ls then -n else n)

def realOf (ls : List Letter) : Except ScalarFault Binary64 :=
  match Decimal.readReal? ls with
  | some x => .ok x
  | none => .error (.real ⟨ls⟩)

/-- The sum of the numbers times the powers of sixty, from the last number on, each step rounded. No
power may be beyond the finite numbers. -/
def realSixties (ls : List Letter) : Except ScalarFault Binary64 := do
  let xs ← (colonParts ls).mapM realOf
  let powers := (List.range xs.length).map fun i => Binary64.ofInt (Nat.pow 60 i)
  if powers.contains (.infinite false) then throw .scale
  return (xs.reverse.zip powers).foldl (fun acc (x, power) => acc.add (x.mul power)) (.zero false)

def realMagnitude (ls : List Letter) : Except ScalarFault Binary64 :=
  if ls == (".inf" : Text).letters then .ok (.infinite false)
  else if ls == (".nan" : Text).letters then .ok .nan
  else if ls.contains (.char ':') then realSixties ls
  else realOf ls

def realValue (t : Text) : Except ScalarFault Value :=
  match (Text.lowerText ⟨dropLow t.letters⟩).letters with
  | [] => .error .empty
  | ls =>
    (realMagnitude (dropLetterSign ls)).map fun x => .real (if isMinus ls then x.negate else x)

def truthValue (t : Text) : Except ScalarFault Value :=
  let word := Text.lowerText t
  match truthWords.find? fun w => (w.1 : Text) = word with
  | some w => .ok (.truth w.2)
  | none => .error (.truth word)

/-- The fraction of a second in microseconds, further digits cut off. -/
def microseconds (fraction : List Char) : Nat :=
  Decimal.ofDigits (fraction.take 6 ++ List.replicate (6 - fraction.length) '0')

/-- A moment or a day. A break at the end does not count. -/
def momentValue (t : Text) : Except ScalarFault Value :=
  match t.chars?.bind fun cs => stamp? (dropLastBreak cs) with
  | none => .error .moment
  | some s =>
    if s.timed then
      ((Calendar.moment s.year s.month s.day s.hour s.minute s.second (microseconds s.fraction)
        s.offset?).map Value.moment).mapError .calendar
    else ((Calendar.date s.year s.month s.day).map Value.date).mapError .calendar

/-- Six bits by one character of the base64 alphabet. -/
def sextet? (c : Char) : Option Nat :=
  if 'A' ≤ c && c ≤ 'Z' then some (c.toNat - 'A'.toNat)
  else if 'a' ≤ c && c ≤ 'z' then some (c.toNat - 'a'.toNat + 26)
  else if Decimal.isDigit c then some (Decimal.digitValue c + 52)
  else if c = '+' then some 62
  else if c = '/' then some 63
  else none

/-- The octets of base64 text. `place` counts the sextets of the open group of four, `carry` holds
their bits without an octet, `pads` counts the signs of filling since the last sextet; a group
filled up is the last one, and characters outside the alphabet are passed over. -/
def octets? (place carry pads : Nat) : List Char → Option (List Nat)
  | [] => if place = 0 then some [] else none
  | c :: cs =>
    if c = '=' then
      if 2 ≤ place then
        if 4 ≤ place + pads + 1 then some [] else octets? place carry (pads + 1) cs
      else octets? place carry pads cs
    else match sextet? c with
      | none => octets? place carry pads cs
      | some n =>
        let unit := Nat.pow 4 (3 - place)
        let more := octets? ((place + 1) % 4) (n % unit) 0 cs
        if place = 0 then more else more.map ((carry * Nat.pow 4 place + n / unit) :: ·)

def octetsValue (t : Text) : Option Value := do
  let cs ← t.chars?
  if cs.all fun c => c.toNat < 0x80 then (octets? 0 0 0 cs).map .bytes else none

/-- The value of a text under a tag, none where the tag is not one of scalars. -/
def scalarValue (tag : Tag) (t : Text) : Except Fault Value :=
  match tag with
  | .null => .ok .null
  | .text => .ok (.text t)
  | .truth => (truthValue t).mapError .scalar
  | .whole => (wholeValue t).mapError .scalar
  | .real => (realValue t).mapError .scalar
  | .moment => (momentValue t).mapError .scalar
  | .octets => match octetsValue t with
    | some v => .ok v
    | none => .error .malformed
  | _ => .error .malformed

end DiagnosticCatalog.Yaml
