import DiagnosticCatalog.Json
/-!
Reading JSON text. Blanks are space, tab, line feed and carriage return; `NaN` and the infinities
are read as numbers; a number is whole iff it has neither fraction nor exponent. A name that comes
twice keeps its place and takes the later value. Two escaped halves of a surrogate pair next to each
other are one character.
-/

namespace DiagnosticCatalog.Json

open Decimal

inductive ReadFault
  | malformed
  | overlong (e : Overlong)
  deriving DecidableEq, Repr

def isSpace (c : Char) : Bool := c == ' ' || c == '\t' || c == '\n' || c == '\r'

def skipSpace (cs : List Char) : List Char := cs.dropWhile isSpace

/-- What is left after the word, if the text starts with it. -/
def afterWord? : (word : List Char) → List Char → Option (List Char)
  | [], cs => some cs
  | w :: ws, c :: cs => if w = c then afterWord? ws cs else none
  | _ :: _, [] => none

def hexValue? (c : Char) : Option Nat :=
  let n := c.toNat
  if isDigit c then some (n - 0x30)
  else if 0x61 ≤ n && n ≤ 0x66 then some (n - 0x57)
  else if 0x41 ≤ n && n ≤ 0x46 then some (n - 0x37)
  else none

def hexUnit? (a b c d : Char) : Option Nat := do
  let a ← hexValue? a
  let b ← hexValue? b
  let c ← hexValue? c
  let d ← hexValue? d
  return ((a * 16 + b) * 16 + c) * 16 + d

def simpleEscape? (c : Char) : Option Nat :=
  if c = '\x22' || c = '\\' || c = '/' then some c.toNat
  else if c = 'b' then some 0x08
  else if c = 'f' then some 0x0C
  else if c = 'n' then some 0x0A
  else if c = 'r' then some 0x0D
  else if c = 't' then some 0x09
  else none

/-- The letters up to the closing quote, halves still apart. -/
def readLetters : List Char → Option (List Letter × List Char)
  | [] => none
  | '\x22' :: rest => some ([], rest)
  | '\\' :: 'u' :: a :: b :: c :: d :: rest => do
    let unit ← hexUnit? a b c d
    let (letters, rest) ← readLetters rest
    return (.ofCode unit :: letters, rest)
  | '\\' :: c :: rest => do
    let unit ← simpleEscape? c
    let (letters, rest) ← readLetters rest
    return (.ofCode unit :: letters, rest)
  | c :: rest => do
    if c = '\\' || c.toNat < 0x20 then none
    else
      let (letters, rest) ← readLetters rest
      return (.char c :: letters, rest)

/-- The character of a high half and a low one. -/
def pairChar? (high low : Fin 0x800) : Option Char :=
  if high.val < 0x400 && 0x400 ≤ low.val then
    some (Char.ofNat (0x10000 + high.val * 0x400 + (low.val - 0x400)))
  else none

/-- A high half and a low one next to each other make one character. -/
def joinHalves : List Letter → List Letter
  | [] => []
  | .half high :: .half low :: rest =>
    match pairChar? high low with
    | some c => .char c :: joinHalves rest
    | none => .half high :: joinHalves (.half low :: rest)
  | l :: rest => l :: joinHalves rest

def readString (cs : List Char) : Except ReadFault (Text × List Char) :=
  match readLetters cs with
  | some (letters, rest) => .ok (⟨joinHalves letters⟩, rest)
  | none => .error .malformed

/-- One zero, or digits that do not start with one. -/
def takeWhole : List Char → List Char × List Char
  | '0' :: rest => (['0'], rest)
  | cs => (cs.takeWhile isDigit, cs.dropWhile isDigit)

/-- The digits after a point, if there is one and they follow it. -/
def takeFraction : List Char → List Char × List Char
  | '.' :: rest =>
    let ds := rest.takeWhile isDigit
    if ds.isEmpty then ([], '.' :: rest) else (ds, rest.dropWhile isDigit)
  | cs => ([], cs)

def takeExponent (cs : List Char) : Option Int × List Char :=
  match cs with
  | c :: rest =>
    if c = 'e' || c = 'E' then
      let (negative, body) : Bool × List Char := match rest with
        | '-' :: more => (true, more)
        | '+' :: more => (false, more)
        | more => (false, more)
      let ds := body.takeWhile isDigit
      if ds.isEmpty then (none, cs)
      else (some (Binary64.signed negative (ofDigits ds)), body.dropWhile isDigit)
    else (none, cs)
  | [] => (none, cs)

/-- A number after its sign. -/
def readNumber (negative : Bool) (cs : List Char) : Except ReadFault (Json × List Char) :=
  let (front, rest) := takeWhole cs
  if front.isEmpty then .error .malformed
  else
    let (fraction, rest) := takeFraction rest
    let (exponent?, rest) := takeExponent rest
    if fraction.isEmpty && exponent?.isNone then
      match readNumeral front with
      | .ok n => .ok (.whole (Binary64.signed negative n), rest)
      | .error e => .error (.overlong e)
    else
      .ok (.real (Binary64.ofDecimal negative (front ++ fraction)
        (exponent?.getD 0 - fraction.length)), rest)

def words : List (String × Json) := [
  ("null", .null), ("true", .truth true), ("false", .truth false), ("NaN", .real .nan),
  ("Infinity", .real (.infinite false)), ("-Infinity", .real (.infinite true))]

def readWord (cs : List Char) : Option (Json × List Char) :=
  words.findSome? fun w => (afterWord? w.1.toList cs).map fun rest => (w.2, rest)

def readScalar (cs : List Char) : Except ReadFault (Json × List Char) :=
  match readWord cs with
  | some r => .ok r
  | none =>
    match cs with
    | '\x22' :: rest => (readString rest).map fun (s, rest) => (.text s, rest)
    | '-' :: rest => readNumber true rest
    | _ => readNumber false cs

/-- A name with its quotes, and the colon after it. -/
def readName (cs : List Char) : Except ReadFault (Text × List Char) :=
  match cs with
  | '\x22' :: rest => do
    let (name, rest) ← readString rest
    match skipSpace rest with
    | ':' :: rest => .ok (name, skipSpace rest)
    | _ => .error .malformed
  | _ => .error .malformed

mutual

/-- A value at the start of the text. Each step of `fuel` allows for one character or one nesting.
-/
def readValue : (fuel : Nat) → List Char → Except ReadFault (Json × List Char)
  | 0, _ => .error .malformed
  | fuel + 1, '[' :: rest =>
    match skipSpace rest with
    | ']' :: rest => .ok (.array [], rest)
    | cs => do
      let (items, rest) ← readItems fuel cs
      .ok (.array items, rest)
  | fuel + 1, '\x7b' :: rest =>
    match skipSpace rest with
    | '\x7d' :: rest => .ok (.object [], rest)
    | cs => do
      let (members, rest) ← readMembers fuel [] cs
      .ok (.object members, rest)
  | _ + 1, cs => readScalar cs

/-- Items and the closing bracket. -/
def readItems : (fuel : Nat) → List Char → Except ReadFault (List Json × List Char)
  | 0, _ => .error .malformed
  | fuel + 1, cs => do
    let (item, rest) ← readValue fuel cs
    match skipSpace rest with
    | ',' :: rest => do
      let (items, rest) ← readItems fuel (skipSpace rest)
      .ok (item :: items, rest)
    | ']' :: rest => .ok ([item], rest)
    | _ => .error .malformed

/-- Members put behind those already read, and the closing brace. -/
def readMembers : (fuel : Nat) → List (Text × Json) → List Char →
    Except ReadFault (List (Text × Json) × List Char)
  | 0, _, _ => .error .malformed
  | fuel + 1, done, cs => do
    let (name, rest) ← readName cs
    let (value, rest) ← readValue fuel rest
    let done := bind name value done
    match skipSpace rest with
    | ',' :: rest => readMembers fuel done (skipSpace rest)
    | '\x7d' :: rest => .ok (done, rest)
    | _ => .error .malformed

end

/-- One value with blanks around it and nothing else. -/
def read (s : String) : Except ReadFault Json := do
  let cs := s.toList
  let (value, rest) ← readValue (2 * cs.length + 2) (skipSpace cs)
  if (skipSpace rest).isEmpty then .ok value else .error .malformed

end DiagnosticCatalog.Json
