import DiagnosticCatalog.Decimal.Binary64
import DiagnosticCatalog.Text.Blank
import DiagnosticCatalog.Text.DigitTable
/-!
Free-standing numbers as text: blanks around them, a sign, and for whole numbers a base. Digits may
be of any script, and beyond ASCII so may blanks. Readers of a particular format decide for
themselves which spellings they let through to here.
-/

namespace DiagnosticCatalog.Decimal

/-- The value of an ASCII letter or digit as a digit of some base up to 36. -/
def baseDigit? (c : Char) : Option Nat :=
  let n := c.toNat
  if isDigit c then some (n - 0x30)
  else if 0x61 ≤ n && n ≤ 0x7A then some (n - 0x57)
  else if 0x41 ≤ n && n ≤ 0x5A then some (n - 0x37)
  else none

def ofBase? (base : Nat) (cs : List Char) : Option Nat :=
  if cs.isEmpty then none
  else cs.foldl (fun acc c => do
    let n ← acc
    let d ← baseDigit? c
    if d < base then some (base * n + d) else none) (some 0)

def splitSign : List Char → Bool × List Char
  | '-' :: cs => (true, cs)
  | '+' :: cs => (false, cs)
  | cs => (false, cs)

/-- The marker that may stand in front of digits of the base. -/
def dropBaseMark (base : Nat) : List Char → List Char
  | '0' :: m :: cs =>
    if (base == 2 && m.toLower == 'b') || (base == 8 && m.toLower == 'o') ||
        (base == 16 && m.toLower == 'x') then cs
    else '0' :: m :: cs
  | cs => cs

/-- What no number holds. -/
def brokenMark : Char := '?'

/-- The spelling of a number in ASCII: a blank as a space, a digit of any script as its ASCII digit.
Any other letter beyond ASCII breaks the number off. -/
def asciiSpelling : List Letter → List Char
  | [] => []
  | .half _ :: _ => [brokenMark]
  | .char c :: ls =>
    if c.toNat < 0x7F then c :: asciiSpelling ls
    else if Text.isBlank c then ' ' :: asciiSpelling ls
    else match Text.digitOf? c with
      | some d => digitChar d :: asciiSpelling ls
      | none => [brokenMark]

/-- The blanks of ASCII, without the separators U+001C to U+001F. -/
def isAsciiBlank (c : Char) : Bool := c == ' ' || (0x09 ≤ c.toNat && c.toNat ≤ 0x0D)

def spelling (ls : List Letter) : List Char := Text.stripOf isAsciiBlank (asciiSpelling ls)

/-- A whole number in the base. Only base ten is held to the digit limit, which counts also digits
that something else follows. -/
def readInt? (base : Nat) (ls : List Letter) : Except Overlong (Option Int) :=
  let (negative, body) := splitSign (spelling ls)
  let body := dropBaseMark base body
  let run := (body.takeWhile isDigit).length
  if base == 10 && digitLimit < run then .error (.reading run)
  else .ok ((ofBase? base body).map (Binary64.signed negative))

/-- `e`, a sign if any, and digits; nothing at all stands for exponent zero. -/
def readExponent? : List Char → Option Int
  | [] => some 0
  | c :: cs =>
    if c = 'e' || c = 'E' then
      let (negative, body) := splitSign cs
      if isNumeral body then some (Binary64.signed negative (ofDigits body)) else none
    else none

/-- Digits, a fraction and an exponent, of which one digit outside the exponent must be there. -/
def readMagnitude? (negative : Bool) (cs : List Char) : Option Binary64 :=
  let whole := cs.takeWhile isDigit
  let rest := cs.dropWhile isDigit
  let (fraction, rest) := match rest with
    | '.' :: more => (more.takeWhile isDigit, more.dropWhile isDigit)
    | _ => ([], rest)
  if whole.isEmpty && fraction.isEmpty then none
  else (readExponent? rest).map fun e =>
    Binary64.ofDecimal negative (whole ++ fraction) (e - fraction.length)

/-- A number with a fraction or exponent, an infinity or a NaN, blanks around it allowed. -/
def readReal? (ls : List Letter) : Option Binary64 :=
  let (negative, body) := splitSign (spelling ls)
  let word := String.ofList (body.map Char.toLower)
  if word == "inf" || word == "infinity" then some (.infinite negative)
  else if word == "nan" then some .nan
  else readMagnitude? negative body

end DiagnosticCatalog.Decimal
