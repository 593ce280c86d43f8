import DiagnosticCatalog.Text
import DiagnosticCatalog.Text.UnprintableTable
/-!
The quoted form of a text in messages. Single quotes, or double ones when that saves escaping; what
cannot be printed is spelt by number in small hexadecimal. No reader of this form is given.
-/

namespace DiagnosticCatalog.Text

def isPrintable (c : Char) : Bool :=
  if c.toNat < 0x80 then 0x20 ≤ c.toNat && c.toNat < 0x7F
  else !(unprintableRanges.any fun r => r.1 ≤ c.toNat && c.toNat ≤ r.2)

def hexDigit (n : Nat) : Char :=
  if n < 10 then Char.ofNat (0x30 + n) else Char.ofNat (0x57 + n)

/-- The lowest `width` hexadecimal digits of `n`, highest first. -/
def hexDigits : (width : Nat) → (n : Nat) → List Char
  | 0, _ => []
  | w + 1, n => hexDigit (n / Nat.pow 16 w % 16) :: hexDigits w n

def numericEscape (n : Nat) : List Char :=
  if n < 0x100 then '\\' :: 'x' :: hexDigits 2 n
  else if n < 0x10000 then '\\' :: 'u' :: hexDigits 4 n
  else '\\' :: 'U' :: hexDigits 8 n

def quotedChar (quote c : Char) : List Char :=
  if c = quote || c = '\\' then ['\\', c]
  else if c = '\t' then ['\\', 't']
  else if c = '\n' then ['\\', 'n']
  else if c = '\r' then ['\\', 'r']
  else if isPrintable c then [c]
  else numericEscape c.toNat

def quotedLetter (quote : Char) : Letter → List Char
  | .char c => quotedChar quote c
  | .half n => numericEscape (Letter.half n).code

/-- Double quotes serve only a text that holds a single quote and no double one. -/
def quoteFor (t : Text) : Char :=
  if t.letters.contains '\x27' && !t.letters.contains '\x22' then '\x22' else '\x27'

def quoted (t : Text) : String :=
  let quote := quoteFor t
  String.ofList (quote :: t.letters.flatMap (quotedLetter quote) ++ [quote])

end DiagnosticCatalog.Text
