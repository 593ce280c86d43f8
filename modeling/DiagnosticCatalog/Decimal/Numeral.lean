/-!
Whole numbers in decimal digits, and the limit on how many digits a number may have to be read from
text or written to it. Leading zeros count against the limit; signs do not.
-/

namespace DiagnosticCatalog.Decimal

def digitChar (n : Nat) : Char := Char.ofNat (0x30 + n)

def isDigit (c : Char) : Bool := 0x30 ≤ c.toNat && c.toNat ≤ 0x39

def digitValue (c : Char) : Nat := c.toNat - 0x30

/-- The digits of `n` in front of `tail`. -/
def digitsOnto (n : Nat) (tail : List Char) : List Char :=
  if n < 10 then digitChar n :: tail else digitsOnto (n / 10) (digitChar (n % 10) :: tail)
termination_by n
decreasing_by omega

def digits (n : Nat) : List Char := digitsOnto n []

/-- The number that a run of digits denotes; meant for digits only. -/
def ofDigits (cs : List Char) : Nat := cs.foldl (fun n c => 10 * n + digitValue c) 0

/-- At least one digit and nothing else. -/
def isNumeral (cs : List Char) : Bool := !cs.isEmpty && cs.all isDigit

def intDigits : Int → List Char
  | .ofNat n => digits n
  | .negSucc n => '-' :: digits (n + 1)

def intText (n : Int) : String := String.ofList (intDigits n)

def digitLimit : Nat := 4300

/-- A number with too many digits for its conversion. -/
inductive Overlong
  | reading (digits : Nat)
  | writing
  deriving DecidableEq, Repr

def Overlong.message : Overlong → String
  | .reading n =>
    "Exceeds the limit (4300 digits) for integer string conversion: value has " ++
      intText n ++ " digits; use sys.set_int_max_str_digits() to increase the limit"
  | .writing =>
    "Exceeds the limit (4300 digits) for integer string conversion; " ++
      "use sys.set_int_max_str_digits() to increase the limit"

/-- Reads a run of digits that is short enough. -/
def readNumeral (cs : List Char) : Except Overlong Nat :=
  if digitLimit < cs.length then .error (.reading cs.length) else .ok (ofDigits cs)

def isWritable (n : Int) : Bool := n.natAbs < Nat.pow 10 digitLimit

end DiagnosticCatalog.Decimal
