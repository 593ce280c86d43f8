/-!
Text as documents hold it. A document can name a character by number, and so one half of a surrogate
pair alone; such a half has no place in a string, so text is a list of letters that may be halves.
Text without halves is the same as a string.
-/

namespace DiagnosticCatalog

/-- A character, or one half of a surrogate pair. The halves are counted from U+D800. -/
inductive Letter
  | char (c : Char)
  | half (n : Fin 0x800)
  deriving DecidableEq, Repr, Inhabited

namespace Letter

instance : Coe Char Letter := ⟨char⟩

def code : Letter → Nat
  | char c => c.toNat
  | half n => 0xD800 + n.val

/-- The letter of a number that is no more than U+10FFFF. -/
def ofCode (n : Nat) : Letter :=
  if h : 0xD800 ≤ n ∧ n < 0xE000 then half ⟨n - 0xD800, by omega⟩ else char (Char.ofNat n)

def char? : Letter → Option Char
  | char c => some c
  | half _ => none

/-- Whether the letter is a character of the class. -/
def isOf (p : Char → Bool) : Letter → Bool
  | char c => p c
  | half _ => false

end Letter

structure Text where
  letters : List Letter
  deriving DecidableEq, Repr, Inhabited

namespace Text

def ofChars (cs : List Char) : Text := ⟨cs.map .char⟩

def ofString (s : String) : Text := ofChars s.toList

instance : Coe String Text := ⟨ofString⟩

/-- The characters of text without halves. -/
def chars? (t : Text) : Option (List Char) := t.letters.mapM Letter.char?

def string? (t : Text) : Option String := t.chars?.map String.ofList

def isEmpty (t : Text) : Bool := t.letters.isEmpty

def codes (t : Text) : List Nat := t.letters.map Letter.code

instance : LT Text := ⟨fun s t => s.codes < t.codes⟩

instance : LE Text := ⟨fun s t => ¬t < s⟩

instance (s t : Text) : Decidable (s < t) := inferInstanceAs (Decidable (s.codes < t.codes))

instance (s t : Text) : Decidable (s ≤ t) := inferInstanceAs (Decidable (¬t < s))

instance : Ord Text := ⟨fun s t => compare s.codes t.codes⟩

/-- A half cannot be shown, and the replacement character stands in for it. -/
instance : ToString Text := ⟨fun t =>
  String.ofList (t.letters.map fun l => l.char?.getD (Char.ofNat 0xFFFD))⟩

end Text

end DiagnosticCatalog
