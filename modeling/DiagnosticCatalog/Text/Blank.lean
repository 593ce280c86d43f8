import DiagnosticCatalog.Text
/-!
White space and the cutting of text: blanks at both ends, and the pieces between separators. The
class is the Unicode property White_Space together with U+001C to U+001F; zero-width characters are
not in it.
-/

namespace DiagnosticCatalog.Text

def isBlank (c : Char) : Bool :=
  let n := c.toNat
  (0x09 ≤ n && n ≤ 0x0D) || (0x1C ≤ n && n ≤ 0x20) || n == 0x85 || n == 0xA0 || n == 0x1680 ||
    (0x2000 ≤ n && n ≤ 0x200A) || n == 0x2028 || n == 0x2029 || n == 0x202F || n == 0x205F ||
    n == 0x3000

/-- What is left without the members of the class at either end. -/
def stripOf {α : Type} (p : α → Bool) (l : List α) : List α :=
  ((l.dropWhile p).reverse.dropWhile p).reverse

/-- The characters without the blanks at either end. -/
def strip (cs : List Char) : List Char := stripOf isBlank cs

def trim (t : Text) : Text := ⟨stripOf (Letter.isOf isBlank) t.letters⟩

/-- The stretches between occurrences of `sep`: one more of them than there are separators. -/
def splitAt {α : Type} [DecidableEq α] (sep : α) : List α → List (List α)
  | [] => [[]]
  | c :: cs =>
    if c = sep then [] :: splitAt sep cs
    else match splitAt sep cs with
      | [] => [[c]]
      | piece :: pieces => (c :: piece) :: pieces

def split (sep : Char) (t : Text) : List Text := (splitAt (.char sep) t.letters).map .mk

/-- Blanks on the right until the text has `width` characters; a longer text is left as it is. -/
def padRight (width : Nat) (s : String) : String :=
  s ++ String.ofList (List.replicate (width - s.length) ' ')

def padLeft (width : Nat) (s : String) : String :=
  String.ofList (List.replicate (width - s.length) ' ') ++ s

end DiagnosticCatalog.Text
