import DiagnosticCatalog.Proofs.Decimal.Numeral
import DiagnosticCatalog.Proofs.Text
import DiagnosticCatalog.Proofs.Text.Blank
import DiagnosticCatalog.Registry.Override
/-!
Codes as tokens. The decimal text of a code is one piece, and it leads to the issue with the code
unless it is the name of an issue.
-/

namespace DiagnosticCatalog

open Decimal

/-- The token of a code, as text. -/
def decimalToken (n : Int) : Text := .ofString (intText n)

theorem Token.spelling_code {n : Int} (h : isWritable n = true) :
    (Token.code n).spelling = .ok (decimalToken n) := by
  simp only [spelling, value, Value.isWritable, h, if_true, Value.display, Value.inline,
    Value.inlineWithin, decimalToken]

theorem toList_intText (n : Int) : (intText n).toList = intDigits n := String.toList_ofList

theorem isEmpty_decimalToken (n : Int) : (decimalToken n).isEmpty = false :=
  Text.isEmpty_ofString (toList_intText n ▸ intDigits_ne_nil n)

theorem strip_intDigits (n : Int) : Text.strip (intDigits n) = intDigits n :=
  Text.stripOf_eq_self fun _ hc => not_isBlank_of_isDigit (mem_intDigits hc)

namespace Registry

theorem tokenPieces_decimalToken (n : Int) : tokenPieces (decimalToken n) = [decimalToken n] := by
  have hc : ',' ∉ intDigits n := fun h => by
    rcases mem_intDigits h with h | h
    · exact absurd h (by decide)
    · exact absurd h (by decide)
  rw [tokenPieces, if_neg]
  simpa [decimalToken, Text.ofString, Text.ofChars, toList_intText] using hc

variable (r : Registry)

theorem resolveText_decimalToken (n : Int) :
    r.resolveText (decimalToken n) = r.resolveString (intText n) := by
  rw [resolveText, decimalToken, Text.string?_ofString]

/-- Where no issue has it for a name, the decimal text of a code means the code. -/
theorem resolveText_decimalToken_eq {n : Nat} (h : isWritable n = true)
    (hn : r.byName? (intText n) = none) :
    r.resolveText (decimalToken n) = .ok (r.byCode? n) := by
  rw [resolveText_decimalToken, resolveString, hn, toList_intText, strip_intDigits]
  simp only [intDigits, isNumeral_digits, readNumeral_digits h, if_true]

end Registry

end DiagnosticCatalog
