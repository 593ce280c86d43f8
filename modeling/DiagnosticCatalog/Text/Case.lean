import DiagnosticCatalog.Text
import DiagnosticCatalog.Text.CaseTable
/-!
Small and capital letters for all of Unicode. A letter may become several characters, and a capital
sigma at the end of a word becomes the final form; no other mapping looks at its neighbours.
-/

namespace DiagnosticCatalog.Text

def inRanges (ranges : List (Nat × Nat)) (c : Char) : Bool :=
  ranges.any fun r => r.1 ≤ c.toNat && c.toNat ≤ r.2

def isCased (c : Char) : Bool := inRanges casedRanges c

def isCaseIgnorable (c : Char) : Bool := inRanges caseIgnorableRanges c

def mapSpan (spans : List Span) (c : Char) : Char :=
  match spans.find? (·.covers c.toNat) with
  | some s => Char.ofNat (c.toNat + s.shift).toNat
  | none => c

/-- The small letter of a character outside any word. -/
def lowerChar (c : Char) : List Char :=
  if c.toNat < 0x80 then [c.toLower]
  else if c.toNat == 0x130 then ['i', Char.ofNat 0x307]
  else [mapSpan lowerSpans c]

def upperChar (c : Char) : List Char :=
  if c.toNat < 0x80 then [c.toUpper]
  else match upperSequences.lookup c.toNat with
    | some codes => codes.map Char.ofNat
    | none => [mapSpan upperSpans c]

/-- Whether the first character that is not skipped has case. -/
def casedAhead (cs : List Char) : Bool :=
  match cs.dropWhile isCaseIgnorable with
  | [] => false
  | c :: _ => isCased c

/-- `before` holds the characters already passed, the nearest first. A capital sigma is final if a
letter with case stands before it and none after it. -/
def lowerFrom (before : List Char) : List Char → List Char
  | [] => []
  | c :: cs =>
    let letters :=
      if c.toNat == 0x3A3 then
        [if casedAhead before && !casedAhead cs then Char.ofNat 0x3C2 else Char.ofNat 0x3C3]
      else lowerChar c
    letters ++ lowerFrom (c :: before) cs

def lowerChars (cs : List Char) : List Char := lowerFrom [] cs

def lower (s : String) : String := String.ofList (lowerChars s.toList)

/-- The small letters of what follows the characters of an open run. -/
def lowerLetters (run : List Char) : List Letter → List Letter
  | [] => (lowerChars run.reverse).map .char
  | .char c :: ls => lowerLetters (c :: run) ls
  | .half n :: ls => (lowerChars run.reverse).map .char ++ .half n :: lowerLetters [] ls

/-- A half has no case, and parts the words at its sides. -/
def lowerText (t : Text) : Text := ⟨lowerLetters [] t.letters⟩

/-- The first character as a capital, the rest unchanged. -/
def capitalize : List Char → List Char
  | [] => []
  | c :: cs => upperChar c ++ cs

end DiagnosticCatalog.Text
