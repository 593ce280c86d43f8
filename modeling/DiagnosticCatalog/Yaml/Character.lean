import DiagnosticCatalog.Failure
/-!
Characters of YAML text by role, and line breaks. A text is read as a list of characters; its end
counts as a blank wherever a blank would end something.
-/

namespace DiagnosticCatalog.Yaml

/-- Why a text gives no document: it is not well formed, or a scalar is not what its tag says. -/
inductive Fault
  | malformed
  | scalar (e : ScalarFault)
  deriving DecidableEq, Repr

def isBreak (c : Char) : Bool :=
  c == '\n' || c == '\r' || c == '\x85' || c == Char.ofNat 0x2028 || c == Char.ofNat 0x2029

def isGap (c : Char) : Bool := c == ' ' || c == '\t'

/-- Whether the text is at its end or at a line break. -/
def atLineEnd : List Char → Bool
  | [] => true
  | c :: _ => isBreak c

/-- Whether the text is at its end, a line break or a gap. -/
def atGap : List Char → Bool
  | [] => true
  | c :: _ => isBreak c || isGap c

/-- As `atGap`, but a tab does not count. -/
def atSpace : List Char → Bool
  | [] => true
  | c :: _ => isBreak c || c == ' '

def isByteOrderMark (c : Char) : Bool := c == Char.ofNat 0xFEFF

/-- The characters that may stand in a text at all. -/
def isAllowed (c : Char) : Bool :=
  let n := c.toNat
  n == 0x09 || n == 0x0A || n == 0x0D || (0x20 ≤ n && n ≤ 0x7E) || n == 0x85 ||
    (0xA0 ≤ n && n ≤ 0xD7FF) || (0xE000 ≤ n && n ≤ 0xFFFD) || 0x10000 ≤ n

/-- A line break in its normal form, if the text is at one, and what follows. -/
def takeBreak : List Char → List Char × List Char
  | '\r' :: '\n' :: cs => (['\n'], cs)
  | c :: cs =>
    if c == '\n' || c == '\r' || c == '\x85' then (['\n'], cs)
    else if isBreak c then ([c], cs)
    else ([], c :: cs)
  | [] => ([], [])

/-- Whether a line starts with one of the marks between documents. -/
def atDocumentMark : List Char → Bool
  | '-' :: '-' :: '-' :: cs => atGap cs
  | '.' :: '.' :: '.' :: cs => atGap cs
  | _ => false

/-- Letters, digits, hyphens and underscores. -/
def isNameChar (c : Char) : Bool :=
  ('0' ≤ c && c ≤ '9') || ('A' ≤ c && c ≤ 'Z') || ('a' ≤ c && c ≤ 'z') || c == '-' || c == '_'

def dropSpaces (cs : List Char) : List Char := cs.dropWhile (· == ' ')

def dropLine (cs : List Char) : List Char := cs.dropWhile fun c => !isBreak c

/-- What follows a line that holds nothing more than a comment. -/
def endLine (cs : List Char) : Except Fault (List Char) :=
  let rest := match dropSpaces cs with
    | '#' :: cs => dropLine cs
    | cs => cs
  if atLineEnd rest then .ok (takeBreak rest).2 else .error .malformed

end DiagnosticCatalog.Yaml
