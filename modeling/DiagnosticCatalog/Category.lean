import DiagnosticCatalog.Severity
/-!
The reporting groups of issues. A key is read up to case and surrounding blanks, a hyphen counting
as an underscore.
-/

namespace DiagnosticCatalog

inductive Category
  | compatibility
  | documentation
  | apiLint
  | unknown
  deriving DecidableEq, Repr, Inhabited

namespace Category

def all : List Category := [.compatibility, .documentation, .apiLint, .unknown]

def key : Category → String
  | compatibility => "compatibility"
  | documentation => "documentation"
  | apiLint => "api_lint"
  | unknown => "unknown"

/-- The key in capitals. -/
def constant : Category → String
  | compatibility => "COMPATIBILITY"
  | documentation => "DOCUMENTATION"
  | apiLint => "API_LINT"
  | unknown => "UNKNOWN"

def description : Category → String
  | compatibility => "Compatibility"
  | documentation => "Documentation"
  | apiLint => "API Lint"
  | unknown => "Default"

/-- Where the rules of the group are explained. -/
def ruleLink? : Category → Option String
  | apiLint => some "go/android-api-guidelines"
  | _ => none

def ofKey? (k : String) : Option Category := all.find? (·.key = k)

end Category

/-- A text that names no category. -/
structure UnknownCategory where
  text : Option Text
  deriving DecidableEq, Repr

def UnknownCategory.message (e : UnknownCategory) : String :=
  "unknown category: " ++ quotedOrNone e.text

def hyphenToUnderscore (c : Char) : Char := if c = '-' then '_' else c

def categoryWord (s : String) : String := (foldedWord s).map hyphenToUnderscore

def Category.read (text? : Option Text) : Except UnknownCategory Category :=
  match (text?.getD "").string?.bind fun s => Category.ofKey? (categoryWord s) with
  | some c => .ok c
  | none => .error ⟨text?⟩

end DiagnosticCatalog
