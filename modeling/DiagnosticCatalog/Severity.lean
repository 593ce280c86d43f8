import DiagnosticCatalog.Text.Blank
import DiagnosticCatalog.Text.Case
import DiagnosticCatalog.Text.Quoted
/-!
Severities, and levels as they are stored: a severity, or the mark that the parent issue decides.
Words are read up to case and surrounding blanks; the mark cannot be asked for by its word.
-/

namespace DiagnosticCatalog

inductive Severity
  | hidden
  | info
  | lint
  | warning
  | error
  deriving DecidableEq, Repr, Inhabited

namespace Severity

/-- From least to most severe. -/
def all : List Severity := [.hidden, .info, .lint, .warning, .error]

def rank : Severity → Nat
  | hidden => 0
  | info => 1
  | lint => 2
  | warning => 3
  | error => 4

def word : Severity → String
  | hidden => "hidden"
  | info => "info"
  | lint => "lint"
  | warning => "warning"
  | error => "error"

instance : LE Severity := ⟨fun a b => a.rank ≤ b.rank⟩

instance : LT Severity := ⟨fun a b => a.rank < b.rank⟩

instance (a b : Severity) : Decidable (a ≤ b) := inferInstanceAs (Decidable (a.rank ≤ b.rank))

instance (a b : Severity) : Decidable (a < b) := inferInstanceAs (Decidable (a.rank < b.rank))

def sort (ss : List Severity) : List Severity := ss.mergeSort fun a b => a ≤ b

end Severity

/-- A level as an issue holds it. -/
inductive Level
  | inherit
  | explicit (s : Severity)
  deriving DecidableEq, Repr, Inhabited

def inheritWord : String := "inherit"

def Level.word : Level → String
  | .inherit => inheritWord
  | .explicit s => s.word

/-- The level of a word in small letters, with no alias. -/
def Level.ofWord? (w : String) : Option Level :=
  if w = inheritWord then some .inherit
  else (Severity.all.find? (·.word = w)).map .explicit

/-- Why a text is no severity. -/
inductive WordFault
  | inherits
  | unknown (text : Option Text)
  deriving DecidableEq, Repr

/-- A text in quoted form, or the name of its absence. -/
def quotedOrNone : Option Text → String
  | none => "None"
  | some s => Text.quoted s

def WordFault.message : WordFault → String
  | .inherits => "severity may not be set to inherit"
  | .unknown text => "unknown severity: " ++ quotedOrNone text

/-- The short forms, each with the word it stands for. -/
def severityAliases : List (String × String) := [("hide", "hidden"), ("warn", "warning")]

/-- A text without the blanks around it, in small letters. -/
def foldedWord (s : String) : String := String.ofList (Text.lowerChars (Text.strip s.toList))

/-- The folded word with an alias replaced. -/
def severityWord (s : String) : String :=
  (severityAliases.lookup (foldedWord s)).getD (foldedWord s)

/-- The level that a text asks for; no text is the empty one. -/
def levelOfText? (text? : Option Text) : Option Level :=
  (text?.getD "").string?.bind fun s => Level.ofWord? (severityWord s)

def Severity.read (text? : Option Text) : Except WordFault Severity :=
  match levelOfText? text? with
  | some .inherit => .error .inherits
  | some (.explicit s) => .ok s
  | none => .error (.unknown text?)

def Severity.parse (text : Text) : Except WordFault Severity := Severity.read (some text)

/-- Which findings a run reports as errors although their severity is lower. -/
structure Promotion where
  warnings : Bool
  lints : Bool
  deriving DecidableEq, Repr

def Severity.reported (p : Promotion) : Severity → Severity
  | lint => if p.lints then error else lint
  | warning => if p.warnings then error else warning
  | s => s

end DiagnosticCatalog
