import DiagnosticCatalog.Registry.Preset
/-!
Settings read from a document that keeps the rules, and their application to a registry. Tokens are
taken from the least severity to the greatest, so of two that name one issue the stricter is written
last.
-/

namespace DiagnosticCatalog

/-- What a document asks for, the tokens in the order in which they are applied. -/
structure Settings where
  preset? : Option Preset
  warningsAsErrors : Bool
  lintsAsErrors : Bool
  severities : List (Text × Severity)
  deriving DecidableEq, Repr

namespace Settings

/-- Settings that ask for nothing. -/
def blank : Settings := ⟨none, false, false, []⟩

def tokenValues (v : Value) : List Value :=
  match v.content with
  | .list vs => vs
  | _ => [v]

/-- Tokens by the severity that they are given for, one token behind the other. -/
abbrev Groups := Table Severity (List Text)

def Groups.tokens (g : Groups) (s : Severity) : List Text := (g.get? s).getD []

/-- Puts tokens behind those that are there for the severity. -/
def Groups.extend (g : Groups) (s : Severity) (tokens : List Text) : Groups :=
  g.bind s (g.tokens s ++ tokens)

/-- The tokens of the entries by severity. Two words for one severity have one group. -/
def group (g : Groups) : List (Value × Value) → Except Failure Groups
  | [] => .ok g
  | (name, tokens) :: rest =>
    match Severity.parse name.display with
    | .error e => .error (.word e)
    | .ok s => group (g.extend s ((tokenValues tokens).map Value.display)) rest

/-- The tokens with their severities, those of the least severity first. -/
def Groups.flatten (g : Groups) : List (Text × Severity) :=
  (Severity.sort (g.rows.map Prod.fst)).flatMap fun s => (g.tokens s).map fun t => (t, s)

def flag (name : Text) (entries : List (Value × Value)) : Bool :=
  match Value.get? name entries with
  | some (.truth b) => b
  | _ => false

def presetOf? (entries : List (Value × Value)) : Option Preset :=
  match Value.get? "preset" entries with
  | some (.text t) => t.string?.bind Preset.ofName?
  | _ => none

def readEntries (entries : List (Value × Value)) : Except Failure Settings :=
  (group .empty (severityEntries entries)).map fun g => {
    preset? := presetOf? entries
    warningsAsErrors := flag "warnings_as_errors" entries
    lintsAsErrors := flag "lints_as_errors" entries
    severities := g.flatten }

def ofDocument (path? : Option String) (v : Value) : Except Failure Settings :=
  if isJudgeable v then
    match complaint? v, v.content with
    | some c, _ => .error (.settings ⟨path?, .complaint c⟩)
    | none, .map es => readEntries es
    | none, _ => .ok blank
  else .error (.overlong .writing)

end Settings

/-- What settings bring to a registry. Made by hand, it may name a preset that there is not. -/
structure Arrangement where
  presetName? : Option String
  severities : List (Text × Severity)
  deriving DecidableEq, Repr

def Settings.arrangement (s : Settings) : Arrangement :=
  ⟨s.preset?.map Preset.name, s.severities⟩

instance : Coe Settings Arrangement := ⟨Settings.arrangement⟩

/-- The preset first, then the tokens as requests of a user. -/
def Registry.applySettings (r : Registry) (a : Arrangement) : Run (List Text) :=
  (match a.presetName? with
    | some name => (r.applyPresetNamed name).map fun _ => ()
    | none => .done r ()).andThen fun r _ => r.configureSeverities a.severities true

end DiagnosticCatalog
