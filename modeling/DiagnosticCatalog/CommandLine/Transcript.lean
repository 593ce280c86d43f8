import DiagnosticCatalog.CommandLine.Invocation
import DiagnosticCatalog.Registry.Report
import DiagnosticCatalog.Settings.File
import DiagnosticCatalog.Value.Canonical
/-!
What a run of the command line writes, and how it ends. Every run starts from the standard registry;
the settings file comes first, the preset after it, the overrides last.
-/

namespace DiagnosticCatalog.CommandLine

/-- `errors?` is none if the run ended while its arguments were read. -/
structure Transcript where
  status : ExitStatus
  output : String
  errors? : Option String
  deriving DecidableEq, Repr

def versionLine : String := "api-issues 0.1.0\n"

def usage : String :=
  "usage: api-issues [options] list [--category KEY] [--user-set] [--json]\n" ++
  "       api-issues [options] show [--json] ID\n\n" ++
  "options:\n" ++
  "  --error ID, --warning ID, --lint ID, --info ID, --hide ID\n" ++
  "  --config FILE, --preset NAME\n" ++
  "  --warnings-as-errors, --lints-as-errors, --strict\n" ++
  "  -v, --verbose, --version, -h, --help\n"

def Ending.transcript : Ending → Transcript
  | misuse => ⟨.error, "", none⟩
  | help => ⟨.success, usage, none⟩
  | version => ⟨.success, versionLine, none⟩

def textOf (lines : List String) : String := String.join (lines.map (· ++ "\n"))

/-- Warnings are always told, the rest only if asked for. -/
def told (verbose : Bool) (log : List Notice) : List String :=
  (log.filter fun n => verbose || n.isWarning).map Notice.line

def refusal (message : String) : String := "error: " ++ message

/-! ## Configuration -/

def Invocation.loadSettings (source : FileSource) (i : Invocation) :
    Except Failure (Option Settings) :=
  match i.config? with
  | none => .ok none
  | some (.given path) => (Settings.load source path).map some
  | some .nothing => .error .noPath

/-- Applies settings and keeps what they left over. -/
def configureSettings (r : Registry) (settings? : Option Settings) : Run (List Text) :=
  match settings? with
  | some s => r.applySettings s
  | none => .done r []

def configurePreset (r : Registry) (preset? : Option (Operand Preset)) : Run Unit :=
  match preset? with
  | some (.given p) => (r.applyPreset p).map fun _ => ()
  | some .nothing => .fail r .noPreset
  | none => .done r ()

/-- The registry that a command line leads to, and the pieces of tokens that named no issue. -/
def Invocation.configure (i : Invocation) (r : Registry) (settings? : Option Settings) :
    Run (List Text) :=
  (configureSettings r settings?).andThen fun r missed =>
    (configurePreset r i.preset?).andThen fun r _ =>
      (r.configureSeverities i.overrides true).map (missed ++ ·)

def loadNotices (i : Invocation) (settings? : Option Settings) : List Notice :=
  match i.config?, settings? with
  | some (.given path), some s => [.settingsLoaded s.severities.length (PathText.normalize path)]
  | _, _ => []

/-- A flag counts if the command line or the settings raise it. -/
def Invocation.promotionWith (i : Invocation) (settings? : Option Settings) : Promotion :=
  let s := settings?.getD .blank
  ⟨i.promotion.warnings || s.warningsAsErrors, i.promotion.lints || s.lintsAsErrors⟩

/-! ## Commands -/

/-- The severity that an entry is reported with. -/
def reportedOf (p : Promotion) (r : Registry) (e : Entry) : Except CatalogFailure Severity :=
  (r.effective e).map (Severity.reported p)

/-- The description of an entry, with the severity that it is reported with behind it. -/
def detailOf (p : Promotion) (r : Registry) (e : Entry) : Except CatalogFailure Fields := do
  let fields ← r.describe e
  let s ← reportedOf p r e
  return fields ++ [("reported_severity", .text s.word)]

def objectOf (fields : Fields) : Value := .map (fields.map fun f => (.text f.1, f.2))

/-- The fields by name. -/
def linesOf (fields : Fields) : List String :=
  (fields.mergeSort fun f g => f.1 ≤ g.1).map fun f =>
    Text.padRight 22 f.1 ++ " " ++ toString f.2.display

/-- Code, mark of a user's choice, name, severity and category, in columns. -/
def lineOf (e : Entry) (s : Severity) : String :=
  let mark := if e.userSet then "*" else " "
  Text.padLeft 4 (Decimal.intText e.issue.code) ++ " " ++ mark ++ " " ++
    Text.padRight 40 e.issue.name ++ "  " ++ Text.padRight 8 s.word ++ "  " ++
    e.issue.category.description

def Listing.entries (l : Listing) (r : Registry) : List Entry :=
  (r.inCategory l.category?).filter fun e => !l.userSet || e.userSet

/-- The objects of a listing behind those that are done. -/
def jsonRows (p : Promotion) (r : Registry) (done : List Value) :
    List Entry → Except CatalogFailure (List Value)
  | [] => .ok done
  | e :: es =>
    match detailOf p r e with
    | .error f => .error f
    | .ok fields => jsonRows p r (done ++ [objectOf fields]) es

/-- The lines of a listing, each written before the next entry is looked at. -/
def textLines (p : Promotion) (r : Registry) (written : String) :
    List Entry → Except CatalogFailure String
  | [] => .ok written
  | e :: es =>
    match reportedOf p r e with
    | .error f => .error f
    | .ok s => textLines p r (written ++ lineOf e s ++ "\n") es

def canonical (v : Value) : String := v.canonicalText (some 2)

def Listing.output (l : Listing) (p : Promotion) (r : Registry) : Except Failure String :=
  if l.json then
    match jsonRows p r [] (l.entries r) with
    | .error e => .error (.ofCatalog e)
    | .ok rows => .ok (canonical (.list rows))
  else (textLines p r "" (l.entries r)).mapError .ofCatalog

def detailOutput (e : Entry) (json : Bool) (p : Promotion) (r : Registry) : Except Failure String :=
  match detailOf p r e with
  | .error f => .error (.ofCatalog f)
  | .ok fields => .ok (if json then canonical (objectOf fields) else textOf (linesOf fields))

/-- What a command writes, or the token that it knows no issue for. -/
def Command.output (c : Command) (p : Promotion) (r : Registry) :
    Except Failure (Except String String) :=
  match c with
  | .list l => (l.output p r).map .ok
  | .detail token json =>
    match r.resolveText token with
    | .error e => .error (.overlong e)
    | .ok none => .ok (.error token)
    | .ok (some e) => (detailOutput e json p r).map .ok

/-! ## Runs -/

def finish (strict : Bool) (missed : List Text) : ExitStatus :=
  if strict && !missed.isEmpty then .violation else .success

/-- A run of a command. Settings that are refused end it; any other failure has no transcript. -/
def Invocation.perform (i : Invocation) (c : Command) (source : FileSource) (r : Registry) :
    Except Failure Transcript :=
  let boot : List Notice := [.built r.size]
  match i.loadSettings source with
  | .error (.settings e) =>
    .ok ⟨.error, "", some (textOf (told i.verbose boot ++ [refusal e.message]))⟩
  | .error e => .error e
  | .ok settings? =>
    let run := i.configure r settings?
    let log := told i.verbose (boot ++ loadNotices i settings? ++ run.log)
    match run.outcome with
    | .error e => .error e
    | .ok missed => do
      match ← c.output (i.promotionWith settings?) run.registry with
      | .error token =>
        return ⟨.error, "", some (textOf (log ++ [refusal ("unknown issue: " ++ token)]))⟩
      | .ok output => return ⟨finish i.strict missed, output, some (textOf log)⟩

/-- A run with arguments that could be read. -/
def Invocation.run (i : Invocation) (source : FileSource) : Except Failure Transcript :=
  match i.command? with
  | none => .ok ⟨.error, "", some (textOf [refusal "use 'list' or 'show'."])⟩
  | some c =>
    match Registry.ofDeclarations standardDeclarations with
    | .error e => .error (.ofCatalog e)
    | .ok r => i.perform c source r

def run (source : FileSource) (args : List String) : Except Failure Transcript :=
  match Invocation.read args with
  | .error e => .ok e.transcript
  | .ok i => i.run source

end DiagnosticCatalog.CommandLine
