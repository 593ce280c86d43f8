import DiagnosticCatalog.Notice
import DiagnosticCatalog.Registry
/-!
Changes of levels. A change answers with the registry afterwards, what it made known, and its result
or failure all at once: a call that fails in the middle keeps what it had written. Levels asked for
are checked before anything is written; tokens are looked up one by one as they are written.
-/

namespace DiagnosticCatalog

structure Run (α : Type) where
  registry : Registry
  log : List Notice
  outcome : Except Failure α

namespace Run

def done {α : Type} (r : Registry) (a : α) : Run α := ⟨r, [], .ok a⟩

def fail {α : Type} (r : Registry) (e : Failure) : Run α := ⟨r, [], .error e⟩

/-- Goes on from the registry that the first run left, unless that run failed. -/
def andThen {α β : Type} (x : Run α) (f : Registry → α → Run β) : Run β :=
  match x.outcome with
  | .error e => ⟨x.registry, x.log, .error e⟩
  | .ok a => let y := f x.registry a; ⟨y.registry, x.log ++ y.log, y.outcome⟩

def map {α β : Type} (f : α → β) (x : Run α) : Run β := ⟨x.registry, x.log, x.outcome.map f⟩

def noting {α : Type} (x : Run α) (notes : α → List Notice) : Run α :=
  match x.outcome with
  | .error _ => x
  | .ok a => ⟨x.registry, x.log ++ notes a, x.outcome⟩

end Run

/-- The severity of a level asked for: a severity, or the word for one. -/
def requestedSeverity : Value → Except Failure Severity
  | .inherit => .error (.level .inherits)
  | .severity s => .ok s
  | .text t => (Severity.parse t).mapError .word
  | v => .error (.noSeverity v)

namespace Registry

/-- Changes the entry of one issue and no other. -/
def modify (r : Registry) (code : Int) (f : Entry → Entry) : Registry :=
  ⟨r.entries.map fun e => if e.issue.code = code then f e else e⟩

def store (r : Registry) (code : Int) (s : Severity) (userSet : Bool) : Registry :=
  r.modify code fun e => { e with level := .explicit s, userSet := userSet }

def write (r : Registry) (e : Entry) (s : Severity) (userSet : Bool) : Run Unit :=
  ⟨r.store e.issue.code s userSet, [.stored e.issue s userSet], .ok ()⟩

def setLevel (r : Registry) (ref : Ref) (level : Value) : Run Unit :=
  match requestedSeverity level with
  | .error e => .fail r e
  | .ok s =>
    match r.require ref with
    | .error e => .fail r e
    | .ok e => r.write e s true

/-- Writes to the issue of one piece of a token; the answer holds the piece if there is none. The
empty piece is not looked up. -/
def applyPiece (r : Registry) (s : Severity) (userSet : Bool) (piece : Text) :
    Run (List Text) :=
  if piece.isEmpty then .done r [piece]
  else match r.resolveText piece with
    | .error e => .fail r (.overlong e)
    | .ok none => .done r [piece]
    | .ok (some e) => (r.write e s userSet).map fun _ => []

def applyPieces (r : Registry) (s : Severity) (userSet : Bool) : List Text → Run (List Text)
  | [] => .done r []
  | p :: ps =>
    (r.applyPiece s userSet p).andThen fun r missed =>
      (applyPieces r s userSet ps).map (missed ++ ·)

/-- The pieces of a token with commas, without outer blanks; any other token is its own piece. -/
def tokenPieces (token : Text) : List Text :=
  if token.letters.contains ',' then (token.split ',').map Text.trim else [token]

def applyToken (r : Registry) (token : Text) (s : Severity) (userSet : Bool) :
    Run (List Text) :=
  r.applyPieces s userSet (tokenPieces token)

def applyBatch (r : Registry) (userSet : Bool) : List (Text × Severity) → Run (List Text)
  | [] => .done r []
  | (token, s) :: rest =>
    (r.applyToken token s userSet).andThen fun r missed =>
      (applyBatch r userSet rest).map (missed ++ ·)

/-- A token as text with its severity. Of two faults that of the token is reported. -/
def request (token : Token) (level : Value) : Except Failure (Text × Severity) :=
  match token.spelling, requestedSeverity level with
  | .error e, _ => .error (.overlong e)
  | .ok _, .error e => .error e
  | .ok t, .ok s => .ok (t, s)

/-- Whether every piece of the token was found. -/
def setSeverity (r : Registry) (token : Token) (level : Value) (userSet : Bool) : Run Bool :=
  match request token level with
  | .error e => .fail r e
  | .ok (t, s) => (r.applyToken t s userSet).map List.isEmpty

/-- Writes a batch and tells of every piece that was not found, after the last write. -/
def configureSeverities (r : Registry) (batch : List (Text × Severity)) (userSet : Bool) :
    Run (List Text) :=
  (r.applyBatch userSet batch).noting fun missed => missed.map .unrecognized

/-- All requests with their severities, or the first fault. -/
def requestedBatch (requests : List (Token × Value)) : Except Failure (List (Text × Severity)) :=
  requests.mapM fun q => request q.1 q.2

def configure (r : Registry) (requests : List (Token × Value)) (userSet : Bool) :
    Run (List Text) :=
  match requestedBatch requests with
  | .error e => .fail r e
  | .ok batch => r.configureSeverities batch userSet

def reset (r : Registry) : Run Unit :=
  ⟨⟨r.entries.map fun e => fresh e.issue⟩, [.restored], .ok ()⟩

end Registry

end DiagnosticCatalog
