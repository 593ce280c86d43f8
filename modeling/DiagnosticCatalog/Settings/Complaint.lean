import DiagnosticCatalog.Preset
/-!
The rules for settings documents. A document is a mapping with at most the names `preset`,
`warnings_as_errors`, `lints_as_errors` and `severities`; the last maps severity words to tokens or
lists of tokens, a token being a text that is not empty or a whole number that is not negative. One
fault of a document that breaks these rules is reported, with its place.
-/

namespace DiagnosticCatalog

/-- A step into a document: the value of a key, or an item of a list. -/
inductive Step
  | key (name : String)
  | index (n : Nat)
  deriving DecidableEq, Repr

def Step.text : Step → String
  | key name => name
  | index n => Decimal.intText n

/-- What is wrong with the value at a place. -/
inductive Flaw
  | notMapping (v : Value)
  | unknownKeys (keys : List Value)
  | notTruth (v : Value)
  | notPresetText (v : Value)
  | noPreset (v : Value)
  | noSeverityWord (key : Value)
  | emptyToken
  | negativeToken (v : Value)
  | noToken (v : Value)

structure Complaint where
  place : List Step
  flaw : Flaw

namespace Settings

def entryNames : List String := ["preset", "warnings_as_errors", "lints_as_errors", "severities"]

/-- The words under which severities are given, those of the severities and their short forms. -/
def severityWords : List String := ["hidden", "hide", "info", "lint", "warning", "warn", "error"]

/-- The name that stands for having no preset. -/
def nonePreset : String := "none"

def presetNames : List String := nonePreset :: Preset.all.map Preset.name

def textValues (words : List String) : List Value := words.map fun w : String => .text w

def presetChoices : List Value := textValues presetNames ++ [.null]

def severityChoices : List Value := textValues severityWords

end Settings

def oneOf (v : Value) (choices : List Value) : String :=
  v.inline ++ " is not one of " ++ (Value.list choices).inline

def Flaw.message : Flaw → String
  | notMapping v => v.inline ++ " is not of type 'object'"
  | unknownKeys ks =>
    "Additional properties are not allowed (" ++ ", ".intercalate (ks.map Value.inline) ++
      (if ks.length = 1 then " was" else " were") ++ " unexpected)"
  | notTruth v => v.inline ++ " is not of type 'boolean'"
  | notPresetText v => v.inline ++ " is not of type 'string', 'null'"
  | noPreset v => oneOf v Settings.presetChoices
  | noSeverityWord k => oneOf k Settings.severityChoices
  | emptyToken => "'' should be non-empty"
  | negativeToken v => v.inline ++ " is less than the minimum of 0"
  | noToken v => v.inline ++ " is not valid under any of the given schemas"

def Complaint.placeText (c : Complaint) : String :=
  if c.place.isEmpty then "<root>" else "/".intercalate (c.place.map Step.text)

def Complaint.message (c : Complaint) : String := c.placeText ++ ": " ++ c.flaw.message

namespace Settings

/-- Whether a key is one of the names. -/
def isAmong (names : List String) : Value → Bool
  | .text t => t.string?.any names.contains
  | _ => false

def truthComplaint? (name : String) (entries : List (Value × Value)) : Option Complaint :=
  match Value.get? name entries with
  | none => none
  | some (.truth _) => none
  | some v => some ⟨[.key name], .notTruth v⟩

def presetComplaint? (entries : List (Value × Value)) : Option Complaint :=
  match Value.get? "preset" entries with
  | none => none
  | some .null => none
  | some (.text t) =>
    if isAmong presetNames (.text t) then none else some ⟨[.key "preset"], .noPreset (.text t)⟩
  | some v => some ⟨[.key "preset"], .notPresetText v⟩

/-- The shape of the severities: a mapping all of whose keys are severity words. -/
def wordsComplaint? (entries : List (Value × Value)) : Option Complaint :=
  match Value.get? "severities" entries with
  | none => none
  | some v =>
    match v.content with
    | .map es =>
      (es.find? fun e => !isAmong severityWords e.1).map fun e =>
        ⟨[.key "severities"], .noSeverityWord e.1⟩
    | _ => some ⟨[.key "severities"], .notMapping v⟩

def wholeFlaw? (v : Value) (n : Int) : Option Flaw :=
  if n < 0 then some (.negativeToken v) else none

def tokenFlaw? : Value → Option Flaw
  | .text t => if t.isEmpty then some .emptyToken else none
  | .whole n => wholeFlaw? (.whole n) n
  | .real x =>
    match x.toInt? with
    | some n => wholeFlaw? (.real x) n
    | none => some (.noToken (.real x))
  | v => some (.noToken v)

/-- The first item that is no token, counting from `n`. -/
def itemFlaw? (n : Nat) : List Value → Option (Nat × Flaw)
  | [] => none
  | v :: vs =>
    match tokenFlaw? v with
    | some f => some (n, f)
    | none => itemFlaw? (n + 1) vs

def tokensComplaint? (name : String) (v : Value) : Option Complaint :=
  match v.content with
  | .list vs => (itemFlaw? 0 vs).map fun (n, f) => ⟨[.key "severities", .key name, .index n], f⟩
  | _ => (tokenFlaw? v).map fun f => ⟨[.key "severities", .key name], f⟩

/-- Of two complaints about different keys the one with the greater key. -/
def greater (best? : Option (String × Complaint)) (name : String) (c? : Option Complaint) :
    Option (String × Complaint) :=
  match c?, best? with
  | none, _ => best?
  | some c, none => some (name, c)
  | some c, some (other, d) => if other < name then some (name, c) else some (other, d)

/-- The entries under `severities`, none if there is no mapping. -/
def severityEntries (entries : List (Value × Value)) : List (Value × Value) :=
  match (Value.get? "severities" entries).map Value.content with
  | some (.map es) => es
  | _ => []

/-- The complaint about the tokens of the greatest severity word that has one. -/
def severitiesComplaint? (entries : List (Value × Value)) : Option Complaint :=
  ((severityEntries entries).foldl (fun best? e =>
    let name := toString e.1.display
    greater best? name (tokensComplaint? name e.2)) none).map Prod.snd

/-- The fault that is reported, if there is one: of the whole, of its entries in a fixed order, then
of single tokens. -/
def complaint? (v : Value) : Option Complaint :=
  match v.content with
  | .map es =>
    let unknown := (es.map Prod.fst).filter fun k => !isAmong entryNames k
    if unknown.isEmpty then
      truthComplaint? "warnings_as_errors" es <|> wordsComplaint? es <|> presetComplaint? es <|>
        truthComplaint? "lints_as_errors" es <|> severitiesComplaint? es
    else some ⟨[], .unknownKeys (unknown.mergeSort fun a b => a.display ≤ b.display)⟩
  | _ => some ⟨[], .notMapping v⟩

/-- Whether the document can be judged. The check spells out whatever it may have to complain of,
all but what stands under unknown keys, so no number there may have too many digits. -/
def isJudgeable (v : Value) : Bool :=
  match v.content with
  | .map es => es.all fun e => e.1.isWritable && (!isAmong entryNames e.1 || e.2.isWritable)
  | _ => v.isWritable

end Settings

end DiagnosticCatalog
