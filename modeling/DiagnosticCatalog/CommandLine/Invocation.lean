import DiagnosticCatalog.CommandLine.Word
import DiagnosticCatalog.Preset
/-!
What a command line asks for: changes of severities, in order, and one of two commands. Options for
all commands come before the command, its own behind it. The first thing on the line that ends the
reading decides how it ends, but words that have no place are told only when all else is read.
-/

namespace DiagnosticCatalog.CommandLine

inductive GlobalOption
  | override (s : Severity)
  | config
  | preset
  | warningsAsErrors
  | lintsAsErrors
  | strict
  | verbose
  | version
  | help
  deriving DecidableEq, Repr

def globalGrammar : Grammar GlobalOption where
  options := [
    ("-h", .help), ("--help", .help), ("--version", .version), ("--error", .override .error),
    ("--warning", .override .warning), ("--lint", .override .lint), ("--info", .override .info),
    ("--hide", .override .hidden), ("--config", .config), ("--preset", .preset),
    ("--warnings-as-errors", .warningsAsErrors), ("--lints-as-errors", .lintsAsErrors),
    ("--strict", .strict), ("-v", .verbose), ("--verbose", .verbose)]
  hasValue
    | .override _ | .config | .preset => true
    | _ => false

inductive ListOption
  | category
  | userSet
  | json
  | help
  deriving DecidableEq, Repr

def listGrammar : Grammar ListOption where
  options := [("-h", .help), ("--help", .help), ("--category", .category),
    ("--user-set", .userSet), ("--json", .json)]
  hasValue o := o = .category

inductive ShowOption
  | json
  | help
  deriving DecidableEq, Repr

def showGrammar : Grammar ShowOption where
  options := [("-h", .help), ("--help", .help), ("--json", .json)]
  hasValue _ := false

/-- Which issues to list, and how. -/
structure Listing where
  category? : Option Category
  userSet : Bool
  json : Bool
  deriving DecidableEq, Repr

inductive Command
  | list (l : Listing)
  | detail (token : String) (json : Bool)
  deriving DecidableEq, Repr

structure Invocation where
  overrides : List (Text × Severity)
  config? : Option (Operand String)
  preset? : Option (Operand Preset)
  promotion : Promotion
  strict : Bool
  verbose : Bool
  command? : Option Command
  deriving DecidableEq, Repr

def orMisuse {α : Type} (a? : Option α) : Except Ending α :=
  match a? with
  | some a => .ok a
  | none => .error .misuse

/-- The result, unless some word had no place. -/
def unlessStray {α : Type} (strays : Bool) (a : α) : Except Ending α :=
  if strays then .error .misuse else .ok a

/-- The choice by its name; nothing is no wrong choice. -/
def choiceOf {α : Type} (ofName? : String → Option α) : Operand String → Except Ending (Operand α)
  | .given name => (orMisuse (ofName? name)).map .given
  | .nothing => .ok .nothing

def Operand.get? {α : Type} : Operand α → Option α
  | .given a => some a
  | .nothing => none

namespace Listing

def apply (l : Listing) (o : ListOption) (operand : Operand String) : Except Ending Listing :=
  match o with
  | .category => (choiceOf Category.ofKey? operand).map fun c => { l with category? := c.get? }
  | .userSet => .ok { l with userSet := true }
  | .json => .ok { l with json := true }
  | .help => .error .help

/-- A listing names no issue, so every free word is without a place. -/
def ofItems (strays : Bool) (l : Listing) : List (Item ListOption) → Except Ending Listing
  | [] => unlessStray strays l
  | .misuse :: _ => .error .misuse
  | .option o operand :: items => do ofItems strays (← l.apply o operand) items
  | _ :: items => ofItems true l items

end Listing

/-- One token, and nothing without a place behind it; a separator may only come before it. -/
def detailOfItems (strays : Bool) (token? : Option String) (json : Bool) :
    List (Item ShowOption) → Except Ending Command
  | [] => do unlessStray strays (.detail (← orMisuse token?) json)
  | .misuse :: _ => .error .misuse
  | .option .json _ :: items => detailOfItems strays token? true items
  | .option .help _ :: _ => .error .help
  | .value text _ :: items =>
    if token?.isSome then detailOfItems true token? json items
    else detailOfItems strays (some text) json items
  | .separator :: items => detailOfItems (strays || token?.isSome) token? json items
  | .stray :: items => detailOfItems true token? json items

/-- A command by its name, with the words behind it. -/
def Command.read (name : String) (texts : List String) : Except Ending Command :=
  match name with
  | "list" => do
    return .list (← Listing.ofItems false ⟨none, false, false⟩ (← listGrammar.read texts))
  | "show" => do detailOfItems false none false (← showGrammar.read texts)
  | _ => .error .misuse

namespace Invocation

/-- Asks for nothing. -/
def blank : Invocation := ⟨[], none, none, ⟨false, false⟩, false, false, none⟩

/-- The token of an override; nothing is written as an empty list. -/
def overrideToken : Operand String → Text
  | .given s => s
  | .nothing => "[]"

/-- Overrides add up; of settings files, and of presets, the last one named counts. -/
def apply (i : Invocation) (o : GlobalOption) (operand : Operand String) :
    Except Ending Invocation :=
  match o with
  | .override s => .ok { i with overrides := i.overrides ++ [(overrideToken operand, s)] }
  | .config => .ok { i with config? := some operand }
  | .preset => (choiceOf Preset.ofName? operand).map fun p => { i with preset? := some p }
  | .warningsAsErrors => .ok { i with promotion := { i.promotion with warnings := true } }
  | .lintsAsErrors => .ok { i with promotion := { i.promotion with lints := true } }
  | .strict => .ok { i with strict := true }
  | .verbose => .ok { i with verbose := true }
  | .version => .error .version
  | .help => .error .help

/-- The first free value is the command, and the words behind it are the command's. -/
def ofItems (strays : Bool) (i : Invocation) : List (Item GlobalOption) → Except Ending Invocation
  | [] => unlessStray strays i
  | .misuse :: _ => .error .misuse
  | .separator :: _ => .error .misuse
  | .option o operand :: items => do ofItems strays (← i.apply o operand) items
  | .stray :: items => ofItems true i items
  | .value name following :: _ => do
    unlessStray strays { i with command? := some (← Command.read name following) }

def read (texts : List String) : Except Ending Invocation := do
  ofItems false blank (← globalGrammar.read texts)

end Invocation

end DiagnosticCatalog.CommandLine
