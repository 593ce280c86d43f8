import DiagnosticCatalog.Text.DigitTable
/-!
The words of a command line, sorted into options and values. An option may be written by the start
of its name as long as no other name starts that way, with its value in the next word or behind an
equals sign; options of one letter have no value and may share a dash. Behind a double dash every
word is a value, but a double dash behind an equals sign is none.
-/

namespace DiagnosticCatalog.CommandLine

/-- How the reading of a command line ends before anything is done. -/
inductive Ending
  | misuse
  | help
  | version
  deriving DecidableEq, Repr

/-- Options by name, dashes included, and which of them have a value. One dash goes with one letter,
and such an option has none. -/
structure Grammar (α : Type) where
  options : List (String × α)
  hasValue : α → Bool

inductive Role (α : Type)
  | value
  | separator
  | stray
  | option (meaning : α) (attached? : Option String)
  | letters (first : α) (more : List Char)
  deriving Repr

structure Word (α : Type) where
  text : String
  role : Role α
  deriving Repr

/-- At least one digit, of any script, and nothing else. -/
def isDigitRun (cs : List Char) : Bool := !cs.isEmpty && cs.all fun c => (Text.digitOf? c).isSome

/-- A dash and digits, with a point among or before them at most once; a line break may follow. -/
def isNegativeNumber (cs : List Char) : Bool :=
  match cs with
  | '-' :: cs =>
    let body := if cs.getLast? == some '\n' then cs.dropLast else cs
    match body.dropWhile fun c => (Text.digitOf? c).isSome with
    | [] => !body.isEmpty
    | '.' :: more => isDigitRun more
    | _ => false
  | _ => false

/-- A word with a dash in front that names no option: a value if it is a number or has a space. -/
def unnamed (α : Type) (text : String) : Word α :=
  ⟨text, if isNegativeNumber text.toList || text.toList.contains ' ' then .value else .stray⟩

/-- The text up to its first equals sign, and what is behind that. -/
def splitAttached (text : String) : String × Option String :=
  let cs := text.toList
  match cs.dropWhile (· ≠ '=') with
  | [] => (text, none)
  | _ :: attached => (String.ofList (cs.takeWhile (· ≠ '=')), some (String.ofList attached))

/-- The options whose names start with the text. -/
def completions {α : Type} (options : List (String × α)) (start : String) : List (String × α) :=
  options.filter fun o => start.toList.isPrefixOf o.1.toList

def shortName (c : Char) : String := String.ofList ['-', c]

/-- A word of a dash, the character and more, that is no name in full. -/
def abbreviated {α : Type} (options : List (String × α)) (text : String) (c : Char)
    (more : List Char) : Except Ending (Word α) :=
  if c = '-' then
    let (start, attached?) := splitAttached text
    match completions options start with
    | [] => .ok (unnamed α text)
    | [(_, m)] => .ok ⟨text, .option m attached?⟩
    | _ => .error .misuse
  else match options.lookup (shortName c) with
    | some m => .ok ⟨text, .letters m more⟩
    | none => .ok (unnamed α text)

/-- An option with what is attached to it. To an option of one letter further letters may be. -/
def attachedRole {α : Type} (lettered : Bool) (m : α) (attached? : Option String) : Role α :=
  match attached? with
  | some s => if lettered && !s.isEmpty then .letters m s.toList else .option m attached?
  | none => .option m none

def wordOf {α : Type} (options : List (String × α)) (text : String) : Except Ending (Word α) :=
  match text.toList with
  | '-' :: c :: more =>
    match options.lookup text with
    | some m => .ok ⟨text, .option m none⟩
    | none =>
      let (name, attached?) := splitAttached text
      match options.lookup name with
      | some m => .ok ⟨text, attachedRole (c ≠ '-') m attached?⟩
      | none => abbreviated options text c more
  | _ => .ok ⟨text, .value⟩

/-- All words; one that could be several options is misuse wherever it stands. -/
def wordsOf {α : Type} (options : List (String × α)) : List String → Except Ending (List (Word α))
  | [] => .ok []
  | text :: texts =>
    if text = "--" then .ok (⟨text, .separator⟩ :: texts.map fun t => ⟨t, .value⟩)
    else do return (← wordOf options text) :: (← wordsOf options texts)

/-- What an option is given: something, or nothing at all. -/
inductive Operand (α : Type)
  | given (a : α)
  | nothing
  deriving DecidableEq, Repr

def attachedOperand (s : String) : Operand String := if s = "--" then .nothing else .given s

/-- What the words say, one after the other. A free value comes with the words behind it. -/
inductive Item (α : Type)
  | option (meaning : α) (operand : Operand String)
  | value (text : String) (following : List String)
  | separator
  | stray
  | misuse
  deriving Repr

namespace Grammar

variable {α : Type}

/-- The options of letters behind one dash, if there is one for each. -/
def lettersOf (options : List (String × α)) (m : α) (more : List Char) : Option (List α) :=
  (more.mapM fun c => options.lookup (shortName c)).map (m :: ·)

/-- A letter without an option spoils the whole word. -/
def letterItems (g : Grammar α) (m : α) (more : List Char) : List (Item α) :=
  match lettersOf g.options m more with
  | none => [.misuse]
  | some ms => ms.map (.option · .nothing)

/-- A separator right behind a value has nothing to separate. -/
def items (g : Grammar α) : List (Word α) → List (Item α)
  | [] => []
  | ⟨text, .value⟩ :: ⟨mark, .separator⟩ :: ws =>
    .value text (mark :: ws.map Word.text) :: items g ws
  | ⟨text, .value⟩ :: ws => .value text (ws.map Word.text) :: items g ws
  | ⟨_, .separator⟩ :: ws => .separator :: items g ws
  | ⟨_, .stray⟩ :: ws => .stray :: items g ws
  | ⟨_, .letters m more⟩ :: ws => g.letterItems m more ++ items g ws
  | ⟨_, .option m (some attached)⟩ :: ws =>
    (if g.hasValue m then .option m (attachedOperand attached) else .misuse) :: items g ws
  | ⟨_, .option m none⟩ :: ⟨text, .value⟩ :: ws =>
    if g.hasValue m then .option m (.given text) :: items g ws
    else .option m .nothing :: items g (⟨text, .value⟩ :: ws)
  | ⟨_, .option m none⟩ :: ws =>
    (if g.hasValue m then .misuse else .option m .nothing) :: items g ws

/-- The items of a command line. -/
def read (g : Grammar α) (texts : List String) : Except Ending (List (Item α)) :=
  (wordsOf g.options texts).map g.items

end Grammar

end DiagnosticCatalog.CommandLine
