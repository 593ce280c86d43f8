import DiagnosticCatalog.Decimal.Literal
import DiagnosticCatalog.Yaml.Character
/-!
Tags of nodes, and the tag that a plain scalar has because of its text: YAML 1.1, where `yes` is a
truth value, `010` is octal and `1:30` counts in sixties.
-/

namespace DiagnosticCatalog.Yaml

inductive Tag
  | null
  | truth
  | whole
  | real
  | octets
  | moment
  | text
  | sequence
  | mapping
  | set
  | pairs
  | merge
  | value
  | other (name : String)
  deriving DecidableEq, Repr

namespace Tag

/-- What the names of the standard tags start with. -/
def standardHead : String := "tag:yaml.org,2002:"

def standard : List (String × Tag) := [
  ("null", null), ("bool", truth), ("int", whole), ("float", real), ("binary", octets),
  ("timestamp", moment), ("str", text), ("seq", sequence), ("map", mapping), ("set", set),
  ("omap", pairs), ("pairs", pairs), ("merge", merge), ("value", value)]

def ofName (name : String) : Tag :=
  ((standard.find? fun p => standardHead ++ p.1 = name).map Prod.snd).getD (other name)

end Tag

/-- A word in small letters, with a capital, or all in capitals. -/
def wordForms (w : String) : List (List Char) :=
  let cs := w.toList
  [cs, (cs.take 1).map Char.toUpper ++ cs.drop 1, cs.map Char.toUpper]

def truthWords : List (String × Bool) :=
  [("yes", true), ("no", false), ("true", true), ("false", false), ("on", true), ("off", false)]

def isTruthWord (cs : List Char) : Bool := truthWords.any fun w => (wordForms w.1).contains cs

def isNullWord (cs : List Char) : Bool :=
  cs.isEmpty || cs == ['~'] || (wordForms "null").contains cs

def isDigitOrLow (c : Char) : Bool := Decimal.isDigit c || c == '_'

def dropSign : List Char → List Char
  | c :: cs => if c == '-' || c == '+' then cs else c :: cs
  | [] => []

/-- What follows a digit and further digits or underscores. -/
def afterDigits? : List Char → Option (List Char)
  | c :: cs => if Decimal.isDigit c then some (cs.dropWhile isDigitOrLow) else none
  | [] => none

/-- What follows groups of a colon and a number below sixty, at least one. -/
def afterSixties? : List Char → Option (List Char)
  | ':' :: a :: b :: cs =>
    if '0' ≤ a && a ≤ '5' && Decimal.isDigit b then (afterSixties? cs).or (some cs)
    else if Decimal.isDigit a then (afterSixties? (b :: cs)).or (some (b :: cs))
    else none
  | [':', a] => if Decimal.isDigit a then some [] else none
  | _ => none

/-- Nothing, or an exponent, which must have a sign. -/
def isExponentOrEnd : List Char → Bool
  | [] => true
  | e :: s :: cs => (e == 'e' || e == 'E') && (s == '-' || s == '+') && Decimal.isNumeral cs
  | _ => false

def isRealText (cs : List Char) : Bool :=
  let body := dropSign cs
  let pointed (rest? : Option (List Char)) (tail : List Char → Bool) : Bool :=
    match rest? with
    | some ('.' :: more) => tail (more.dropWhile isDigitOrLow)
    | _ => false
  let headless : Bool :=
    match cs with
    | '.' :: more => ((afterDigits? more).map isExponentOrEnd).getD false
    | _ => false
  let unbounded : Bool :=
    match body with
    | '.' :: more => ["inf", "Inf", "INF"].any (·.toList == more)
    | _ => false
  pointed (afterDigits? body) isExponentOrEnd || headless ||
    pointed ((afterDigits? body).bind afterSixties?) List.isEmpty || unbounded ||
    [".nan", ".NaN", ".NAN"].any (·.toList == cs)

def isWholeText (cs : List Char) : Bool :=
  match dropSign cs with
  | ['0'] => true
  | '0' :: 'b' :: ds => !ds.isEmpty && ds.all fun c => c == '0' || c == '1' || c == '_'
  | '0' :: 'x' :: ds => !ds.isEmpty && ds.all fun c => (Decimal.ofBase? 16 [c]).isSome || c == '_'
  | '0' :: ds => ds.all fun c => ('0' ≤ c && c ≤ '7') || c == '_'
  | cs =>
    match afterDigits? cs with
    | none => false
    | some [] => true
    | some rest => afterSixties? rest == some []

/-- The parts of a moment, in digits. -/
structure Stamp where
  year : Nat
  month : Nat
  day : Nat
  hour : Nat
  minute : Nat
  second : Nat
  fraction : List Char
  offset? : Option Int
  timed : Bool

/-- A number of at least `least` and at most `most` digits. -/
def takeNumber? (least most : Nat) (cs : List Char) : Option (Nat × List Char) :=
  let ds := (cs.take most).takeWhile Decimal.isDigit
  if ds.length < least then none else some (Decimal.ofDigits ds, cs.drop ds.length)

def expect? (c : Char) : List Char → Option (List Char)
  | d :: cs => if c = d then some cs else none
  | [] => none

/-- Nothing, or gaps and an offset from universal time. -/
def zone? (cs : List Char) : Option (Option Int) :=
  match cs, cs.dropWhile isGap with
  | [], _ => some none
  | _, ['Z'] => some (some 0)
  | _, c :: rest =>
    if c == '-' || c == '+' then do
      let (hour, rest) ← takeNumber? 1 2 rest
      let (minute, rest) ← match rest with
        | ':' :: rest => takeNumber? 2 2 rest
        | _ => some (0, rest)
      if rest.isEmpty then
        some (some (Decimal.Binary64.signed (c == '-') (hour * 3600 + minute * 60)))
      else none
    else none
  | _, [] => none

def stamp? (cs : List Char) : Option Stamp := do
  let (year, rest) ← takeNumber? 4 4 cs
  let (month, rest) ← takeNumber? 1 2 (← expect? '-' rest)
  let (day, rest) ← takeNumber? 1 2 (← expect? '-' rest)
  match rest with
  | [] => return ⟨year, month, day, 0, 0, 0, [], none, false⟩
  | c :: more =>
    let rest ← if c == 't' || c == 'T' then some more
      else if isGap c then some (more.dropWhile isGap) else none
    let (hour, rest) ← takeNumber? 1 2 rest
    let (minute, rest) ← takeNumber? 2 2 (← expect? ':' rest)
    let (second, rest) ← takeNumber? 2 2 (← expect? ':' rest)
    let (fraction, rest) := match rest with
      | '.' :: rest => (rest.takeWhile Decimal.isDigit, rest.dropWhile Decimal.isDigit)
      | _ => ([], rest)
    return ⟨year, month, day, hour, minute, second, fraction, ← zone? rest, true⟩

/-- A day is recognised only with all its digits, a moment also with fewer. -/
def isMomentText (cs : List Char) : Bool :=
  match stamp? cs with
  | some s => s.timed || cs.length == 10
  | none => false

/-- The text without a break at its end, unless it is that break alone. -/
def dropLastBreak (cs : List Char) : List Char :=
  if cs.getLast? == some '\n' && cs ≠ ['\n'] then cs.dropLast else cs

/-- The tag of characters by themselves. A break at the end does not count. -/
def Tag.ofChars (text : List Char) : Tag :=
  let cs := dropLastBreak text
  if isTruthWord cs then truth
  else if isRealText cs then real
  else if isWholeText cs then whole
  else if cs == ['<', '<'] then merge
  else if isNullWord cs then null
  else if isMomentText cs then moment
  else if cs == ['='] then value
  else if [['!'], ['&'], ['*']].contains cs then other (standardHead ++ "yaml")
  else .text

/-- The tag of a scalar that has none but is not plainly text. -/
def Tag.implicit (t : Text) : Tag := (t.chars?.map Tag.ofChars).getD .text

end DiagnosticCatalog.Yaml
