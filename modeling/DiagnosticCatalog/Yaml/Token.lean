import DiagnosticCatalog.Decimal.Literal
import DiagnosticCatalog.Yaml.Character
/-!
Tokens of YAML text, and the tokens that are one lexeme without further structure: names of anchors,
tags, and directives. `blockEnd` and the two block starts have no lexeme; they stand for changes of
the indentation.
-/

namespace DiagnosticCatalog.Yaml

inductive Directive
  | version (major : Nat)
  | tagHandle (handle : String) (expansion : String)
  | other
  deriving DecidableEq, Repr

inductive Token
  | directive (d : Directive)
  | documentStart
  | documentEnd
  | blockSequenceStart
  | blockMappingStart
  | blockEnd
  | flowSequenceStart
  | flowSequenceEnd
  | flowMappingStart
  | flowMappingEnd
  | blockEntry
  | flowEntry
  | key
  | value
  | alias (name : String)
  | anchor (name : String)
  | tag (handle? : Option String) (suffix : String)
  | scalar (text : Text) (plain : Bool)
  deriving DecidableEq, Repr

/-- A name of an anchor, after its indicator. -/
def takeName (cs : List Char) : Except Fault (String × List Char) :=
  let name := cs.takeWhile isNameChar
  let rest := cs.dropWhile isNameChar
  let closed := atGap rest || (rest.take 1).all fun c => "?:,]\x7d%@\x60".toList.contains c
  if name.isEmpty || !closed then .error .malformed else .ok (String.ofList name, rest)

/-- `!`, `!!` or `!name!`. -/
def takeHandle : List Char → Except Fault (String × List Char)
  | '!' :: cs =>
    if cs.head? = some ' ' then .ok ("!", cs)
    else
      let name := cs.takeWhile isNameChar
      match cs.dropWhile isNameChar with
      | '!' :: rest => .ok (String.ofList ('!' :: name ++ ['!']), rest)
      | _ => .error .malformed
  | _ => .error .malformed

def isUriChar (c : Char) : Bool := isNameChar c || ";/?:@&=+$,.!~*'()[]".toList.contains c

/-- One octet spelt by a percent sign and two hexadecimal digits. -/
def takeOctet : List Char → Option (Nat × List Char)
  | '%' :: a :: b :: cs => (Decimal.ofBase? 16 [a, b]).map fun n => (n, cs)
  | _ => none

def takeOctets : (fuel : Nat) → List Char → List Nat × List Char
  | 0, cs => ([], cs)
  | fuel + 1, cs =>
    match takeOctet cs with
    | some (n, rest) => let (more, rest) := takeOctets fuel rest; (n :: more, rest)
    | none => ([], cs)

def decodeOctets (octets : List Nat) : Option (List Char) :=
  (String.fromUTF8? ⟨(octets.map UInt8.ofNat).toArray⟩).map String.toList

/-- The characters of a tag, spelt octets decoded. -/
def takeUriChars : (fuel : Nat) → List Char → Except Fault (List Char × List Char)
  | 0, _ => .error .malformed
  | _ + 1, [] => .ok ([], [])
  | fuel + 1, c :: cs =>
    if c = '%' then
      let (octets, rest) := takeOctets fuel (c :: cs)
      match octets.isEmpty, decodeOctets octets with
      | false, some text =>
        if rest.head? = some '%' then .error .malformed
        else (takeUriChars fuel rest).map fun (more, rest) => (text ++ more, rest)
      | _, _ => .error .malformed
    else if isUriChar c then (takeUriChars fuel cs).map fun (more, rest) => (c :: more, rest)
    else .ok ([], c :: cs)

def takeUri (cs : List Char) : Except Fault (String × List Char) :=
  match takeUriChars (cs.length + 1) cs with
  | .error e => .error e
  | .ok (text, rest) => if text.isEmpty then .error .malformed else .ok (String.ofList text, rest)

/-- Whether another exclamation mark comes before the next space. -/
def hasHandle : List Char → Bool
  | [] => false
  | c :: cs => if c == ' ' || isBreak c then false else c == '!' || hasHandle cs

/-- A tag, from its exclamation mark on: its handle, none for one in full, and the rest of it. -/
def takeTag : List Char → Except Fault (Option String × String × List Char)
  | '!' :: '<' :: cs => do
    match ← takeUri cs with
    | (text, '>' :: rest) => if atSpace rest then return (none, text, rest) else throw .malformed
    | _ => throw .malformed
  | '!' :: cs =>
    if atGap cs then
      if atSpace cs then .ok (none, "!", cs) else .error .malformed
    else do
      let (handle, rest) ← if hasHandle cs then takeHandle ('!' :: cs) else pure ("!", cs)
      let (text, rest) ← takeUri rest
      if atSpace rest then return (some handle, text, rest) else throw .malformed
  | _ => .error .malformed

/-- A part of a version, at least one digit. -/
def takeVersionPart (cs : List Char) : Except Fault (Nat × List Char) :=
  let ds := cs.takeWhile Decimal.isDigit
  if ds.isEmpty then .error .malformed
  else match Decimal.readNumeral ds with
    | .ok n => .ok (n, cs.dropWhile Decimal.isDigit)
    | .error e => .error (.scalar (.overlong e))

def takeVersion (cs : List Char) : Except Fault (Directive × List Char) := do
  let (major, rest) ← takeVersionPart (dropSpaces cs)
  match rest with
  | '.' :: rest =>
    let (_, rest) ← takeVersionPart rest
    if atSpace rest then return (.version major, rest) else throw .malformed
  | _ => throw .malformed

def takeTagHandle (cs : List Char) : Except Fault (Directive × List Char) := do
  let (handle, rest) ← takeHandle (dropSpaces cs)
  if rest.head? = some ' ' then
    let (expansion, rest) ← takeUri (dropSpaces rest)
    if atSpace rest then return (.tagHandle handle expansion, rest) else throw .malformed
  else throw .malformed

/-- A directive, after its percent sign, with its line. -/
def takeDirective (cs : List Char) : Except Fault (Directive × List Char) := do
  let name := cs.takeWhile isNameChar
  let rest := cs.dropWhile isNameChar
  if name.isEmpty || !atSpace rest then throw .malformed
  let (d, rest) ← match String.ofList name with
    | "YAML" => takeVersion rest
    | "TAG" => takeTagHandle rest
    | _ => pure (.other, dropLine rest)
  return (d, ← endLine rest)

end DiagnosticCatalog.Yaml
