import DiagnosticCatalog.Yaml.ScalarText
import DiagnosticCatalog.Yaml.Token
/-!
The tokens of a YAML text. Outside brackets the column of a line's first token opens and closes
blocks. A key on one line needs no mark of its own, so a token that may turn out to be such a key is
remembered, and when its colon comes the marks are put in where the token was. A text that cannot be
scanned to its end still has the tokens that come before the fault.
-/

namespace DiagnosticCatalog.Yaml

/-- A token after which a colon may still come. A required one must be followed by its colon. -/
structure Candidate where
  token : Nat
  required : Bool
  index : Nat
  line : Nat
  column : Nat

/-- Where the scan stands. `candidates` are by depth of brackets; `indents` are the columns of the
blocks around the present one, which is at `indent`. -/
structure Scan where
  rest : List Char
  index : Nat
  line : Nat
  column : Nat
  tokens : Array Token
  depth : Nat
  keyAllowed : Bool
  candidates : List (Nat × Candidate)
  indent : Int
  indents : List Int

namespace Scan

def start (cs : List Char) : Scan := ⟨cs, 0, 0, 0, #[], 0, true, [], -1, []⟩

/-- Passes one character. A byte order mark has no width. -/
def advance (s : Scan) : Scan :=
  match s.rest with
  | [] => s
  | c :: cs =>
    let s := { s with rest := cs, index := s.index + 1 }
    if isBreak c && !(c == '\r' && cs.head? == some '\n') then
      { s with line := s.line + 1, column := 0 }
    else if isByteOrderMark c then s
    else { s with column := s.column + 1 }

def advanceBy : Nat → Scan → Scan
  | 0, s => s
  | n + 1, s => advanceBy n s.advance

/-- Passes on to what is left of the text. -/
def advanceTo (s : Scan) (rest : List Char) : Scan :=
  s.advanceBy (s.rest.length - rest.length)

def push (s : Scan) (t : Token) : Scan := { s with tokens := s.tokens.push t }

def insertAt (s : Scan) (i : Nat) (t : Token) : Scan :=
  { s with tokens := s.tokens.insertIdxIfInBounds i t }

/-- Passes spaces, comments and breaks. After a break outside brackets a key may start. -/
def skip : (fuel : Nat) → Scan → Scan
  | 0, s => s
  | fuel + 1, s =>
    let s := s.advanceTo (dropSpaces s.rest)
    let s := if s.rest.head? = some '#' then s.advanceTo (dropLine s.rest) else s
    if s.rest.isEmpty || !atLineEnd s.rest then s
    else
      let s := s.advanceTo (takeBreak s.rest).2
      skip fuel { s with keyAllowed := s.keyAllowed || s.depth == 0 }

def skipAll (s : Scan) : Scan :=
  let s := if s.index == 0 && (s.rest.head?.map isByteOrderMark).getD false then s.advance else s
  s.skip (s.rest.length + 1)

def isStale (s : Scan) (c : Candidate) : Bool := c.line != s.line || 1024 < s.index - c.index

/-- Forgets candidates that are on another line or too far back. -/
def dropStale (s : Scan) : Except Fault Scan :=
  if s.candidates.any fun c => s.isStale c.2 && c.2.required then .error .malformed
  else .ok { s with candidates := s.candidates.filter fun c => !s.isStale c.2 }

/-- Forgets the candidate of the present depth. -/
def dropCandidate (s : Scan) : Except Fault Scan :=
  match s.candidates.lookup s.depth with
  | none => .ok s
  | some c =>
    if c.required then .error .malformed
    else .ok { s with candidates := s.candidates.filter fun c => c.1 != s.depth }

/-- Remembers the token about to come, if a key may start here. -/
def remember (s : Scan) : Except Fault Scan :=
  if s.keyAllowed then do
    let s ← s.dropCandidate
    let c : Candidate :=
      ⟨s.tokens.size, s.depth == 0 && s.indent == s.column, s.index, s.line, s.column⟩
    return { s with candidates := (s.depth, c) :: s.candidates }
  else .ok s

/-- Closes the blocks that are right of the column. -/
def unwind (column : Int) : List Int → Scan → Scan
  | [], s => s
  | outer :: more, s =>
    if column < s.indent then
      unwind column more { s.push .blockEnd with indent := outer, indents := more }
    else s

def unwindTo (s : Scan) (column : Int) : Scan :=
  if s.depth == 0 then unwind column s.indents s else s

/-- Opens a block at the column, if it is right of the present one. -/
def openBlock (s : Scan) (column : Nat) : Option Scan :=
  if s.indent < column then some { s with indents := s.indent :: s.indents, indent := column }
  else none

def openWith (s : Scan) (t : Token) : Scan :=
  match s.openBlock s.column with
  | some s => s.push t
  | none => s

/-- A token that starts where a key may start, and after which none may. -/
def keyLike (s : Scan) : Except Fault Scan := do
  let s ← s.remember
  return { s with keyAllowed := false }

def documentBreak (s : Scan) : Except Fault Scan := do
  let s ← (s.unwindTo (-1)).dropCandidate
  return { s with keyAllowed := false }

def openBracket (s : Scan) (t : Token) : Except Fault Scan := do
  let s ← s.remember
  return ({ s with depth := s.depth + 1, keyAllowed := true }.advance).push t

/-- A bracket that closes none is refused. -/
def closeBracket (s : Scan) (t : Token) : Except Fault Scan := do
  let s ← s.dropCandidate
  if s.depth == 0 then throw .malformed
  return ({ s with depth := s.depth - 1, keyAllowed := false }.advance).push t

def flowEntry (s : Scan) : Except Fault Scan := do
  let s ← { s with keyAllowed := true }.dropCandidate
  return s.advance.push .flowEntry

def blockEntry (s : Scan) : Except Fault Scan := do
  if s.depth == 0 && !s.keyAllowed then throw .malformed
  let s := if s.depth == 0 then s.openWith .blockSequenceStart else s
  let s ← { s with keyAllowed := true }.dropCandidate
  return s.advance.push .blockEntry

def explicitKey (s : Scan) : Except Fault Scan := do
  if s.depth == 0 && !s.keyAllowed then throw .malformed
  let s := if s.depth == 0 then s.openWith .blockMappingStart else s
  let s ← { s with keyAllowed := s.depth == 0 }.dropCandidate
  return s.advance.push .key

/-- A colon after a candidate makes that a key; else it needs a place where a key may start. -/
def value (s : Scan) : Except Fault Scan := do
  match s.candidates.lookup s.depth with
  | some c =>
    let s := { s with candidates := s.candidates.filter fun c => c.1 != s.depth }
    let s := s.insertAt c.token .key
    let s := if s.depth == 0 then
        match s.openBlock c.column with
        | some s => s.insertAt c.token .blockMappingStart
        | none => s
      else s
    return { s with keyAllowed := false }.advance.push .value
  | none =>
    if s.depth == 0 && !s.keyAllowed then throw .malformed
    let s := if s.depth == 0 then s.openWith .blockMappingStart else s
    let s ← { s with keyAllowed := s.depth == 0 }.dropCandidate
    return s.advance.push .value

def name (s : Scan) (make : String → Token) (cs : List Char) : Except Fault Scan := do
  let s ← s.keyLike
  let (text, rest) ← takeName cs
  return (s.advanceTo rest).push (make text)

def tag (s : Scan) : Except Fault Scan := do
  let s ← s.keyLike
  let (handle?, suffix, rest) ← takeTag s.rest
  return (s.advanceTo rest).push (.tag handle? suffix)

def quoted (s : Scan) (double : Bool) (cs : List Char) : Except Fault Scan := do
  let s ← s.keyLike
  let (letters, rest) ← quotedText double (cs.length + 1) cs
  return (s.advanceTo rest).push (.scalar ⟨letters⟩ false)

def block (s : Scan) (folded : Bool) (cs : List Char) : Except Fault Scan := do
  let s ← { s with keyAllowed := true }.dropCandidate
  let (text, rest) ← blockText folded s.indent cs
  return (s.advanceTo rest).push (.scalar (.ofChars text) false)

/-- After a plain scalar a key may start if a line was passed behind it. -/
def plain (s : Scan) : Except Fault Scan := do
  let s ← s.keyLike
  let (text, crossed, rest) := plainText (s.depth != 0) (s.indent + 1) (s.rest.length + 1) s.rest
  return { (s.advanceTo rest).push (.scalar (.ofChars text) true) with keyAllowed := crossed }

def directive (s : Scan) (cs : List Char) : Except Fault Scan := do
  let s ← s.documentBreak
  let (d, rest) ← takeDirective cs
  return (s.advanceTo rest).push (.directive d)

def isIndicator (c : Char) : Bool := "-?:,[]\x7b\x7d#&*!|>'\x22%@\x60".toList.contains c

def startsPlain (s : Scan) : Bool :=
  match s.rest with
  | [] => false
  | c :: cs =>
    !(isGap c || isBreak c || isIndicator c) ||
      (!atGap cs && (c == '-' || (s.depth == 0 && (c == '?' || c == ':'))))

def ending (s : Scan) : Except Fault (Array Token) := do
  return (← (s.unwindTo (-1)).dropCandidate).tokens

/-- The next token, with those that come before it because of its column; at the end all tokens. -/
def next (s : Scan) : Except Fault (Scan ⊕ Array Token) := do
  let s ← s.skipAll.dropStale
  let s := s.unwindTo s.column
  let flow := s.depth != 0
  match s.rest with
  | [] => .inr <$> s.ending
  | c :: cs => .inl <$>
    if c == '%' && s.column == 0 then s.directive cs
    else if s.column == 0 && atDocumentMark (c :: cs) then do
      let s ← s.documentBreak
      return (s.advanceBy 3).push (if c == '-' then .documentStart else .documentEnd)
    else if c == '[' then s.openBracket .flowSequenceStart
    else if c == '\x7b' then s.openBracket .flowMappingStart
    else if c == ']' then s.closeBracket .flowSequenceEnd
    else if c == '\x7d' then s.closeBracket .flowMappingEnd
    else if c == ',' then s.flowEntry
    else if c == '-' && atGap cs then s.blockEntry
    else if c == '?' && (flow || atGap cs) then s.explicitKey
    else if c == ':' && (flow || atGap cs) then s.value
    else if c == '*' then s.name .alias cs
    else if c == '&' then s.name .anchor cs
    else if c == '!' then s.tag
    else if c == '|' && !flow then s.block false cs
    else if c == '>' && !flow then s.block true cs
    else if c == '\x27' then s.quoted false cs
    else if c == '\x22' then s.quoted true cs
    else if s.startsPlain then s.plain
    else .error .malformed

end Scan

/-- The tokens of a text as far as they can be read, and the fault that comes next, if there is one.
-/
structure TokenStream where
  tokens : List Token
  fault? : Option Fault

namespace Scan

/-- The tokens in front of which no mark of a key can come any more. -/
def settled (s : Scan) : List Token :=
  let fresh := (s.candidates.filter fun c => !s.isStale c.2).map fun c => c.2.token
  s.tokens.toList.take (fresh.foldl min s.tokens.size)

/-- Each step but the last passes a character, so the fuel need not exceed their number by more than
one. -/
def run : (fuel : Nat) → Scan → TokenStream
  | 0, s => ⟨s.settled, some .malformed⟩
  | fuel + 1, s =>
    match s.next with
    | .ok (.inl s) => run fuel s
    | .ok (.inr tokens) => ⟨tokens.toList, none⟩
    | .error e => ⟨s.settled, some e⟩

end Scan

def TokenStream.ofChars (cs : List Char) : TokenStream :=
  if cs.all isAllowed then Scan.run (cs.length + 1) (.start cs) else ⟨[], some .malformed⟩

end DiagnosticCatalog.Yaml
