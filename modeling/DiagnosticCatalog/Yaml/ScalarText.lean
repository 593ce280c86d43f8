import DiagnosticCatalog.Decimal.Literal
import DiagnosticCatalog.Yaml.Character
/-!
The text of scalars: quoted, plain, and in blocks. Lines within a scalar are folded into one, except
in literal blocks and where lines are empty. Every function answers with the text and what is left
of the input; `fuel` is never less than the length of the input when the functions at the end are
called.
-/

namespace DiagnosticCatalog.Yaml

/-! ## Quoted scalars -/

/-- The empty lines at the start of the text, gaps skipped, as their breaks. -/
def emptyLines : (fuel : Nat) → List Char → Except Fault (List Char × List Char)
  | 0, _ => .error .malformed
  | fuel + 1, cs =>
    if atDocumentMark cs then .error .malformed
    else
      let rest := cs.dropWhile isGap
      if !rest.isEmpty && atLineEnd rest then do
        let (lineBreak, rest) := takeBreak rest
        let (more, rest) ← emptyLines fuel rest
        return (lineBreak ++ more, rest)
      else return ([], rest)

/-- What a gap within quotes stands for: itself, or with a break in it a space or the breaks. -/
def foldGap (fuel : Nat) (cs : List Char) : Except Fault (List Char × List Char) :=
  let gap := cs.takeWhile isGap
  let rest := cs.dropWhile isGap
  if rest.isEmpty then .error .malformed
  else if atLineEnd rest then do
    let (lineBreak, rest) := takeBreak rest
    let (empty, rest) ← emptyLines fuel rest
    let front := if lineBreak ≠ ['\n'] then lineBreak else if empty.isEmpty then [' '] else []
    return (front ++ empty, rest)
  else return (gap, rest)

/-- Escapes of one character. -/
def simpleEscapes : List (Char × Nat) := [
  ('0', 0x00), ('a', 0x07), ('b', 0x08), ('t', 0x09), ('\t', 0x09), ('n', 0x0A), ('v', 0x0B),
  ('f', 0x0C), ('r', 0x0D), ('e', 0x1B), (' ', 0x20), ('\x22', 0x22), ('\\', 0x5C), ('/', 0x2F),
  ('N', 0x85), ('_', 0xA0), ('L', 0x2028), ('P', 0x2029)]

/-- Escapes by number, with the count of hexadecimal digits. -/
def numericEscapes : List (Char × Nat) := [('x', 2), ('u', 4), ('U', 8)]

def escapedLetter (code : Nat) : Except Fault Letter :=
  if 0x10FFFF < code then .error (.scalar (.character code)) else .ok (.ofCode code)

def lettersOf (x : Except Fault (List Char × List Char)) : Except Fault (List Letter × List Char) :=
  x.map fun (cs, rest) => (cs.map .char, rest)

/-- What an escape stands for, after its backslash. An escaped break joins two lines. -/
def takeEscape (fuel : Nat) : List Char → Except Fault (List Letter × List Char)
  | [] => .error .malformed
  | c :: cs =>
    match simpleEscapes.lookup c, numericEscapes.lookup c with
    | some n, _ => return ([.ofCode n], cs)
    | none, some width =>
      let digits := cs.take width
      match Decimal.ofBase? 16 digits with
      | some code =>
        if digits.length < width then .error .malformed
        else do return ([← escapedLetter code], cs.drop width)
      | none => .error .malformed
    | none, none =>
      if isBreak c then lettersOf (emptyLines fuel (takeBreak (c :: cs)).2) else .error .malformed

/-- The text up to the closing quote. -/
def quotedText (double : Bool) :
    (fuel : Nat) → List Char → Except Fault (List Letter × List Char)
  | 0, _ => .error .malformed
  | _, [] => .error .malformed
  | fuel + 1, c :: cs => do
    if isGap c || isBreak c then
      let (gap, rest) ← lettersOf (foldGap fuel (c :: cs))
      let (more, rest) ← quotedText double fuel rest
      return (gap ++ more, rest)
    else if double then
      if c = '\x22' then return ([], cs)
      else if c = '\\' then
        let (piece, rest) ← takeEscape fuel cs
        let (more, rest) ← quotedText double fuel rest
        return (piece ++ more, rest)
      else
        let (more, rest) ← quotedText double fuel cs
        return (.char c :: more, rest)
    else if c = '\x27' then
      match cs with
      | '\x27' :: cs =>
        let (more, rest) ← quotedText double fuel cs
        return (.char c :: more, rest)
      | _ => return ([], cs)
    else
      let (more, rest) ← quotedText double fuel cs
      return (.char c :: more, rest)

/-! ## Plain scalars -/

def isFlowIndicator (c : Char) : Bool :=
  c == ',' || c == '[' || c == ']' || c == '\x7b' || c == '\x7d'

/-- Whether a colon in front of the text ends a key. -/
def endsKey (flow : Bool) : List Char → Bool
  | [] => true
  | c :: _ => isBreak c || isGap c || (flow && isFlowIndicator c)

/-- A stretch of a plain scalar without gaps. -/
def plainWord (flow : Bool) : List Char → List Char × List Char
  | [] => ([], [])
  | c :: cs =>
    if isGap c || isBreak c || (c == ':' && endsKey flow cs) ||
        (flow && (isFlowIndicator c || c == '?')) then ([], c :: cs)
    else let (word, rest) := plainWord flow cs; (c :: word, rest)

/-- Breaks and spaces at the start of the text: the breaks, the count of spaces after the last one,
and whether a document mark cut them short. -/
def plainBreaks : (fuel : Nat) → (column : Nat) → List Char → List Char × Nat × Bool × List Char
  | 0, column, cs => ([], column, false, cs)
  | _ + 1, column, [] => ([], column, false, [])
  | fuel + 1, column, c :: cs =>
    if c == ' ' then plainBreaks fuel (column + 1) cs
    else if isBreak c then
      let (lineBreak, rest) := takeBreak (c :: cs)
      if atDocumentMark rest then (lineBreak, 0, true, rest)
      else
        let (more, column, cut, rest) := plainBreaks fuel 0 rest
        (lineBreak ++ more, column, cut, rest)
    else ([], column, false, c :: cs)

/-- A gap after a word. `folded` is what it stands for, nothing if the scalar ends there; `column?`
is where the next line begins, if a line was passed. -/
structure PlainGap where
  folded : List Char
  column? : Option Nat
  rest : List Char

def plainGap (fuel : Nat) (cs : List Char) : PlainGap :=
  let spaces := cs.takeWhile (· == ' ')
  let rest := dropSpaces cs
  if !rest.isEmpty && atLineEnd rest then
    let (lineBreak, rest) := takeBreak rest
    if atDocumentMark rest then ⟨[], some 0, rest⟩
    else
      let (breaks, column, cut, rest) := plainBreaks fuel 0 rest
      if cut then ⟨[], some column, rest⟩
      else
        let front :=
          if lineBreak ≠ ['\n'] then lineBreak else if breaks.isEmpty then [' '] else []
        ⟨front ++ breaks, some column, rest⟩
  else ⟨spaces, none, rest⟩

/-- A plain scalar: its text, whether a line was passed after its last word, and what is left.
`indent` is the least column of a continuation outside flow collections. -/
def plainText (flow : Bool) (indent : Int) :
    (fuel : Nat) → List Char → List Char × Bool × List Char
  | 0, cs => ([], false, cs)
  | fuel + 1, cs =>
    let (word, rest) := plainWord flow cs
    let gap := plainGap fuel rest
    let outdented := match gap.column? with
      | some column => !flow && (column : Int) < indent
      | none => false
    let finished := gap.folded.isEmpty || gap.rest.head? == some '#' || outdented ||
      (plainWord flow gap.rest).1.isEmpty
    if finished then (word, gap.column?.isSome, gap.rest)
    else
      let (more, crossed, rest) := plainText flow indent fuel gap.rest
      (word ++ gap.folded ++ more, crossed, rest)

/-! ## Block scalars -/

/-- How the breaks at the end of a block are kept: the last one, none, or all. -/
inductive Chomping
  | clip
  | strip
  | keep
  deriving DecidableEq, Repr

def chompingOf? (c : Char) : Option Chomping :=
  if c = '+' then some .keep else if c = '-' then some .strip else none

def indentOf? (c : Char) : Option Nat :=
  if '0' ≤ c && c ≤ '9' then some (Decimal.digitValue c) else none

/-- The marks after the indicator of a block, in either order. -/
def blockHeader (cs : List Char) : Except Fault (Chomping × Option Nat × List Char) :=
  let (chomping?, rest) := match cs with
    | c :: more => if (chompingOf? c).isSome then (chompingOf? c, more) else (none, cs)
    | [] => (none, cs)
  let (indent?, rest) := match rest with
    | c :: more => if (indentOf? c).isSome then (indentOf? c, more) else (none, rest)
    | [] => (none, rest)
  let (chomping?, rest) := match chomping?, indent?, rest with
    | none, some _, c :: more =>
      if (chompingOf? c).isSome then (chompingOf? c, more) else (none, rest)
    | _, _, _ => (chomping?, rest)
  if indent? = some 0 || !atSpace rest then .error .malformed
  else do return (chomping?.getD .clip, indent?, ← endLine rest)

/-- Empty lines before the first line of a block: their breaks, the most spaces met, the spaces of
the line that follows, and what is left. -/
def leadingLines : (fuel : Nat) → (column widest : Nat) → List Char →
    List Char × Nat × Nat × List Char
  | 0, column, widest, cs => ([], widest, column, cs)
  | _ + 1, column, widest, [] => ([], widest, column, [])
  | fuel + 1, column, widest, c :: cs =>
    if c == ' ' then leadingLines fuel (column + 1) (max widest (column + 1)) cs
    else if isBreak c then
      let (lineBreak, rest) := takeBreak (c :: cs)
      let (more, widest, column, rest) := leadingLines fuel 0 widest rest
      (lineBreak ++ more, widest, column, rest)
    else ([], widest, column, c :: cs)

/-- Empty lines within a block of the indent: their breaks, the spaces taken from the line that
follows, at most the indent, and what is left. -/
def innerLines (indent : Nat) : (fuel : Nat) → List Char → List Char × Nat × List Char
  | 0, cs => ([], 0, cs)
  | fuel + 1, cs =>
    let column := ((cs.take indent).takeWhile (· == ' ')).length
    let rest := cs.drop column
    if !rest.isEmpty && atLineEnd rest then
      let (lineBreak, rest) := takeBreak rest
      let (more, column, rest) := innerLines indent fuel rest
      (lineBreak ++ more, column, rest)
    else ([], column, rest)

/-- What stands between two lines of a block. -/
def betweenLines (folded : Bool) (line lineBreak breaks next : List Char) : List Char :=
  let indented (cs : List Char) := (cs.head?.map isGap).getD false
  if folded && lineBreak = ['\n'] && !indented line && !indented next then
    if breaks.isEmpty then [' '] else breaks
  else lineBreak ++ breaks

/-- The lines of a block from its first character on: the text without the breaks at its end, the
last break, those after it, and what is left. -/
def blockLines (folded : Bool) (indent : Nat) :
    (fuel : Nat) → List Char → List Char × List Char × List Char × List Char
  | 0, cs => ([], [], [], cs)
  | fuel + 1, cs =>
    let line := cs.takeWhile fun c => !isBreak c
    let (lineBreak, rest) := takeBreak (dropLine cs)
    let (breaks, column, rest) := innerLines indent fuel rest
    if column = indent && !rest.isEmpty then
      let (more, lastBreak, final, left) := blockLines folded indent fuel rest
      (line ++ betweenLines folded line lineBreak breaks rest ++ more, lastBreak, final, left)
    else (line, lineBreak, breaks, rest)

def chomp (c : Chomping) (lastBreak breaks : List Char) : List Char :=
  match c with
  | .strip => []
  | .clip => lastBreak
  | .keep => lastBreak ++ breaks

/-- A block after its indicator; `outer` is the column that it must be right of. -/
def blockText (folded : Bool) (outer : Int) (cs : List Char) :
    Except Fault (List Char × List Char) := do
  let fuel := cs.length + 1
  let (chomping, width?, body) ← blockHeader cs
  let least := (max (outer + 1) 1).toNat
  let (breaks, indent, column, rest) := match width? with
    | some width =>
      let indent := least + width - 1
      let (breaks, column, rest) := innerLines indent fuel body
      (breaks, indent, column, rest)
    | none =>
      let (breaks, widest, column, rest) := leadingLines fuel 0 0 body
      (breaks, max least widest, column, rest)
  if column = indent && !rest.isEmpty then
    let (text, lastBreak, final, left) := blockLines folded indent fuel rest
    return (breaks ++ text ++ chomp chomping lastBreak final, left)
  else return (chomp chomping [] breaks, rest)

end DiagnosticCatalog.Yaml
