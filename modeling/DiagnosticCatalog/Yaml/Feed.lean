import DiagnosticCatalog.Yaml.Node
import DiagnosticCatalog.Yaml.TokenStream
/-!
The one document of a token stream. Tokens are looked at one by one, so of a fault in the stream and
a fault in the order of its tokens the one that is met first is told. An anchor names its node as
soon as the node begins, and no other after it.
-/

namespace DiagnosticCatalog.Yaml

/-- The tokens to come, with the fault that may end them, and what was made of those before. -/
structure Feed where
  tokens : List Token
  fault? : Option Fault
  anchors : List (String × NodeId)
  graph : Graph

namespace Feed

def ofStream (s : TokenStream) : Feed := ⟨s.tokens, s.fault?, [], .empty⟩

def drop (f : Feed) : Feed := { f with tokens := f.tokens.tail }

/-- The next token, none at the end of the text. -/
def peek (f : Feed) : Except Fault (Option Token) :=
  match f.tokens, f.fault? with
  | t :: _, _ => .ok (some t)
  | [], some e => .error e
  | [], none => .ok none

/-- Whether the next token is one of these; at the end none is. -/
def isAt (f : Feed) (ts : List Token) : Except Fault Bool :=
  f.peek.map fun t? => t?.any ts.contains

/-- Begins a node under its anchor, if it has one. -/
def add (f : Feed) (anchor? : Option String) (n : Node) : NodeId × Feed :=
  let (id, graph) := f.graph.add n
  let anchors := match anchor? with
    | some name => (name, id) :: f.anchors
    | none => f.anchors
  (id, { f with graph := graph, anchors := anchors })

def addMissing (f : Feed) : NodeId × Feed := f.add none .missing

def fill (f : Feed) (id : NodeId) (s : Shape) : Feed := { f with graph := f.graph.reshape id s }

end Feed

/-- The handles of tags, with what each stands for. -/
abbrev Handles := List (String × String)

def standardHandles : Handles := [("!", "!"), ("!!", Tag.standardHead)]

/-- An anchor and a tag in front of a node, in either order. -/
structure Properties where
  anchor? : Option String
  tag? : Option String

def fullTag (handles : Handles) (handle? : Option String) (suffix : String) :
    Except Fault String :=
  match handle? with
  | none => .ok suffix
  | some h =>
    match handles.lookup h with
    | some expansion => .ok (expansion ++ suffix)
    | none => .error .malformed

def takeAnchor (f : Feed) : Except Fault (Option String × Feed) := do
  match ← f.peek with
  | some (.anchor a) => return (some a, f.drop)
  | _ => return (none, f)

/-- A tag as its token has it. -/
def takeTagToken (f : Feed) : Except Fault (Option (Option String × String) × Feed) := do
  match ← f.peek with
  | some (.tag h s) => return (some (h, s), f.drop)
  | _ => return (none, f)

/-- An anchor, and a tag before or behind it. -/
def properties (handles : Handles) (f : Feed) : Except Fault (Properties × Feed) := do
  let (front?, f) ← takeTagToken f
  let (anchor?, f) ← takeAnchor f
  let (tag?, f) ← if front?.isNone && anchor?.isSome then takeTagToken f else pure (front?, f)
  return (⟨anchor?, ← tag?.mapM fun (h, s) => fullTag handles h s⟩, f)

/-- A lone exclamation mark is as good as no tag. -/
def givenTag? (p : Properties) : Option Tag :=
  match p.tag? with
  | none => none
  | some t => if t = "!" then none else some (.ofName t)

/-- A quoted scalar is text unless a tag stands in front of it. -/
def scalarTag (p : Properties) (text : Text) (plain : Bool) : Tag :=
  match givenTag? p with
  | some t => t
  | none => if plain || p.tag?.isSome then .implicit text else .text

/-- A name is given to one node only. -/
def requireFresh (f : Feed) (p : Properties) : Except Fault Unit :=
  if p.anchor?.any fun a => (f.anchors.lookup a).isSome then .error .malformed else .ok ()

def addScalar (p : Properties) (text : Text) (plain : Bool) (f : Feed) : NodeId × Feed :=
  f.add p.anchor? ⟨scalarTag p text plain, .scalar text⟩

def openSequence (p : Properties) (f : Feed) : NodeId × Feed :=
  f.add p.anchor? ⟨(givenTag? p).getD .sequence, .sequence []⟩

def openMapping (p : Properties) (f : Feed) : NodeId × Feed :=
  f.add p.anchor? ⟨(givenTag? p).getD .mapping, .mapping []⟩

/-- Properties may stand in front of nothing. -/
def addEmpty (p : Properties) (f : Feed) : Except Fault (NodeId × Feed) :=
  if p.anchor?.isSome || p.tag?.isSome then .ok (addScalar p "" true f) else .error .malformed

def aliased (f : Feed) (name : String) : Except Fault (NodeId × Feed) :=
  match f.anchors.lookup name with
  | some id => .ok (id, f.drop)
  | none => .error .malformed

mutual

/-- A node. Outside brackets it may be a block, and where `bare` says so a sequence without a block
of its own. -/
def node (handles : Handles) : (fuel : Nat) → (block bare : Bool) → Feed →
    Except Fault (NodeId × Feed)
  | 0, _, _, _ => .error .malformed
  | fuel + 1, block, bare, f => do
    if let some (.alias name) ← f.peek then return ← aliased f name
    let (p, f) ← properties handles f
    let next? ← f.peek
    requireFresh f p
    match next? with
    | some (.scalar text plain) => return addScalar p text plain f.drop
    | some .flowSequenceStart =>
      let (id, f) := openSequence p f.drop
      let (items, f) ← flowItems handles fuel true f
      return (id, f.fill id (.sequence items))
    | some .flowMappingStart =>
      let (id, f) := openMapping p f.drop
      let (entries, f) ← flowEntries handles fuel true f
      return (id, f.fill id (.mapping entries))
    | some .blockEntry =>
      if bare then
        let (id, f) := openSequence p f
        let (items, f) ← blockItems handles fuel true f
        return (id, f.fill id (.sequence items))
      else addEmpty p f
    | some .blockSequenceStart =>
      if block then
        let (id, f) := openSequence p f.drop
        let (items, f) ← blockItems handles fuel false f
        return (id, f.fill id (.sequence items))
      else addEmpty p f
    | some .blockMappingStart =>
      if block then
        let (id, f) := openMapping p f.drop
        let (entries, f) ← blockEntries handles fuel f
        return (id, f.fill id (.mapping entries))
      else addEmpty p f
    | _ => addEmpty p f

/-- A node, or a missing one before one of the tokens. -/
def nodeUnless (handles : Handles) : (fuel : Nat) → (block bare : Bool) → List Token → Feed →
    Except Fault (NodeId × Feed)
  | 0, _, _, _, _ => .error .malformed
  | fuel + 1, block, bare, ts, f => do
    if ← f.isAt ts then return f.addMissing else node handles fuel block bare f

/-- The entries of a block sequence, and its end unless it is bare. -/
def blockItems (handles : Handles) : (fuel : Nat) → (bare : Bool) → Feed →
    Except Fault (List NodeId × Feed)
  | 0, _, _ => .error .malformed
  | fuel + 1, bare, f => do
    if ← f.isAt [.blockEntry] then
      let ends : List Token :=
        if bare then [.blockEntry, .key, .value, .blockEnd] else [.blockEntry, .blockEnd]
      let (item, f) ← nodeUnless handles fuel true false ends f.drop
      let (items, f) ← blockItems handles fuel bare f
      return (item :: items, f)
    else if bare then return ([], f)
    else if ← f.isAt [.blockEnd] then return ([], f.drop)
    else throw .malformed

/-- The value of an entry, missing without its mark. -/
def blockValue (handles : Handles) : (fuel : Nat) → Feed → Except Fault (NodeId × Feed)
  | 0, _ => .error .malformed
  | fuel + 1, f => do
    if ← f.isAt [.value] then nodeUnless handles fuel true true [.key, .value, .blockEnd] f.drop
    else return f.addMissing

def blockEntries (handles : Handles) : (fuel : Nat) → Feed →
    Except Fault (List (NodeId × NodeId) × Feed)
  | 0, _ => .error .malformed
  | fuel + 1, f => do
    if ← f.isAt [.key] then
      let (key, f) ← nodeUnless handles fuel true true [.key, .value, .blockEnd] f.drop
      let (value, f) ← blockValue handles fuel f
      let (entries, f) ← blockEntries handles fuel f
      return ((key, value) :: entries, f)
    else if ← f.isAt [.blockEnd] then return ([], f.drop)
    else throw .malformed

/-- The value of an entry in brackets that `close` ends. -/
def flowValue (handles : Handles) : (fuel : Nat) → (close : Token) → Feed →
    Except Fault (NodeId × Feed)
  | 0, _, _ => .error .malformed
  | fuel + 1, close, f => do
    if ← f.isAt [.value] then nodeUnless handles fuel false false [.flowEntry, close] f.drop
    else return f.addMissing

/-- The items up to the closing bracket. An item with a key is a mapping of one entry. -/
def flowItems (handles : Handles) : (fuel : Nat) → (first : Bool) → Feed →
    Except Fault (List NodeId × Feed)
  | 0, _, _ => .error .malformed
  | fuel + 1, first, f => do
    if ← f.isAt [.flowSequenceEnd] then return ([], f.drop)
    else if !first && !(← f.isAt [.flowEntry]) then throw .malformed
    else
      let f := if first then f else f.drop
      if ← f.isAt [.flowSequenceEnd] then return ([], f.drop)
      else if ← f.isAt [.key] then
        let (id, f) := openMapping ⟨none, none⟩ f.drop
        let (key, f) ←
          nodeUnless handles fuel false false [.value, .flowEntry, .flowSequenceEnd] f
        let (value, f) ← flowValue handles fuel .flowSequenceEnd f
        let (items, f) ← flowItems handles fuel false (f.fill id (.mapping [(key, value)]))
        return (id :: items, f)
      else
        let (item, f) ← node handles fuel false false f
        let (items, f) ← flowItems handles fuel false f
        return (item :: items, f)

/-- The entries up to the closing brace. An entry without a mark is a key. -/
def flowEntries (handles : Handles) : (fuel : Nat) → (first : Bool) → Feed →
    Except Fault (List (NodeId × NodeId) × Feed)
  | 0, _, _ => .error .malformed
  | fuel + 1, first, f => do
    if ← f.isAt [.flowMappingEnd] then return ([], f.drop)
    else if !first && !(← f.isAt [.flowEntry]) then throw .malformed
    else
      let f := if first then f else f.drop
      if ← f.isAt [.flowMappingEnd] then return ([], f.drop)
      else if ← f.isAt [.key] then
        let (key, f) ←
          nodeUnless handles fuel false false [.value, .flowEntry, .flowMappingEnd] f.drop
        let (value, f) ← flowValue handles fuel .flowMappingEnd f
        let (entries, f) ← flowEntries handles fuel false f
        return ((key, value) :: entries, f)
      else
        let (key, f) ← node handles fuel false false f
        let (value, f) := f.addMissing
        let (entries, f) ← flowEntries handles fuel false f
        return ((key, value) :: entries, f)

end

/-- What the directives before a document declare. -/
structure Preamble where
  versioned : Bool
  handles : Handles

def Preamble.extend (p : Preamble) : Directive → Except Fault Preamble
  | .version major =>
    if p.versioned || major ≠ 1 then .error .malformed else .ok { p with versioned := true }
  | .tagHandle handle expansion =>
    if (p.handles.lookup handle).isSome then .error .malformed
    else .ok { p with handles := (handle, expansion) :: p.handles }
  | .other => .ok p

/-- The directives at the front; the answer is at a token that is none. -/
def readDirectives (p : Preamble) : List Token → Except Fault (Preamble × List Token)
  | .directive d :: ts => do readDirectives (← p.extend d) ts
  | ts => .ok (p, ts)

namespace Feed

/-- The mark of a document with the directives in front of it. -/
def takePreamble (f : Feed) : Except Fault (Preamble × Feed) := do
  let (p, tokens) ← readDirectives ⟨false, []⟩ f.tokens
  let f := { f with tokens := tokens }
  if ← f.isAt [.documentStart] then return (p, f.drop) else throw .malformed

def isBoundary : Token → Bool
  | .directive _ | .documentStart | .documentEnd => true
  | _ => false

/-- A root node. It needs no more fuel than twice the number of tokens, as of two calls one passes a
token. -/
def takeRoot (f : Feed) (handles : Handles) : Except Fault (NodeId × Feed) :=
  node handles (2 * f.tokens.length + 4) true false f

/-- A document behind its mark, which may be empty. -/
def takeMarked (f : Feed) : Except Fault (NodeId × Feed) := do
  let (p, f) ← f.takePreamble
  match ← f.peek with
  | none => return f.addMissing
  | some t =>
    if isBoundary t then return f.addMissing else f.takeRoot (p.handles ++ standardHandles)

/-- After a document nothing may come but marks of its end. What comes is read as the start of
another document before it is refused. -/
def requireEnd (f : Feed) : Except Fault Unit := do
  let f := { f with tokens := f.tokens.dropWhile (· == Token.documentEnd) }
  match ← f.peek with
  | none => return ()
  | some _ => do
    let _ ← f.takePreamble
    throw .malformed

end Feed

/-- The document of a stream, if there is one. -/
def Document.ofStream? (s : TokenStream) : Except Fault (Option Document) := do
  let f := Feed.ofStream s
  match ← f.peek with
  | none => return none
  | some t =>
    let marked := match t with
      | .directive _ | .documentStart => true
      | _ => false
    let (root, f) ← if marked then f.takeMarked else f.takeRoot standardHandles
    f.requireEnd
    return some ⟨f.graph, root⟩

end DiagnosticCatalog.Yaml
