import DiagnosticCatalog.Value
/-!
Collections as a document makes them, and the values they come to. Collections know each other by
number, for one may contain itself. Such a one has no finite value; it is unfolded until every one
of them was met on the way, which is further than any message about it goes.
-/

namespace DiagnosticCatalog.Yaml

/-- A value without parts, or a collection by its number. -/
inductive Part
  | value (v : Value)
  | collection (n : Nat)

inductive Collection
  | list (items : List Part)
  | tuple (items : List Part)
  | set (keys : List Value)
  | map (entries : List (Value × Part))
  deriving Inhabited

namespace Collection

/-- A collection of the same kind without parts. -/
def emptied : Collection → Value
  | list _ => .list []
  | tuple _ => .tuple []
  | set _ => .set false []
  | map _ => .map []

/-- The value of a collection over the values of its parts, if all of them are known. -/
def value? (part? : Part → Option Value) : Collection → Option Value
  | list items => (items.mapM part?).map .list
  | tuple items => (items.mapM part?).map .tuple
  | set keys => some (.set false keys)
  | map entries => (entries.mapM fun e => (part? e.2).map fun v => (e.1, v)).map .map

end Collection

/-- The values of collections as far as they are known. -/
abbrev Known := Array (Option Value)

def Part.value? (known : Known) : Part → Option Value
  | value v => some v
  | collection n => (known[n]?).join

/-- One pass over the collections, from the last to the first, as parts mostly come after what they
are parts of. -/
def groundOnce (cs : Array Collection) (known : Known) : Known :=
  (List.range cs.size).reverse.foldl (fun known n =>
    if ((known[n]?).join).isSome then known
    else known.setIfInBounds n ((cs[n]?).bind (Collection.value? (Part.value? known)))) known

def knownCount (known : Known) : Nat := known.toList.countP Option.isSome

/-- Passes until one finds nothing new. What is then unknown contains itself, or something that
does. -/
def ground (cs : Array Collection) : (fuel : Nat) → Known → Known
  | 0, known => known
  | fuel + 1, known =>
    let next := groundOnce cs known
    if knownCount next = knownCount known then next else ground cs fuel next

/-- The unknown collections unfolded by one more layer, each under its number. -/
def unfoldOnce (cs : Array Collection) (known unfolded : Known) : Known :=
  (known.zip cs).mapIdx fun n (v?, c) =>
    v? <|> (c.value? (Part.value? unfolded)).map (.cycle n)

def unfold (cs : Array Collection) (known : Known) : (layers : Nat) → Known
  | 0 => (known.zip cs).mapIdx fun n (v?, c) => v? <|> some (.cycle n c.emptied)
  | layers + 1 => unfoldOnce cs known (unfold cs known layers)

/-- The layers between a document and what a message can be about. -/
def messageDepth : Nat := 4

/-- The value of a part. -/
def Part.unfolded (cs : Array Collection) (p : Part) : Value :=
  let known := ground cs (cs.size + 1) (Array.replicate cs.size none)
  match p.value? known with
  | some v => v
  | none => (p.value? (unfold cs known (cs.size - knownCount known + messageDepth))).getD .null

end DiagnosticCatalog.Yaml
