import DiagnosticCatalog.Category
import DiagnosticCatalog.Decimal.Numeral
import DiagnosticCatalog.Descent
import DiagnosticCatalog.IssueName
/-!
Declarations, from which a registry is built, and what can be wrong with a list of them. Codes,
identifiers and folded names are distinct and no code is a retired one; a declaration with a level
names no parent, and from one without a level the parents lead to one with a level. Of several
faults the first is reported: all of the first kind in order, then those of parents in order.
-/

namespace DiagnosticCatalog

structure Declaration where
  code : Int
  identifier : String
  level : Level
  category : Category
  parent? : Option String
  rule? : Option String
  explanation? : Option String
  deriving DecidableEq, Repr

/-- What is wrong with a list of declarations, with the indices made from it, or with a registry that
was tampered with: the last three are not faults of declarations. -/
inductive CatalogFault
  | duplicateCode (code : Int) (identifier : String)
  | retiredCode (code : Int) (former : String)
  | duplicateIdentifier (identifier : String)
  | nameCollision (identifier earlier : String)
  | levelAndParent (identifier : String)
  | noParent (identifier : String)
  | undeclaredParent (identifier parent : String)
  | cycle (identifiers : List String)
  | incomplete
  | noLevel (title : String)
  | loop (title : String)
  deriving DecidableEq, Repr

def CatalogFault.message : CatalogFault → String
  | duplicateCode c i => "duplicate issue code " ++ Decimal.intText c ++ " (" ++ i ++ ")"
  | retiredCode c f =>
    "issue code " ++ Decimal.intText c ++ " is retired (was " ++ f ++ "); pick a new code"
  | duplicateIdentifier i => "duplicate issue identifier " ++ i
  | nameCollision i e => "issue name of " ++ i ++ " collides with " ++ e
  | levelAndParent i => i ++ " declares both a level and a parent"
  | noParent i => i ++ " inherits its level but has no parent"
  | undeclaredParent i p => i ++ " inherits from undeclared issue " ++ p
  | cycle is => "inheritance cycle: " ++ " -> ".intercalate is
  | incomplete => "issue indices are incomplete after bootstrap"
  | noLevel t => t ++ " has level INHERIT but no parent"
  | loop t => "inheritance cycle at " ++ t

/-- How declarations, or what was made from them, are turned down: with a fault, with a parent that
has no code, or with a code that has too many digits for the text of the fault. -/
inductive CatalogFailure
  | fault (e : CatalogFault)
  | unlinked (parent : String)
  | overlong (e : Decimal.Overlong)
  deriving DecidableEq, Repr

/-- What becomes of a fault whose text holds a code. The text is written before the fault is told. -/
def CatalogFailure.telling (code : Int) (e : CatalogFault) : CatalogFailure :=
  if Decimal.isWritable code then .fault e else .overlong .writing

/-- Codes of issues that have since been renumbered, with the identifier each stood for. -/
def retiredCodes : List (Int × String) := [
  (141, "KOTLIN_KEYWORD"),
  (142, "SAM_SHOULD_BE_LAST"),
  (143, "MISSING_JVMSTATIC"),
  (144, "DEFAULT_VALUE_CHANGE"),
  (145, "DOCUMENT_EXCEPTIONS")]

namespace Declaration

def name (d : Declaration) : String := IssueName.derive d.identifier

def foldedName (d : Declaration) : String := IssueName.fold d.name

def find? (ds : List Declaration) (identifier : String) : Option Declaration :=
  List.find? (·.identifier = identifier) ds

/-- A declaration against those before it, which come with their folded names. -/
def checkNew (earlier : List (Declaration × String)) (d : Declaration) (folded : String) :
    Except CatalogFailure Unit :=
  if earlier.any (·.1.code = d.code) then
    .error (.telling d.code (.duplicateCode d.code d.identifier))
  else match retiredCodes.lookup d.code with
    | some former => .error (.telling d.code (.retiredCode d.code former))
    | none =>
      if earlier.any (·.1.identifier = d.identifier) then
        .error (.fault (.duplicateIdentifier d.identifier))
      else match earlier.find? (·.2 = folded) with
        | some e => .error (.fault (.nameCollision d.identifier e.1.identifier))
        | none => .ok ()

def checkDistinct (earlier : List (Declaration × String)) :
    List (Declaration × String) → Except CatalogFailure Unit
  | [] => .ok ()
  | (d, folded) :: rest =>
    match checkNew earlier d folded with
    | .error e => .error e
    | .ok () => checkDistinct (earlier ++ [(d, folded)]) rest

/-- Follows parents until one has a level. `path` holds the identifiers already met, `child` first
and in front. -/
def climb (ds : List Declaration) (path : List String) (child : String) (parent? : Option String) :
    Except CatalogFailure Unit :=
  match parent? with
  | none => .error (.fault (.noParent child))
  | some p =>
    match _found : find? ds p with
    | none => .error (.fault (.undeclaredParent child p))
    | some d =>
      if p ∈ path then .error (.fault (.cycle (path.reverse ++ [p])))
      else match d.level with
        | .explicit _ => .ok ()
        | .inherit => climb ds (p :: path) p d.parent?
termination_by ds.countP fun d => d.identifier ∉ path
decreasing_by
  have hd := List.find?_some _found
  refine Descent.countP_lt (List.mem_of_find?_eq_some _found) (a := d) ?_ ?_ ?_
  · simp_all
  · simp_all
  · simp +contextual

def checkParent (ds : List Declaration) (d : Declaration) : Except CatalogFailure Unit :=
  match d.level with
  | .inherit => climb ds [d.identifier] d.identifier d.parent?
  | .explicit _ => if d.parent?.isSome then .error (.fault (.levelAndParent d.identifier)) else .ok ()

def checkParents (ds : List Declaration) : List Declaration → Except CatalogFailure Unit
  | [] => .ok ()
  | d :: rest =>
    match checkParent ds d with
    | .error e => .error e
    | .ok () => checkParents ds rest

def check (ds : List Declaration) : Except CatalogFailure Unit :=
  match checkDistinct [] (ds.map fun d => (d, d.foldedName)) with
  | .error e => .error e
  | .ok () => checkParents ds ds

end Declaration

end DiagnosticCatalog
