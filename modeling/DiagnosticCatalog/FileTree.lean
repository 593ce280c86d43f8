import DiagnosticCatalog.PathText
/-!
Files below one folder, the one that relative paths start from. Outside of it nothing is known but
the folders above it, so a name that is looked up there is missing.
-/

namespace DiagnosticCatalog

/-- Why a path cannot be read as a file. -/
inductive FileFault
  | missing
  | notDirectory
  | isDirectory
  | nameTooLong
  deriving DecidableEq, Repr

inductive FileTree.Content
  | folder
  | file (octets : ByteArray)

/-- Paths with what was put there, the newest first. -/
structure FileTree where
  entries : List (List String × FileTree.Content)

namespace FileTree

def empty : FileTree := ⟨[]⟩

def add (t : FileTree) (path : String) (c : Content) : FileTree :=
  ⟨(PathText.parts path, c) :: t.entries⟩

/-- What is at the path. A folder need not be put there for itself if something is in it. -/
def at? (t : FileTree) (path : List String) : Option Content :=
  match t.entries.find? (·.1 = path) with
  | some e => some e.2
  | none =>
    if path.isEmpty || t.entries.any (fun e => path.isPrefixOf e.1) then some .folder else none

/-- A place reached on the way along a path: a path inside, or somewhere outside. -/
abbrev Place := Option (List String)

def contentAt (t : FileTree) (p : Place) : Content :=
  ((p.bind t.at?).getD .folder)

def parent (p : Place) : Place :=
  match p with
  | some (name :: names) => some (name :: names).dropLast
  | _ => none

/-- The place that a name leads to. -/
def enter (t : FileTree) (p : Place) (name : String) : Except FileFault Place :=
  match t.contentAt p with
  | .file _ => .error .notDirectory
  | .folder =>
    if 255 < name.utf8ByteSize then .error .nameTooLong
    else if name = ".." then .ok (parent p)
    else match p with
      | none => .error .missing
      | some path =>
        if (t.at? (path ++ [name])).isSome then .ok (some (path ++ [name])) else .error .missing

/-- The octets of the file at a path. -/
def read (t : FileTree) (path : String) : Except FileFault ByteArray := do
  if 4095 < path.utf8ByteSize then throw .nameTooLong
  let start : Place := if (PathText.rootMark path).isEmpty then some [] else none
  match t.contentAt (← (PathText.parts path).foldlM t.enter start) with
  | .folder => throw .isDirectory
  | .file octets => return octets

end FileTree

end DiagnosticCatalog
