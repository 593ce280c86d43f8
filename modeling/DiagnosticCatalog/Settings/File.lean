import DiagnosticCatalog.Settings
import DiagnosticCatalog.Value.Document
import DiagnosticCatalog.Json.Reader
import DiagnosticCatalog.Yaml.Document
/-!
Settings from a file. The name of the file decides on the format; line breaks are the same in all of
their spellings.
-/

namespace DiagnosticCatalog

/-- A place to read files from, by path. -/
abbrev FileSource := String → Except FileFault ByteArray

namespace Settings

inductive Format
  | json
  | yaml
  deriving DecidableEq, Repr

def Format.ofPath (path : String) : Format :=
  if [".yaml", ".yml"].contains (Text.lower (PathText.suffix path)) then .yaml else .json

def unifyBreaks : List Char → List Char
  | '\r' :: '\n' :: cs => '\n' :: unifyBreaks cs
  | '\r' :: cs => '\n' :: unifyBreaks cs
  | c :: cs => c :: unifyBreaks cs
  | [] => []

def decode (octets : ByteArray) : Except Failure String :=
  match String.fromUTF8? octets with
  | some s => .ok (String.ofList (unifyBreaks s.toList))
  | none => .error .encoding

/-- The document of a text, as it is written there. -/
def Format.read (f : Format) (path : String) (s : String) : Except Failure Value :=
  match f with
  | .json => match Json.read s with
    | .ok j => .ok (.ofJson j)
    | .error .malformed => .error (.settings ⟨some path, .malformed⟩)
    | .error (.overlong e) => .error (.overlong e)
  | .yaml => match Yaml.read s with
    | .ok v => .ok v
    | .error .malformed => .error (.settings ⟨some path, .malformed⟩)
    | .error (.scalar e) => .error (.scalar e)

/-- The document to be judged. In YAML one that counts as nothing is taken for one without
entries. -/
def Format.document (f : Format) (v : Value) : Value :=
  match f with
  | .json => v
  | .yaml => if v.isFalsy then .map [] else v

def ofFormat (path : String) (f : Format) (v : Value) : Except Failure Settings :=
  ofDocument (some path) (f.document v)

/-- The octets at a path. A path with a null character is refused before any is looked for. -/
def fetch (source : FileSource) (path : String) : Except Failure ByteArray :=
  if path.toList.contains (Char.ofNat 0) then .error .path
  else (source path).mapError fun e => .settings ⟨some path, .file path e⟩

def load (source : FileSource) (path : String) : Except Failure Settings := do
  let path := PathText.normalize path
  let format := Format.ofPath path
  let text ← fetch source path >>= decode
  ofFormat path format (← format.read path text)

end Settings

end DiagnosticCatalog
