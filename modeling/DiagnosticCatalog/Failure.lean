import DiagnosticCatalog.Declaration
import DiagnosticCatalog.FileTree
import DiagnosticCatalog.Preset
import DiagnosticCatalog.Settings.Complaint
import DiagnosticCatalog.Token
/-!
Why a call fails, by cause. The wording belongs to the causes; which calls fail with which is said
where the calls are defined.
-/

namespace DiagnosticCatalog

/-- A level that cannot be stored by request. -/
inductive LevelFault
  | inherits
  | word (e : WordFault)
  | noSeverity (v : Value)

def LevelFault.message : LevelFault → String
  | inherits => "issue level may not be set to inherit"
  | word e => e.message
  | noSeverity v => "not a severity: " ++ v.inline

def FileFault.message : FileFault → String
  | missing => "[Errno 2] No such file or directory"
  | notDirectory => "[Errno 20] Not a directory"
  | isDirectory => "[Errno 21] Is a directory"
  | nameTooLong => "[Errno 36] File name too long"

/-- Why there are no settings: no file to read, no document in it, or a document against the rules.
-/
inductive SettingsCause
  | file (path : String) (e : FileFault)
  | malformed
  | complaint (c : Complaint)

def SettingsCause.message : SettingsCause → String
  | file _ .missing => "config file does not exist"
  | file path e => "cannot read config file: " ++ e.message ++ ": " ++ Text.quoted path
  | malformed => "cannot parse config file"
  | complaint c => c.message

structure SettingsFault where
  path? : Option String
  cause : SettingsCause

/-- The path of the document, if it has one, stands in front. -/
def SettingsFault.message (e : SettingsFault) : String :=
  (e.path?.map (· ++ ": ")).getD "" ++ e.cause.message

/-- A scalar of a document whose text is not of the kind that its tag demands. -/
inductive ScalarFault
  | overlong (e : Decimal.Overlong)
  | calendar (e : Calendar.Fault)
  | whole (base : Nat) (text : Text)
  | real (text : Text)
  | scale
  | truth (word : Text)
  | moment
  | noMoment
  | empty
  | character (code : Nat)
  | endless
  deriving DecidableEq, Repr

/-- The quoted form cut short. -/
def quotedStart (t : Text) : String := String.ofList ((Text.quoted t).toList.take 200)

def ScalarFault.message : ScalarFault → Text
  | overlong e => e.message
  | calendar e => e.message
  | whole b t =>
    "invalid literal for int() with base " ++ Decimal.intText b ++ ": " ++ quotedStart t
  | real t => "could not convert string to float: " ++ Text.quoted t
  | scale => "int too large to convert to float"
  | truth w => w
  | moment => "'NoneType' object has no attribute 'groupdict'"
  | noMoment => "expected string or bytes-like object, got 'list'"
  | empty => "string index out of range"
  | character n =>
    if n < Nat.pow 2 31 then "chr() arg not in range(0x110000)"
    else "Python int too large to convert to C int"
  | endless => "maximum recursion depth exceeded"

inductive Failure
  | level (e : LevelFault)
  | issue (e : UnknownIssue)
  | catalog (e : CatalogFault)
  | unlinked (parent : String)
  | settings (e : SettingsFault)
  | preset (name : String)
  | category (e : UnknownCategory)
  | overlong (e : Decimal.Overlong)
  | scalar (e : ScalarFault)
  | path
  | noPath
  | noPreset
  | encoding

namespace Failure

/-! A fault is told in words, so where these hold a number with too many digits another failure comes
out in its place. -/

/-- A text that is no word for a severity. -/
def word (e : WordFault) : Failure := level (.word e)

/-- A value that is neither a severity nor a text. -/
def noSeverity (v : Value) : Failure :=
  if v.isWritable then level (.noSeverity v) else overlong .writing

/-- A reference that leads to no issue. -/
def unknown (e : UnknownIssue) : Failure :=
  if e.isWritable then issue e else overlong .writing

def ofCatalog : CatalogFailure → Failure
  | .fault e => catalog e
  | .unlinked parent => unlinked parent
  | .overlong e => overlong e

/-- What is wrong with the octets of a file is not told. -/
def message : Failure → Text
  | level e => e.message
  | issue e => e.message
  | catalog e => e.message
  | unlinked parent => Text.quoted parent
  | settings e => e.message
  | preset name => Preset.unknownMessage name
  | category e => e.message
  | overlong e => e.message
  | scalar e => e.message
  | path => "embedded null byte"
  | noPath => "'list' object has no attribute 'read_text'"
  | noPreset => "unhashable type: 'list'"
  | encoding => ""

end Failure

end DiagnosticCatalog
