import DiagnosticCatalog.Issue
/-!
Ways to name an issue: by a token, or by a definition at hand. A definition counts only through its
code, except where membership of that very definition is asked for.
-/

namespace DiagnosticCatalog

inductive Token
  | text (s : Text)
  | code (n : Int)
  | truth (b : Bool)
  deriving DecidableEq, Repr

def Token.value : Token → Value
  | text s => .text s
  | code n => .whole n
  | truth b => .truth b

/-- The token as it is written where tokens are text. A number with too many digits is not written.
-/
def Token.spelling (t : Token) : Except Decimal.Overlong Text :=
  if t.value.isWritable then .ok t.value.display else .error .writing

/-- `member` is a definition taken from the registry, `foreign` one made elsewhere. -/
inductive Ref
  | token (t : Token)
  | member (i : Issue)
  | foreign (i : Issue)
  deriving DecidableEq, Repr

/-- A reference that leads to no issue. -/
inductive UnknownIssue
  | token (t : Token)
  | definition (i : Issue)
  deriving DecidableEq, Repr

/-- Whether its text can be written: a number in it may have too many digits. -/
def UnknownIssue.isWritable : UnknownIssue → Bool
  | token t => t.value.isWritable
  | definition i => Decimal.isWritable i.code

def UnknownIssue.message : UnknownIssue → String
  | token t => "unknown issue: " ++ t.value.inline
  | definition i => i.title ++ " is not part of this registry"

end DiagnosticCatalog
