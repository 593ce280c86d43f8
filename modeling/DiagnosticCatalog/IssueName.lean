import DiagnosticCatalog.Text.Blank
import DiagnosticCatalog.Text.Case
/-!
Names of issues. An issue is declared under an identifier with underscores; its name is the
identifier in small letters, cut at the underscores, each piece with a capital first.
-/

namespace DiagnosticCatalog.IssueName

def ofIdentifier (cs : List Char) : List Char :=
  (Text.splitAt '_' (Text.lowerChars cs)).flatMap Text.capitalize

def derive (identifier : String) : String := String.ofList (ofIdentifier identifier.toList)

/-- The form in which names are told apart. -/
def fold (name : String) : String := Text.lower name

end DiagnosticCatalog.IssueName
