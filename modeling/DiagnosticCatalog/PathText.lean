import DiagnosticCatalog.Text.Blank
/-!
Path names as text. Repeated slashes, single dots and a slash at the end are dropped, double dots
kept; two slashes in front stay two, three or more are one.
-/

namespace DiagnosticCatalog.PathText

/-- The slashes that mark a path from the root, if it is one. -/
def rootMark (s : String) : String :=
  let slashes := (s.toList.takeWhile (· = '/')).length
  if slashes = 0 then "" else if slashes = 2 then "//" else "/"

def parts (s : String) : List String :=
  ((Text.splitAt '/' s.toList).map String.ofList).filter fun p => !p.isEmpty && p ≠ "."

def normalize (s : String) : String :=
  let text := rootMark s ++ "/".intercalate (parts s)
  if text.isEmpty then "." else text

/-- The last part, which names the file; double dots count as a name. -/
def fileName (s : String) : String := (parts s).getLast?.getD ""

/-- From the last dot of the file name on, if that dot is neither its first nor its last character.
-/
def suffix (s : String) : String :=
  let name := (fileName s).toList
  let tail := (name.reverse.takeWhile (· ≠ '.')).reverse
  let stem := name.length - tail.length
  if tail.isEmpty || stem ≤ 1 then "" else String.ofList ('.' :: tail)

end DiagnosticCatalog.PathText
