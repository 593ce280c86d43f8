/-!
How a run of the command line ends.
-/

namespace DiagnosticCatalog

/-- `violation`: under strict checking some override named no issue. `error`: the run could not be
carried out. -/
inductive ExitStatus
  | success
  | violation
  | error
  deriving DecidableEq, Repr, Inhabited

namespace ExitStatus

def all : List ExitStatus := [.success, .violation, .error]

def code : ExitStatus → Nat
  | success => 0
  | violation => 1
  | error => 2

def constant : ExitStatus → String
  | success => "SUCCESS"
  | violation => "VIOLATION"
  | error => "ERROR"

end ExitStatus

end DiagnosticCatalog
