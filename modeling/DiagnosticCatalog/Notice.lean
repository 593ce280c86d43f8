import DiagnosticCatalog.Token
/-!
What a run makes known while it works, and the lines in which it is told.
-/

namespace DiagnosticCatalog

inductive Notice
  | built (count : Nat)
  | stored (issue : Issue) (s : Severity) (userSet : Bool)
  | restored
  | presetApplied (name : String) (count : Nat)
  | settingsLoaded (count : Nat) (path : String)
  | unrecognized (token : Text)
  deriving DecidableEq, Repr

namespace Notice

def isWarning : Notice → Bool
  | unrecognized _ => true
  | _ => false

def message : Notice → String
  | built n => "issue registry bootstrapped with " ++ Decimal.intText n ++ " issues"
  | stored i s u =>
    i.title ++ " set to " ++ s.word ++ " (user_set=" ++ (if u then "True" else "False") ++ ")"
  | restored => "issue severities reset to defaults"
  | presetApplied name n => "preset " ++ name ++ " applied to " ++ Decimal.intText n ++ " issues"
  | settingsLoaded n path =>
    "loaded " ++ Decimal.intText n ++ " severity overrides from " ++ path
  | unrecognized t => "unrecognized issue id " ++ Text.quoted t ++ " ignored"

def line (n : Notice) : String := (if n.isWarning then "WARNING: " else "DEBUG: ") ++ n.message

end Notice

end DiagnosticCatalog
