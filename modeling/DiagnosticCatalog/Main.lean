import DiagnosticCatalog.CommandLine.Transcript
/-!
The program: its arguments, the one file that they may name, and the two output streams.
-/

namespace DiagnosticCatalog

/-- The number of an error of the machine, which may come with either sign. -/
def errorNumber (code : UInt32) : Nat := min code.toNat (Nat.pow 2 32 - code.toNat)

/-- The fault that an error of the machine stands for, if it is about the path. -/
def FileFault.ofError? (e : IO.Error) : Option FileFault :=
  match e with
  | .noFileOrDirectory .. => some .missing
  | .inappropriateType _ code _ =>
    if errorNumber code = 20 then some .notDirectory
    else if errorNumber code = 21 then some .isDirectory else none
  | .invalidArgument _ code _ => if errorNumber code = 36 then some .nameTooLong else none
  | _ => none

def readFile (path : String) : IO (Except FileFault ByteArray) := do
  try
    return .ok (← IO.FS.readBinFile path)
  catch e =>
    match FileFault.ofError? e with
    | some fault => return .error fault
    | none => throw e

/-- The file that the arguments name, read ahead; any other path is missing. -/
def sourceFor (args : List String) : IO FileSource := do
  let path? := match CommandLine.Invocation.read args with
    | .ok i => i.command?.bind fun _ =>
      (i.config?.bind CommandLine.Operand.get?).map PathText.normalize
    | .error _ => none
  match path? with
  | some path =>
    let content ← readFile path
    return fun p => if p = path then content else .error .missing
  | none => return fun _ => .error .missing

def report (t : CommandLine.Transcript) : IO UInt32 := do
  (← IO.getStdout).putStr t.output
  (← IO.getStderr).putStr (t.errors?.getD (if t.status = .success then "" else CommandLine.usage))
  return t.status.code.toUInt32

end DiagnosticCatalog

open DiagnosticCatalog in
def main (args : List String) : IO UInt32 := do
  match CommandLine.run (← sourceFor args) args with
  | .ok t => report t
  | .error e =>
    (← IO.getStderr).putStrLn (toString e.message)
    return 1
