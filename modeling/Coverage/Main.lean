import Coverage.CommandLine.Run

/-!
# The command line program

The files of the system are accessed here, and nothing is decided.
-/

namespace Coverage.CommandLine

/-- The number of an error of the system. -/
def codeOf : IO.Error → Option UInt32
  | .noFileOrDirectory _ code _ | .noSuchThing _ code _ | .inappropriateType _ code _
  | .permissionDenied _ code _ | .invalidArgument _ code _ => some code
  | _ => none

/-- The fault that an error of the system stands for. -/
def faultOf (e : IO.Error) : FileFault :=
  ((codeOf e).bind fun code => FileFault.ofCode? code.toNat).getD (.other (toString e))

/-- The operations on the files of the system. -/
def Files.ofSystem : Files IO where
  read path := do
    match ← (IO.FS.readBinFile path).toBaseIO with
    | .ok bytes => return .ok bytes.data.toList
    | .error e => return .error (faultOf e)
  write path contents := do
    match ← (IO.FS.writeBinFile path ⟨contents.toArray⟩).toBaseIO with
    | .ok () => return .ok ()
    | .error e => return .error (faultOf e)
  isFile path := do
    match ← (IO.FS.readBinFile path).toBaseIO with
    | .ok _ => return true
    | .error _ => return false

end Coverage.CommandLine

/-- Runs the arguments as a command line. -/
def main (args : List String) : IO UInt32 := do
  let outcome ← Coverage.CommandLine.runArguments Coverage.CommandLine.Files.ofSystem args
  IO.print outcome.stdout
  IO.eprint outcome.stderr
  return outcome.exitCode
