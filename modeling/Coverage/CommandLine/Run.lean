import Coverage.CommandLine.Arguments
import Coverage.CommandLine.Files
import Coverage.Instrument.Program
import Coverage.Remap.Registered
import Coverage.Report.LineRanges
import Coverage.Report.TextTable
import Coverage.Report.Layout
import Coverage.Snapshot.Json

/-!
# Running commands

A command reads its files, writes its output and gives a text to print, or fails with a message and
perhaps the cause of the failure. Everything is done by way of the operations on files, whatever
these are.
-/

namespace Coverage.CommandLine

open Coverage.Instrument (Options)
open Coverage.Remap (MapStore)

/-- Why a command failed. -/
structure Failure where
  message : String
  cause : Option String
  deriving DecidableEq, Inhabited, Repr

namespace Failure

/-- The failure that an error is. -/
def ofError (e : Error) : Failure :=
  ⟨e.message,
    match e with
    | .file fault => some fault.message
    | .json cause => some cause.message
    | _ => none⟩

/-- A failure to do something with a file. -/
def ofFault (message : String) (fault : FileFault) : Failure := ⟨message, some fault.message⟩

/-- The text that a failure is reported with. -/
def text (f : Failure) : String :=
  "Error: " ++ f.message ++
    (match f.cause with | some cause => "\n\nCaused by:\n    " ++ cause | none => "") ++ "\n"

end Failure

/-- What a command leaves behind, beside the files that it has written. -/
structure Outcome where
  exitCode : UInt32
  stdout : String
  stderr : String
  deriving DecidableEq, Inhabited, Repr

/-- The outcome of a command line that is none. -/
def Outcome.misuse : Outcome := ⟨2, "", "error: the arguments make no command\n"⟩

section

variable {m : Type → Type} [Monad m]

/-- A step of a command. -/
abbrev Step (m : Type → Type) := ExceptT Failure m

/-- Goes on with a value or fails. -/
def orFail {α β ε : Type} (failure : ε → Failure) (r : Except ε α) (next : α → Step m β) :
    Step m β :=
  match r with
  | .ok a => next a
  | .error e => throw (failure e)

/-- The value of a result, unless it is an error. -/
def expect {α : Type} (r : Except Error α) : Step m α := orFail Failure.ofError r pure

/-- Reads a file or fails, naming the file. -/
def readNamed (files : Files m) (path : String) : Step m (List UInt8) := do
  orFail (Failure.ofFault ("Failed to read " ++ path)) (← files.read path) pure

/-- Writes a text or fails, naming the file. -/
def writeNamed (files : Files m) (path text : String) : Step m Unit := do
  orFail (Failure.ofFault ("Failed to write " ++ path))
    (← files.write path (Text.encodeUtf8 text)) pure

/-! ## Snapshots -/

/-- Reads the document of a snapshot. -/
def readSnapshot (files : Files m) (path : String) : Step m Snapshot := do
  let bytes ← orFail (fun fault => .ofError (.file fault)) (← files.read path) pure
  expect ((Snapshot.ofDocument bytes).mapError (.inDocument path))

/-- Reads the documents of several snapshots and merges them. -/
def readSnapshots (files : Files m) : List String → Snapshot → Step m Snapshot
  | [], s => return s
  | path :: rest, s => do
    let more ← readSnapshot files path
    readSnapshots files rest (← expect ((s.merge more).mapError (.inDocument path)))

/-! ## The commands -/

/-- Reads options from the file that is named for them. -/
def readOptions (files : Files m) : Option String → Step m Options
  | none => return .default
  | some path => do
    let bytes ← readNamed files path
    let text ← orFail (fun _ => Failure.ofFault ("Failed to read " ++ path) .notText)
      (Text.decodeUtf8 bytes) pure
    orFail (fun e => ⟨"Invalid options in " ++ path, some e.message⟩) (Options.ofText text) pure

/-- Instruments a file. -/
def runInstrument (files : Files m) (file : String) (output coverageOut config : Option String)
    (esModules autoWrap : Bool) : Step m String := do
  let given ← readOptions files config
  let options := { given with
    esModules := given.esModules || esModules
    autoWrap := given.autoWrap || autoWrap }
  let bytes ← readNamed files file
  let code ← orFail (fun e => ⟨file ++ " is not valid UTF-8", some e.message⟩)
    (Text.decodeUtf8 bytes) pure
  let result ← expect (Instrument.instrument options code file none)
  if let some path := output then writeNamed files path result.code
  if let some path := coverageOut then writeNamed files path result.record.toJson.pretty
  match output with
  | none => return result.code
  | some path =>
    return "Instrumented " ++ file ++ " → " ++ path ++ "\n" ++
      (match coverageOut with
        | some path => "Coverage skeleton written to " ++ path ++ "\n"
        | none => "") ++
      (match result.sourceMapUrl with
        | some url => "Source map: " ++ url ++ "\n"
        | none => "")

/-- Merges snapshots into one. -/
def runMerge (files : Files m) (paths : List String) (output : String) : Step m String := do
  let s ← readSnapshots files paths .empty
  writeNamed files output s.text
  return "Merged " ++ toString paths.length ++ " snapshots (" ++ toString s.size ++
    " files) into " ++ output ++ "\n"

/-- Prints the table of a tree. -/
def runSummary (files : Files m) (paths : List String) (tree : String) : Step m String := do
  let layout ← expect (Report.Layout.ofName tree)
  let s ← readSnapshots files paths .empty
  return Report.textTable (Report.tree layout s)

/-- Prints the lines of a file that were never reached. -/
def runUncovered (files : Files m) (paths : List String) (sourceFile : String) :
    Step m String := do
  let s ← readSnapshots files paths .empty
  let r ← expect (s.get sourceFile)
  let lines := r.uncoveredLines
  if lines.isEmpty then
    return "All instrumentable lines are covered in '" ++ sourceFile ++ "'\n"
  else
    return "Uncovered lines in '" ++ sourceFile ++ "':\n  " ++
      Report.lineRangesText lines r.instrumentableLines ++ "\n  (" ++ toString lines.length ++
      " lines)\n"

/-- The last name of a path. -/
def lastName (path : String) : String :=
  String.ofList ((path.toList.reverse.takeWhile (· ≠ '/')).reverse)

/-- The store with the maps that lie beside the files of a snapshot. -/
def mapsBeside (files : Files m) : List String → MapStore → m MapStore
  | [], store => return store
  | path :: rest, store => do
    let map := path ++ ".map"
    if ← files.isFile map then mapsBeside files rest (store.insertUrl path (lastName map))
    else mapsBeside files rest store

/-- What the files of a list hold, as far as they can be read. -/
def readAll (files : Files m) : List String → m (List (String × List UInt8))
  | [] => return []
  | path :: rest => do
    match ← files.read path with
    | .ok bytes => return (path, bytes) :: (← readAll files rest)
    | .error _ => readAll files rest

/-- Moves coverage onto the sources that files were made from. -/
def runRemap (files : Files m) (paths : List String) (output : String) : Step m String := do
  let s ← readSnapshots files paths .empty
  let store ← (mapsBeside files s.paths .empty : m MapStore)
  let contents ← (readAll files store.filePaths : m (List (String × List UInt8)))
  let moved := store.onSources (fun path => contents.lookup path) s
  writeNamed files output moved.text
  return "Remapped " ++ toString s.size ++ " files onto " ++ toString moved.size ++
    " sources into " ++ output ++ "\n"

/-- Runs a command: the text to print. -/
def Command.run (files : Files m) : Command → Step m String
  | .instrument file output coverageOut config esModules autoWrap =>
    runInstrument files file output coverageOut config esModules autoWrap
  | .merge paths output => runMerge files paths output
  | .summary paths tree => runSummary files paths tree
  | .uncovered paths sourceFile => runUncovered files paths sourceFile
  | .remap paths output => runRemap files paths output
  | .version => pure "jscov 0.1.0\n"

/-- Runs a command line. -/
def runArguments (files : Files m) (args : List String) : m Outcome := do
  match Command.ofArguments? args with
  | none => return .misuse
  | some command =>
    match ← (command.run files).run with
    | .ok text => return ⟨0, text, ""⟩
    | .error failure => return ⟨1, "", failure.text⟩

end

end Coverage.CommandLine
