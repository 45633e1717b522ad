import Coverage.Error
import Coverage.Json.Value
import Coverage.Location
import Coverage.Table

/-!
# The coverage of one file

A record describes the statements, functions and branches of a file and counts how often each was
reached. Descriptions and counters are separate tables; a record is valid when they have the same
ids and every branch has one count per outcome.
-/

namespace Coverage

/-- The kinds of construct that a branch is recorded for. -/
inductive BranchKind where
  | ifElse
  | switch
  | conditional
  | logical
  | defaultValue
  deriving DecidableEq, Inhabited, Repr

namespace BranchKind

/-- The kinds with their names in documents. -/
def named : List (String × BranchKind) :=
  [("if", ifElse), ("switch", switch), ("cond-expr", conditional), ("binary-expr", logical),
    ("default-arg", defaultValue)]

/-- The name of a kind in documents. -/
def name : BranchKind → String
  | ifElse => "if"
  | switch => "switch"
  | conditional => "cond-expr"
  | logical => "binary-expr"
  | defaultValue => "default-arg"

theorem lookup_name (k : BranchKind) : named.lookup k.name = some k := by
  cases k <;> decide

end BranchKind

/-- A function: its name, the range that declares it, and the range of its body. -/
structure FunctionEntry where
  name : String
  decl : Location
  body : Location
  line : Option UInt32
  skip : Bool
  deriving DecidableEq, Inhabited, Repr

/-- A branch: its range, where it is known, and the range of each outcome. -/
structure BranchEntry where
  range : Option Location
  kind : BranchKind
  outcomes : List Location
  line : Option UInt32
  deriving DecidableEq, Inhabited, Repr

/-- The line that a branch is reported on: that of its range, or else of its first outcome. -/
def BranchEntry.anchorLine (b : BranchEntry) : Option UInt32 :=
  (b.range.or b.outcomes.head?).map (·.start.line)

/-- The coverage of one file. -/
structure FileRecord where
  path : String
  statements : Table Location
  functions : Table FunctionEntry
  branches : Table BranchEntry
  statementHits : Table UInt64
  functionHits : Table UInt64
  branchHits : Table (List UInt64)
  /-- Set on the record of a file that was seen but never run: it carries no information when it
  meets another record of the file. -/
  unexecuted : Bool
  /-- The source map that the file was made with. -/
  sourceMap : Option Json.Value
  deriving DecidableEq, Inhabited

namespace FileRecord

/-- The record of a file with nothing in it. -/
def empty (path : String) : FileRecord :=
  ⟨path, .empty, .empty, .empty, .empty, .empty, .empty, false, none⟩

/-- The number of outcomes that a branch is described with. -/
def outcomeCount (r : FileRecord) (branch : Id) : Nat :=
  match r.branches.get? branch with
  | some b => b.outcomes.length
  | none => 0

/-- The first branch whose number of counts is not its number of outcomes. -/
def misshapen? (r : FileRecord) : Option (Id × List UInt64) :=
  r.branchHits.entries.find? fun e => e.2.length != r.outcomeCount e.1

/-- Checks that a record names a file and that its descriptions and counters agree. -/
def validate (r : FileRecord) : Except Error Unit := do
  if r.path.isEmpty then throw .emptyPath
  if r.statementHits.keys ≠ r.statements.keys then throw (.idsDiffer r.path .statements)
  if r.functionHits.keys ≠ r.functions.keys then throw (.idsDiffer r.path .functions)
  if r.branchHits.keys ≠ r.branches.keys then throw (.idsDiffer r.path .branches)
  if let some (id, counts) := r.misshapen? then
    throw (.outcomesDiffer r.path id counts.length (r.outcomeCount id))

/-- The record with every counter at zero. -/
def resetHits (r : FileRecord) : FileRecord :=
  { r with
    statementHits := r.statementHits.map fun _ => 0
    functionHits := r.functionHits.map fun _ => 0
    branchHits := r.branchHits.map fun counts => counts.map fun _ => 0 }

end FileRecord

end Coverage
