import Coverage.FileRecord.Basic
import Coverage.Json.Decode
import Coverage.Json.Writer

/-!
# Records as documents

The fields of a record stand in a fixed order and the ids of its tables in numeric order. A flag
that is not set, a line that is not known and a source map that is not there are left out. A
column that has no bound is written `null`; columns are read as binary64 values, so that a whole
number with a fraction of zero is a column too.
-/

namespace Coverage

open Coverage.Decimal (Binary64)
open Coverage.Json (Value Decoder Error Context Doc)
open Coverage.Json.Decoder (Record once require)

/-! ## Columns, positions and ranges -/

/-- The column at a whole number, the nearest one where that is out of range. -/
def Position.columnOf (n : Int) : Int64 :=
  if n ≤ Int64.minValue.toInt then Int64.minValue
  else if Int64.maxValue.toInt ≤ n then Int64.maxValue
  else Int64.ofInt n

namespace Position

/-- Writes a column. -/
def columnValue (column : Int64) : Value :=
  if column = unboundedColumn then .null else .ofInt column.toInt

/-- Reads a column. -/
def decodeColumn : Decoder Int64 := fun c d => do
  match ← Decoder.option Decoder.real c d with
  | none => return unboundedColumn
  | some x =>
    if x.isWhole then return columnOf x.truncate
    else throw (.invalid ("invalid column: " ++ x.plainText))

/-- Writes a position. -/
def toJson (p : Position) : Value :=
  .object [("line", .ofNat p.line.toNat), ("column", columnValue p.column)]

/-- The fields of a position that have been read. -/
structure Fields where
  line : Option UInt32 := none
  column : Option Int64 := none

/-- How a position is read. -/
def record : Record Fields where
  name := "Position"
  fieldNames := [("line", true), ("column", true)]
  read
    | "line" => some fun c d s => do
      return { s with line := ← once "line" s.line Decoder.word32 c d }
    | "column" => some fun c d s => do
      return { s with column := ← once "column" s.column decodeColumn c d }
    | _ => none

/-- Reads a position. -/
def decode : Decoder Position := fun c d => do
  let s ← record.decode {} c d
  let line ← require "line" s.line
  let column ← require "column" s.column
  return ⟨line, column⟩

end Position

/-- A field that is written only where the flag is set. -/
def flagField (name : String) (flag : Bool) : List (String × Value) :=
  if flag then [(name, .bool true)] else []

/-- A field that is written only where the line is known. -/
def lineField : Option UInt32 → List (String × Value)
  | some line => [("line", .ofNat line.toNat)]
  | none => []

namespace Location

/-- Writes a range. -/
def toJson (l : Location) : Value :=
  .object ([("start", l.start.toJson), ("end", l.stop.toJson)] ++ flagField "skip" l.skip)

/-- The fields of a range that have been read. -/
structure Fields where
  start : Option Position := none
  stop : Option Position := none
  skip : Option Bool := none

/-- How a range is read. -/
def record : Record Fields where
  name := "Location"
  fieldNames := [("start", true), ("end", true), ("skip", false)]
  read
    | "start" => some fun c d s => do
      return { s with start := ← once "start" s.start Position.decode c d }
    | "end" => some fun c d s => do
      return { s with stop := ← once "end" s.stop Position.decode c d }
    | "skip" => some fun c d s => do
      return { s with skip := ← once "skip" s.skip Decoder.bool c d }
    | _ => none

/-- Reads a range. -/
def decode : Decoder Location := fun c d => do
  let s ← record.decode {} c d
  let start ← require "start" s.start
  let stop ← require "end" s.stop
  return ⟨start, stop, s.skip.getD false⟩

end Location

/-! ## Functions and branches -/

namespace FunctionEntry

/-- Writes a function. -/
def toJson (f : FunctionEntry) : Value :=
  .object ([("name", .string f.name), ("decl", f.decl.toJson), ("loc", f.body.toJson)] ++
    lineField f.line ++ flagField "skip" f.skip)

/-- The fields of a function that have been read. -/
structure Fields where
  name : Option String := none
  decl : Option Location := none
  body : Option Location := none
  line : Option (Option UInt32) := none
  skip : Option Bool := none

/-- How a function is read. -/
def record : Record Fields where
  name := "FunctionMapping"
  fieldNames :=
    [("name", true), ("decl", true), ("loc", true), ("line", false), ("skip", false)]
  read
    | "name" => some fun c d s => do
      return { s with name := ← once "name" s.name Decoder.string c d }
    | "decl" => some fun c d s => do
      return { s with decl := ← once "decl" s.decl Location.decode c d }
    | "loc" => some fun c d s => do
      return { s with body := ← once "loc" s.body Location.decode c d }
    | "line" => some fun c d s => do
      return { s with line := ← once "line" s.line (Decoder.option Decoder.word32) c d }
    | "skip" => some fun c d s => do
      return { s with skip := ← once "skip" s.skip Decoder.bool c d }
    | _ => none

/-- Reads a function. -/
def decode : Decoder FunctionEntry := fun c d => do
  let s ← record.decode {} c d
  let name ← require "name" s.name
  let decl ← require "decl" s.decl
  let body ← require "loc" s.body
  return ⟨name, decl, body, s.line.join, s.skip.getD false⟩

end FunctionEntry

namespace BranchEntry

/-- Writes a branch. -/
def toJson (b : BranchEntry) : Value :=
  .object (
    (match b.range with | some l => [("loc", l.toJson)] | none => []) ++
    [("type", .string b.kind.name), ("locations", .array (b.outcomes.map Location.toJson))] ++
    lineField b.line)

/-- The fields of a branch that have been read. -/
structure Fields where
  range : Option (Option Location) := none
  kind : Option BranchKind := none
  outcomes : Option (List Location) := none
  line : Option (Option UInt32) := none

/-- How a branch is read. -/
def record : Record Fields where
  name := "BranchMapping"
  fieldNames := [("loc", false), ("type", true), ("locations", true), ("line", false)]
  read
    | "loc" => some fun c d s => do
      return { s with range := ← once "loc" s.range (Decoder.option Location.decode) c d }
    | "type" => some fun c d s => do
      return { s with kind := ← once "type" s.kind (Decoder.enumeration BranchKind.named) c d }
    | "locations" => some fun c d s => do
      return { s with
        outcomes := ← once "locations" s.outcomes (Decoder.list Location.decode) c d }
    | "line" => some fun c d s => do
      return { s with line := ← once "line" s.line (Decoder.option Decoder.word32) c d }
    | _ => none

/-- Reads a branch. -/
def decode : Decoder BranchEntry := fun c d => do
  let s ← record.decode {} c d
  let kind ← require "type" s.kind
  let outcomes ← require "locations" s.outcomes
  return ⟨s.range.join, kind, outcomes, s.line.join⟩

end BranchEntry

/-! ## Tables and records -/

namespace Table

/-- Writes a table, with the ids as keys. -/
def toJson {α : Type} (item : α → Value) (t : Table α) : Value :=
  .object (t.entries.map fun e => (toString e.1.toNat, item e.2))

/-- Reads a table. -/
def decode {α : Type} (item : Decoder α) : Decoder (Table α) := fun c d => do
  return .ofList (← Decoder.numbered item c d)

end Table

/-- Writes a counter. -/
def hitsValue (hits : UInt64) : Value := .number (.natural hits)

namespace FileRecord

/-- Writes a record. -/
def toJson (r : FileRecord) : Value :=
  .object (
    [("path", .string r.path),
      ("statementMap", r.statements.toJson Location.toJson),
      ("fnMap", r.functions.toJson FunctionEntry.toJson),
      ("branchMap", r.branches.toJson BranchEntry.toJson),
      ("s", r.statementHits.toJson hitsValue),
      ("f", r.functionHits.toJson hitsValue),
      ("b", r.branchHits.toJson fun counts => .array (counts.map hitsValue))] ++
    flagField "all" r.unexecuted ++
    (match r.sourceMap with | some v => [("inputSourceMap", v)] | none => []))

/-- The compact text of a record. -/
def text (r : FileRecord) : String := r.toJson.compact

/-- The fields of a record that have been read. -/
structure Fields where
  path : Option String := none
  statements : Option (Table Location) := none
  functions : Option (Table FunctionEntry) := none
  branches : Option (Table BranchEntry) := none
  statementHits : Option (Table UInt64) := none
  functionHits : Option (Table UInt64) := none
  branchHits : Option (Table (List UInt64)) := none
  unexecuted : Option Bool := none
  sourceMap : Option (Option Value) := none

/-- How a record is read. -/
def record : Record Fields where
  name := "RawFileCoverage"
  fieldNames :=
    [("path", true), ("statementMap", true), ("fnMap", true), ("branchMap", true), ("s", true),
      ("f", true), ("b", true), ("all", false), ("inputSourceMap", false)]
  read
    | "path" => some fun c d s => do
      return { s with path := ← once "path" s.path Decoder.string c d }
    | "statementMap" => some fun c d s => do
      return { s with
        statements := ← once "statementMap" s.statements (Table.decode Location.decode) c d }
    | "fnMap" => some fun c d s => do
      return { s with
        functions := ← once "fnMap" s.functions (Table.decode FunctionEntry.decode) c d }
    | "branchMap" => some fun c d s => do
      return { s with
        branches := ← once "branchMap" s.branches (Table.decode BranchEntry.decode) c d }
    | "s" => some fun c d s => do
      return { s with
        statementHits := ← once "s" s.statementHits (Table.decode Decoder.word64) c d }
    | "f" => some fun c d s => do
      return { s with
        functionHits := ← once "f" s.functionHits (Table.decode Decoder.word64) c d }
    | "b" => some fun c d s => do
      return { s with
        branchHits := ← once "b" s.branchHits (Table.decode (Decoder.list Decoder.word64)) c d }
    | "all" => some fun c d s => do
      return { s with unexecuted := ← once "all" s.unexecuted Decoder.bool c d }
    | "inputSourceMap" => some fun c d s => do
      return { s with
        sourceMap := ← once "inputSourceMap" s.sourceMap (Decoder.option Decoder.value) c d }
    | _ => none

/-- Reads a record and checks it. -/
def decode : Decoder FileRecord := fun c d => do
  let s ← record.decode {} c d
  let r : FileRecord := {
    path := ← require "path" s.path
    statements := ← require "statementMap" s.statements
    functions := ← require "fnMap" s.functions
    branches := ← require "branchMap" s.branches
    statementHits := ← require "s" s.statementHits
    functionHits := ← require "f" s.functionHits
    branchHits := ← require "b" s.branchHits
    unexecuted := s.unexecuted.getD false
    sourceMap := s.sourceMap.join }
  match r.validate with
  | .ok _ => return r
  | .error e => throw (.invalid e.message)

/-- Reads the text of a record. -/
def ofText (text : String) : Except Coverage.Error FileRecord :=
  (Decoder.ofText decode text).mapError .json

/-- Reads a value as a record. -/
def ofValue (v : Value) : Except Coverage.Error FileRecord :=
  (Decoder.ofValue decode v).mapError .json

end FileRecord

end Coverage
