import Coverage.Remap.Accumulator
import Mathlib.Data.List.Induction

/-!
# Collecting by index

A collector finds the entry of a range without going through its record: beside the record it has an
index for each kind of entry, which gives the id of a key. The indices are made from the record that
collecting starts from, and every entry that is opened is put into its index too.
-/

namespace Coverage

instance : Hashable Position := ⟨fun p => mixHash (hash p.line) (hash p.column)⟩

namespace Table

variable {α κ : Type} [BEq κ] [Hashable κ]

/-- The id of each key of a table; of two entries with one key the later counts. -/
def index (t : Table α) (key : α → κ) : Std.HashMap κ Id :=
  t.entries.foldl (fun index e => index.insert (key e.2) e.1) ∅

/-- The table and its index with an entry for the key `k`, and the id of this entry. Where the index
does not have the key, the entry is `a`. -/
def enter (t : Table α) (index : Std.HashMap κ Id) (k : κ) (a : α) :
    Table α × Std.HashMap κ Id × Id :=
  match index[k]? with
  | some id => (t, index, id)
  | none => (t.insert t.nextId a, index.insert k t.nextId, t.nextId)

end Table

/-- What an entry is known by that has one range. -/
abbrev RangeKey := Position × Position

/-- A record that is being collected, with an index for each kind of entry. -/
structure Collector where
  record : FileRecord
  statements : Std.HashMap RangeKey Id
  functions : Std.HashMap RangeKey Id
  branches : Std.HashMap (List RangeKey) Id

namespace Collector

/-- A collector that starts from what a record has. -/
def ofRecord (r : FileRecord) : Collector where
  record := r
  statements := r.statements.index Location.range
  functions := r.functions.index fun f => f.decl.range
  branches := r.branches.index fun b => b.outcomes.map Location.range

/-- More hits of a statement. -/
def addStatement (c : Collector) (range : Location) (hits : UInt64) : Collector × Id :=
  let (statements, index, id) := c.record.statements.enter c.statements range.range range
  let statementHits := c.record.statementHits.alter id fun h => h.getD 0 + hits
  ({ c with record := { c.record with statements, statementHits }, statements := index }, id)

/-- More hits of a function. -/
def addFunction (c : Collector) (name : String) (decl body : Location) (hits : UInt64) :
    Collector × Id :=
  let (functions, index, id) := c.record.functions.enter c.functions decl.range
    ⟨name, decl, body, some body.start.line, body.skip⟩
  let functionHits := c.record.functionHits.alter id fun h => h.getD 0 + hits
  ({ c with record := { c.record with functions, functionHits }, functions := index }, id)

/-- More hits of the outcomes of a branch. -/
def addBranch (c : Collector) (kind : BranchKind) (range : Location) (outcomes : List Location)
    (hits : List UInt64) : Collector × Id :=
  let key := outcomes.map Location.range
  let (branches, index, id) := c.record.branches.enter c.branches key
    ⟨some range, kind, outcomes, some range.start.line⟩
  let counts := if (c.branches[key]?).isSome then c.record.branchHits
    else c.record.branchHits.insert id (outcomes.map fun _ => 0)
  let branchHits := match counts.get? id with
    | some old => counts.insert id (addCounts old hits)
    | none => counts
  ({ c with record := { c.record with branches, branchHits }, branches := index }, id)

end Collector

end Coverage
