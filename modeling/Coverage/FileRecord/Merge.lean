import Coverage.FileRecord.Basic

/-!
# Merging two records of one file

Counters of one id add up, ids that only one side has are kept, and a description that is known
already is not altered. A record that was never executed gives way to the other one. Two records
that disagree on the number of outcomes of a branch cannot be merged.
-/

namespace Coverage

/-- Adds counts outcome by outcome; the first list keeps its length. -/
def addCounts : List UInt64 → List UInt64 → List UInt64
  | m :: ms, o :: os => (m + o) :: addCounts ms os
  | ms, _ => ms

namespace FileRecord

/-- The descriptions `mine` with those of `ids` that only `other` has. -/
def adopt {α : Type} (mine other : Table α) (ids : List Id) : Table α :=
  ids.foldl (fun t id =>
    match other.get? id with
    | some a => t.insertIfNew id a
    | none => t) mine

/-- The counters of both tables, those of one id added up. -/
def addHits (mine other : Table UInt64) : Table UInt64 :=
  other.entries.foldl (fun t e => t.alter e.1 fun old => old.getD 0 + e.2) mine

/-- The counts of both tables, those of one branch added up outcome by outcome. -/
def addBranchHits (mine other : Table (List UInt64)) : Table (List UInt64) :=
  other.entries.foldl (fun t e => t.alter e.1 fun
    | some counts => addCounts counts e.2
    | none => e.2) mine

/-- The branches that `mine` does not count yet, with the descriptions that `other` has. -/
def adoptBranches (mine other : FileRecord) : Table BranchEntry :=
  other.branchHits.keys.foldl (fun t id =>
    match mine.branchHits.get? id, other.branches.get? id with
    | none, some b => t.insert id b
    | _, _ => t) mine.branches

/-- The first branch on whose number of outcomes two records disagree, with both numbers. -/
def conflict? (mine other : FileRecord) : Option (Id × Nat × Nat) :=
  other.branchHits.entries.findSome? fun e =>
    match mine.branchHits.get? e.1 with
    | some counts =>
      if counts.length ≠ e.2.length then some (e.1, counts.length, e.2.length) else none
    | none => none

/-- The record `mine` with the observations of `other` added to it. -/
def merge (mine other : FileRecord) : Except Error FileRecord := do
  if mine.path ≠ other.path then throw (.pathsDiffer mine.path other.path)
  if other.unexecuted then return mine
  if mine.unexecuted then return other
  if let some (id, expected, found) := mine.conflict? other then
    throw (.branchShapesDiffer mine.path id expected found)
  return { mine with
    statements := adopt mine.statements other.statements other.statementHits.keys
    functions := adopt mine.functions other.functions other.functionHits.keys
    branches := adoptBranches mine other
    statementHits := addHits mine.statementHits other.statementHits
    functionHits := addHits mine.functionHits other.functionHits
    branchHits := addBranchHits mine.branchHits other.branchHits
    sourceMap := mine.sourceMap.or other.sourceMap }

end FileRecord

end Coverage
