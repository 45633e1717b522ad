import Coverage.FileRecord.Basic
import Coverage.Summary

/-!
# Views of a record

A line counts as often as the best of the statements that start on it, branches are grouped by
the line that they are reported on, and a record is summed up in four tallies.
-/

namespace Coverage

open Coverage.Decimal (Binary64)

/-- The outcomes of the branches of one line. -/
structure LineOutcomes where
  covered : Nat
  total : Nat
  deriving DecidableEq, Inhabited, Repr

/-- The covered share of a line's outcomes in percent; all of nothing is covered. -/
def LineOutcomes.percent (o : LineOutcomes) : Binary64 :=
  if o.total = 0 then .ofNat 100
  else
    let share := (Binary64.ofNat o.covered).div? (.ofNat o.total)
    (share.bind fun s => s.mul? (.ofNat 100)).getD .zero

namespace FileRecord

/-- The hits of each line on which a statement starts: those of the best such statement. -/
def lineHits (r : FileRecord) : Table UInt64 :=
  r.statements.entries.foldl (fun t e =>
    let hits := (r.statementHits.get? e.1).getD 0
    t.alter e.2.start.line fun
      | some best => max best hits
      | none => hits) .empty

/-- The lines whose best statement was never reached, in increasing order. -/
def uncoveredLines (r : FileRecord) : List UInt32 :=
  (r.lineHits.entries.filter fun e => e.2 = 0).map (·.1)

/-- The lines on which a statement starts, in increasing order. -/
def instrumentableLines (r : FileRecord) : List UInt32 := r.lineHits.keys

/-- The counts of the branches of each line, those of one line in the order of their ids. -/
def lineCounts (r : FileRecord) : Table (List UInt64) :=
  r.branches.entries.foldl (fun t e =>
    match e.2.anchorLine, r.branchHits.get? e.1 with
    | some line, some counts => t.alter line fun old => old.getD [] ++ counts
    | _, _ => t) .empty

/-- The outcomes of the branches of each line. -/
def branchLines (r : FileRecord) : Table LineOutcomes :=
  r.lineCounts.map fun counts => ⟨(counts.filter fun h => 0 < h).length, counts.length⟩

/-- The hits of the statements, each with whether it is skipped. -/
def statementEntries (r : FileRecord) : List (UInt64 × Bool) :=
  r.statementHits.entries.map fun e =>
    (e.2, match r.statements.get? e.1 with | some l => l.skip | none => false)

/-- The hits of the functions, each with whether it is skipped. -/
def functionEntries (r : FileRecord) : List (UInt64 × Bool) :=
  r.functionHits.entries.map fun e =>
    (e.2, match r.functions.get? e.1 with | some f => f.skip | none => false)

/-- Pairs the counts of a branch with whether their outcomes are skipped. -/
def withSkips : List UInt64 → List Location → List (UInt64 × Bool)
  | [], _ => []
  | h :: hs, [] => (h, false) :: withSkips hs []
  | h :: hs, l :: ls => (h, l.skip) :: withSkips hs ls

/-- The hits of the outcomes of all branches, each with whether it is skipped. -/
def outcomeEntries (r : FileRecord) : List (UInt64 × Bool) :=
  r.branchHits.entries.flatMap fun e =>
    withSkips e.2 (match r.branches.get? e.1 with | some b => b.outcomes | none => [])

/-- The tallies of a record. -/
def summary (r : FileRecord) : Summary :=
  { lines := Tally.ofHits (r.lineHits.values.map fun h => (h, false))
    statements := Tally.ofHits r.statementEntries
    functions := Tally.ofHits r.functionEntries
    branches := Tally.ofHits r.outcomeEntries }

end FileRecord

end Coverage
