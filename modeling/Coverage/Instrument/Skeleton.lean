import Coverage.FileRecord.Basic

/-!
# The skeleton of a file's coverage

Instrumentation numbers the statements, functions and branches of a file in the order in which it
meets them and describes each of them; all counters stand at zero. The outcomes of a branch are
added one by one, and a branch that got none is dropped in the end, while the others keep their
numbers.

The main statement is `Skeleton.branches_of_mem_freeze`: what is left of the branches are those with
outcomes.
-/

namespace Coverage.Instrument

/-- A record under construction. -/
structure Skeleton where
  record : FileRecord
  deriving DecidableEq, Inhabited

namespace Skeleton

/-- The skeleton of a file in which nothing has been met. -/
def empty (path : String) : Skeleton := ⟨.empty path⟩

/-- Numbers a statement. -/
def newStatement (s : Skeleton) (range : Location) : Skeleton × Id :=
  let id := s.record.statements.nextId
  (⟨{ s.record with
      statements := s.record.statements.insert id range
      statementHits := s.record.statementHits.insert id 0 }⟩, id)

/-- The name of a function without one. -/
def anonymousName (id : Id) : String := "(anonymous_" ++ toString id.toNat ++ ")"

/-- The name that a function goes by. -/
def functionName (id : Id) : Option String → String
  | some name => if name.isEmpty then anonymousName id else name
  | none => anonymousName id

/-- Numbers a function. -/
def newFunction (s : Skeleton) (name : Option String) (decl body : Location) : Skeleton × Id :=
  let id := s.record.functions.nextId
  (⟨{ s.record with
      functions := s.record.functions.insert id
        ⟨functionName id name, decl, body, some body.start.line, false⟩
      functionHits := s.record.functionHits.insert id 0 }⟩, id)

/-- Numbers a branch, without any outcomes so far. -/
def newBranch (s : Skeleton) (kind : BranchKind) (range : Location) : Skeleton × Id :=
  let id := s.record.branches.nextId
  (⟨{ s.record with
      branches := s.record.branches.insert id ⟨some range, kind, [], some range.start.line⟩
      branchHits := s.record.branchHits.insert id [] }⟩, id)

/-- Adds an outcome to a branch and gives its index. Without such a branch nothing is added. -/
def newOutcome (s : Skeleton) (branch : Id) (range : Location) : Skeleton × Nat :=
  match s.record.branches.get? branch, s.record.branchHits.get? branch with
  | some b, some counts =>
    (⟨{ s.record with
        branches := s.record.branches.insert branch { b with outcomes := b.outcomes ++ [range] }
        branchHits := s.record.branchHits.insert branch (counts ++ [0]) }⟩, counts.length)
  | _, _ => (s, 0)

/-- The skeleton of a file that was made with a source map. -/
def withSourceMap (s : Skeleton) (map : Json.Value) : Skeleton :=
  ⟨{ s.record with sourceMap := some map }⟩

/-- Whether a branch has outcomes or is not there at all. -/
def keeps (branches : Table BranchEntry) (id : Id) : Bool :=
  match branches.get? id with
  | some b => !b.outcomes.isEmpty
  | none => true

/-- The record of the file, without the branches that got no outcomes. -/
def freeze (s : Skeleton) : FileRecord :=
  { s.record with
    branches := s.record.branches.filter fun _ b => !b.outcomes.isEmpty
    branchHits := s.record.branchHits.filter fun id _ => keeps s.record.branches id }

/-- The branches of the finished record have outcomes. -/
theorem branches_of_mem_freeze {s : Skeleton} {e : Id × BranchEntry}
    (h : e ∈ s.freeze.branches.entries) : e.2.outcomes ≠ [] := by
  simp only [freeze, Table.filter, List.mem_filter] at h
  intro hempty
  simp [hempty] at h

end Skeleton

end Coverage.Instrument
