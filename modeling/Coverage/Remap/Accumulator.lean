import Coverage.FileRecord.Merge

/-!
# Collecting what is mapped onto one source

Several generated ranges can come from one range of a source, because the source was inlined
twice or went into two bundles. Such entries share an id and their hits add up. A statement is
known by its range, a function by the range of its declaration, and a branch by the ranges of all
its outcomes.
-/

namespace Coverage

namespace Table

/-- The greatest id whose entry satisfies `p`. -/
def lastWhere? {α : Type} (t : Table α) (p : α → Bool) : Option Id :=
  (t.entries.reverse.find? fun e => p e.2).map (·.1)

end Table

namespace FileRecord

/-- The record with more hits of a statement, which is known by its range. -/
def addStatement (r : FileRecord) (range : Location) (hits : UInt64) : FileRecord × Id :=
  let known := r.statements.lastWhere? fun l => l.range = range.range
  let id := known.getD r.statements.nextId
  let statements := if known.isSome then r.statements else r.statements.insert id range
  ({ r with statements, statementHits := r.statementHits.alter id fun h => h.getD 0 + hits }, id)

/-- The record with more hits of a function, which is known by the range of its declaration. -/
def addFunction (r : FileRecord) (name : String) (decl body : Location) (hits : UInt64) :
    FileRecord × Id :=
  let known := r.functions.lastWhere? fun f => f.decl.range = decl.range
  let id := known.getD r.functions.nextId
  let functions := if known.isSome then r.functions
    else r.functions.insert id ⟨name, decl, body, some body.start.line, body.skip⟩
  ({ r with functions, functionHits := r.functionHits.alter id fun h => h.getD 0 + hits }, id)

/-- The record with more hits of a branch, which is known by the ranges of its outcomes. -/
def addBranch (r : FileRecord) (kind : BranchKind) (range : Location) (outcomes : List Location)
    (hits : List UInt64) : FileRecord × Id :=
  let key := outcomes.map Location.range
  let known := r.branches.lastWhere? fun b => b.outcomes.map Location.range = key
  let id := known.getD r.branches.nextId
  let branches := if known.isSome then r.branches
    else r.branches.insert id ⟨some range, kind, outcomes, some range.start.line⟩
  let counts := if known.isSome then r.branchHits
    else r.branchHits.insert id (outcomes.map fun _ => 0)
  let branchHits := match counts.get? id with
    | some old => counts.insert id (addCounts old hits)
    | none => counts
  ({ r with branches, branchHits }, id)

end FileRecord

end Coverage
