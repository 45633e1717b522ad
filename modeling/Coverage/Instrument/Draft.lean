import Coverage.Instrument.Skeleton

/-!
# Drafts of a file's coverage

A draft is a skeleton that remembers the next number of each kind, as it is given to whoever looks
for the statements, functions and branches of a file. Statements and functions are final once they
are numbered; a branch gets its outcomes one by one in later calls, and is taken out in the end
when it got none.
-/

namespace Coverage.Instrument

/-- A skeleton with the numbers that the next statement, function and branch get. -/
structure Draft extends Skeleton where
  nextStatement : Id
  nextFunction : Id
  nextBranch : Id
  deriving DecidableEq, Inhabited

namespace Draft

/-- The draft of a file in which nothing has been met. -/
def empty (path : String) : Draft := ⟨.empty path, 0, 0, 0⟩

/-- Numbers a statement. -/
def newStatement (d : Draft) (range : Location) : Draft × Id :=
  let id := d.nextStatement
  ({ d with
      record := { d.record with
        statements := d.record.statements.insert id range
        statementHits := d.record.statementHits.insert id 0 }
      nextStatement := id + 1 }, id)

/-- Numbers a function. -/
def newFunction (d : Draft) (name : Option String) (decl body : Location) : Draft × Id :=
  let id := d.nextFunction
  ({ d with
      record := { d.record with
        functions := d.record.functions.insert id
          ⟨Skeleton.functionName id name, decl, body, some body.start.line, false⟩
        functionHits := d.record.functionHits.insert id 0 }
      nextFunction := id + 1 }, id)

/-- Numbers a branch, without any outcomes so far. -/
def newBranch (d : Draft) (kind : BranchKind) (range : Location) : Draft × Id :=
  let id := d.nextBranch
  ({ d with
      record := { d.record with
        branches := d.record.branches.insert id ⟨some range, kind, [], some range.start.line⟩
        branchHits := d.record.branchHits.insert id [] }
      nextBranch := id + 1 }, id)

/-- Adds an outcome to a branch and gives its index. Without such a branch nothing is added. -/
def newOutcome (d : Draft) (branch : Id) (range : Location) : Draft × Nat :=
  let (s, index) := d.toSkeleton.newOutcome branch range
  ({ d with toSkeleton := s }, index)

/-- The draft of a file that was made with a source map. -/
def withSourceMap (d : Draft) (map : Json.Value) : Draft :=
  { d with toSkeleton := d.toSkeleton.withSourceMap map }

/-- The branches that got no outcomes, in order. -/
def idleBranches (d : Draft) : List Id :=
  (d.record.branches.entries.filter fun e => e.2.outcomes.isEmpty).map (·.1)

/-- The record of the file. The branches that got no outcomes are taken out of both tables, one
after the other. -/
def freeze (d : Draft) : FileRecord :=
  { d.record with
    branches := d.idleBranches.foldl Table.erase d.record.branches
    branchHits := d.idleBranches.foldl Table.erase d.record.branchHits }

/-- What can be told to a draft. -/
inductive Call where
  | statement (range : Location)
  | function (name : Option String) (decl body : Location)
  | branch (kind : BranchKind) (range : Location)
  | outcome (branch : Id) (range : Location)
  | sourceMap (map : Json.Value)
  deriving DecidableEq, Inhabited

/-- What a draft answers. -/
inductive Reply where
  | id (id : Id)
  | index (index : Nat)
  | done
  deriving DecidableEq, Inhabited, Repr

/-- Makes calls one after the other, each as `step` says: what comes out, and the answers in
order. -/
def Call.makeAll {σ : Type} (step : σ → Call → σ × Reply) (s : σ) : List Call → σ × List Reply
  | [] => (s, [])
  | call :: calls =>
    let (s, reply) := step s call
    let (s, replies) := makeAll step s calls
    (s, reply :: replies)

/-- Makes a call. -/
def step (d : Draft) : Call → Draft × Reply
  | .statement range =>
    let (d, id) := d.newStatement range
    (d, .id id)
  | .function name decl body =>
    let (d, id) := d.newFunction name decl body
    (d, .id id)
  | .branch kind range =>
    let (d, id) := d.newBranch kind range
    (d, .id id)
  | .outcome branch range =>
    let (d, index) := d.newOutcome branch range
    (d, .index index)
  | .sourceMap map => (d.withSourceMap map, .done)

/-- Makes calls one after the other. -/
def run (d : Draft) (calls : List Call) : Draft × List Reply := Call.makeAll step d calls

end Draft

end Coverage.Instrument
