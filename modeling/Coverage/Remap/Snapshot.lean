import Coverage.Remap.Accumulator
import Coverage.Remap.Range
import Coverage.Snapshot.Basic

/-!
# Moving a snapshot onto its sources

The records of files with a source map are taken apart and their entries collected in the records
of the sources; the records of other files are carried over. Two names of a source that differ
only in the kind of slash mean one source.
-/

namespace Coverage.Remap

open Coverage.SourceMap (Consumer)

/-- The records of sources collected so far, each under the name that identifies it, in the order
in which they were first reached. -/
abbrev Sources := List (String × FileRecord)

/-- The name that identifies a source whichever slashes it is written with. -/
def sourceKey (path : String) : String :=
  String.ofList (path.toList.map fun c => if c = '\\' then '/' else c)

/-- Changes the record of a source, starting from an empty one if there is none yet. -/
def updateAt (key path : String) (f : FileRecord → FileRecord) : Sources → Sources
  | [] => [(key, f (.empty path))]
  | (k, r) :: rest => if k = key then (k, f r) :: rest else (k, r) :: updateAt key path f rest

/-- Changes the record of a source. -/
def update (path : String) (f : FileRecord → FileRecord) (out : Sources) : Sources :=
  updateAt (sourceKey path) path f out

/-- Adds the entries of a record to another record of the same source. -/
def foldIn (r : FileRecord) (target : FileRecord) : FileRecord :=
  let target := r.statements.entries.foldl (fun t e =>
    (t.addStatement e.2 ((r.statementHits.get? e.1).getD 0)).1) target
  let target := r.functions.entries.foldl (fun t e =>
    (t.addFunction e.2.name e.2.decl e.2.body ((r.functionHits.get? e.1).getD 0)).1) target
  r.branches.entries.foldl (fun t e =>
    match e.2.range.or e.2.outcomes.head?, r.branchHits.get? e.1 with
    | some range, some hits => (t.addBranch e.2.kind range e.2.outcomes hits).1
    | _, _ => t) target

/-- Carries a record over: as it is, or into what is collected for its path already. -/
def carryOver (r : FileRecord) (out : Sources) : Sources :=
  let key := sourceKey r.path
  match out.lookup key with
  | some _ => updateAt key r.path (foldIn r) out
  | none => out ++ [(key, r)]

/-- Moves the statements of a record. -/
def moveStatements (m : Consumer) (r : FileRecord) (out : Sources) : Sources :=
  r.statements.entries.foldl (fun out e =>
    match sourceRange? m r.path e.2 with
    | some moved =>
      update moved.source (fun t =>
        (t.addStatement moved.range ((r.statementHits.get? e.1).getD 0)).1) out
    | none => out) out

/-- Moves the functions of a record whose declaration and body come from one source. -/
def moveFunctions (m : Consumer) (r : FileRecord) (out : Sources) : Sources :=
  r.functions.entries.foldl (fun out e =>
    match sourceRange? m r.path e.2.decl, sourceRange? m r.path e.2.body with
    | some decl, some body =>
      if decl.source = body.source then
        update decl.source (fun t =>
          (t.addFunction e.2.name decl.range body.range ((r.functionHits.get? e.1).getD 0)).1) out
      else out
    | _, _ => out) out

/-- The ranges that the outcomes of a branch come from, where all of them come from one source. -/
def movedOutcomes? (m : Consumer) (file : String) (b : BranchEntry) :
    Option (String × Location × List Location) := do
  let outcomes ← b.outcomes.mapM (sourceRange? m file)
  let first ← outcomes.head?
  if outcomes.all fun o => o.source = first.source then
    return (first.source, first.range, outcomes.map (·.range))
  else none

/-- The range that a branch itself comes from, if that lies in `source`. -/
def movedBranchRange? (m : Consumer) (file source : String) (b : BranchEntry) : Option Location := do
  let range ← b.range
  let moved ← sourceRange? m file range
  if moved.source = source then return moved.range else none

/-- Moves the branches of a record whose outcomes all come from one source. -/
def moveBranches (m : Consumer) (r : FileRecord) (out : Sources) : Sources :=
  r.branches.entries.foldl (fun out e =>
    match r.branchHits.get? e.1, movedOutcomes? m r.path e.2 with
    | some hits, some (source, first, outcomes) =>
      let range := (movedBranchRange? m r.path source e.2).getD first
      update source (fun t => (t.addBranch e.2.kind range outcomes hits).1) out
    | _, _ => out) out

/-- Moves every entry of a record. -/
def moveRecord (m : Consumer) (r : FileRecord) (out : Sources) : Sources :=
  moveBranches m r (moveFunctions m r (moveStatements m r out))

/-- Adds the record of a file with the source map that `find` has for it. -/
def addRecord (find : FileRecord → Option Consumer) (out : Sources) (r : FileRecord) : Sources :=
  match find r with
  | some m => moveRecord m r out
  | none => carryOver r out

/-- The snapshot moved onto its sources. -/
def onSources (find : FileRecord → Option Consumer) (s : Snapshot) : Snapshot :=
  .ofRecords ((s.files.foldl (addRecord find) []).map (·.2))

end Coverage.Remap
