import Coverage.Snapshot.Json

/-!
# The coverage of a running process

A registry holds the coverage objects that the programs of one process have registered and count
in. A program that is loaded again keeps its hits as long as it has the same hash.

The main statement is `Registry.find?_register_other`: a registration leaves other files alone.
-/

namespace Coverage

/-- A registered coverage object. -/
structure Registered where
  hash : String
  record : FileRecord
  deriving DecidableEq, Inhabited

/-- What a registration did. -/
inductive Registration where
  /-- The file was not there yet. -/
  | created
  /-- The file was there with the same hash and kept its hits. -/
  | reused
  /-- The file was there with another hash and was replaced. -/
  | replaced
  deriving DecidableEq, Inhabited, Repr

/-- The coverage objects of a process by path, in the order in which the paths were first
registered. -/
structure Registry where
  objects : List (String × Registered)
  deriving DecidableEq, Inhabited

namespace Registry

/-- The registry of a process that has not registered anything. -/
def empty : Registry := ⟨[]⟩

/-- The coverage object of a path, with its hash. -/
def object? (r : Registry) (path : String) : Option Registered := r.objects.lookup path

/-- The record of a path. -/
def find? (r : Registry) (path : String) : Option FileRecord := (r.object? path).map (·.record)

/-- Puts an object at a path: in place of the one that is there, or at the end. -/
def putAt (path : String) (o : Registered) : List (String × Registered) → List (String × Registered)
  | [] => [(path, o)]
  | (k, old) :: rest => if k = path then (k, o) :: rest else (k, old) :: putAt path o rest

/-- The registry with an object at a path. -/
def put (r : Registry) (path : String) (o : Registered) : Registry := ⟨putAt path o r.objects⟩

/-- Registers a record under its path. -/
def register (r : Registry) (hash : String) (record : FileRecord) : Registration × Registry :=
  match r.object? record.path with
  | none => (.created, r.put record.path ⟨hash, record⟩)
  | some o =>
    if o.hash = hash then (.reused, r) else (.replaced, r.put record.path ⟨hash, record⟩)

/-- Changes the record of a path that is expected to be there. -/
def change (r : Registry) (path : String) (f : FileRecord → Except Error FileRecord) :
    Except Error Registry :=
  match r.object? path with
  | none => .error (.notFound path)
  | some o => do return r.put path { o with record := ← f o.record }

/-- Counts a statement once more. -/
def hitStatement (r : Registry) (path : String) (id : Id) : Except Error Registry :=
  r.change path fun record =>
    match record.statementHits.get? id with
    | some hits => .ok { record with statementHits := record.statementHits.insert id (hits + 1) }
    | none => .error (.noStatement path id)

/-- Counts a function once more. -/
def hitFunction (r : Registry) (path : String) (id : Id) : Except Error Registry :=
  r.change path fun record =>
    match record.functionHits.get? id with
    | some hits => .ok { record with functionHits := record.functionHits.insert id (hits + 1) }
    | none => .error (.noFunction path id)

/-- Counts an outcome of a branch once more. -/
def hitOutcome (r : Registry) (path : String) (branch : Id) (outcome : Nat) :
    Except Error Registry :=
  r.change path fun record =>
    match record.branchHits.get? branch with
    | none => .error (.noOutcome path branch outcome)
    | some counts =>
      match counts[outcome]? with
      | none => .error (.noOutcome path branch outcome)
      | some hits => .ok { record with
          branchHits := record.branchHits.insert branch (counts.set outcome (hits + 1)) }

/-- The records of all files. -/
def snapshot (r : Registry) : Snapshot := .ofRecords (r.objects.map fun e => e.2.record)

/-- The text of the snapshot. -/
def text (r : Registry) : String := r.snapshot.text

theorem lookup_putAt_of_ne {path other : String} (o : Registered) (l : List (String × Registered))
    (h : other ≠ path) : (putAt path o l).lookup other = l.lookup other := by
  induction l with
  | nil => simp [putAt, List.lookup_cons, beq_eq_false_iff_ne.2 h]
  | cons e rest ih =>
    obtain ⟨k, old⟩ := e
    simp only [putAt]
    split
    · rename_i hk
      subst hk
      simp [List.lookup_cons, beq_eq_false_iff_ne.2 h]
    · simp only [List.lookup_cons, ih]

/-- A registration leaves other files alone. -/
theorem find?_register_other (r : Registry) (hash : String) (record : FileRecord) {path : String}
    (h : path ≠ record.path) : (r.register hash record).2.find? path = r.find? path := by
  unfold register
  split
  · simp [find?, object?, put, lookup_putAt_of_ne _ _ h]
  · split
    · rfl
    · simp [find?, object?, put, lookup_putAt_of_ne _ _ h]

end Registry

end Coverage
