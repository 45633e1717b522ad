import Coverage.CommandLine.Run

/-!
# Commands that read documents

On a disk that is held in memory a command that only reads comes to a result and leaves the disk as
it is (`Reads`). Reading the documents of several snapshots comes to what merging them in the order
of their paths comes to (`reads_readSnapshots`); `mergeInto_cons_iff` says so for a result that
is no failure.
-/

namespace Coverage.CommandLine

variable {α β : Type} {d : Disk} {path : String} {paths : List String} {s t u : Snapshot}
  {x : Step (StateM Disk) α} {f : α → Step (StateM Disk) β}

/-- The steps `x` come to `r` on a disk and leave it as it is. -/
def Reads (d : Disk) (x : Step (StateM Disk) α) (r : Except Failure α) : Prop :=
  x.run.run d = (r, d)

theorem Reads.bind {a : α} {r : Except Failure β} (hx : Reads d x (.ok a)) (hf : Reads d (f a) r) :
    Reads d (x >>= f) r := by
  rw [Reads, ExceptT.run_bind, StateT.run_bind, hx]
  exact hf

theorem Reads.bind_error {e : Failure} (hx : Reads d x (.error e)) :
    Reads d (x >>= f) (.error e) := by
  rw [Reads, ExceptT.run_bind, StateT.run_bind, hx]
  rfl

theorem Reads.unique {r r' : Except Failure α} (h : Reads d x r) (h' : Reads d x r') : r = r' :=
  congrArg Prod.fst (h.symm.trans h')

theorem reads_expect (d : Disk) (r : Except Error α) :
    Reads d (expect r) (r.mapError .ofError) := by
  cases r <;> rfl

/-- What the document at a path of a disk holds. -/
def Disk.snapshot (d : Disk) (path : String) : Except Failure Snapshot :=
  match d.read path with
  | .error fault => .error (.ofError (.file fault))
  | .ok bytes => ((Snapshot.ofDocument bytes).mapError (.inDocument path)).mapError .ofError

theorem reads_readSnapshot (d : Disk) (path : String) :
    Reads d (readSnapshot .inMemory path) (d.snapshot path) := by
  have hread : Reads d (liftM (Files.inMemory.read path)) (.ok (d.read path)) := rfl
  rw [readSnapshot, Disk.snapshot]
  cases h : d.read path with
  | error fault =>
    rw [h] at hread
    exact hread.bind (.bind_error rfl)
  | ok bytes =>
    rw [h] at hread
    exact hread.bind (.bind rfl (reads_expect d _))

theorem reads_readSnapshot_iff {r : Except Failure Snapshot} :
    Reads d (readSnapshot .inMemory path) r ↔ d.snapshot path = r :=
  ⟨(reads_readSnapshot d path).unique, fun h => h ▸ reads_readSnapshot d path⟩

/-- What the documents at several paths come to when they are merged into `s` one after the
other. -/
def Disk.mergeInto (d : Disk) (s : Snapshot) : List String → Except Failure Snapshot
  | [] => .ok s
  | path :: paths =>
    match d.snapshot path with
    | .error e => .error e
    | .ok t =>
      match s.merge t with
      | .error e => .error (.ofError (.inDocument path e))
      | .ok m => d.mergeInto m paths

theorem reads_readSnapshots (d : Disk) (paths : List String) (s : Snapshot) :
    Reads d (readSnapshots .inMemory paths s) (d.mergeInto s paths) := by
  induction paths generalizing s with
  | nil => rfl
  | cons path paths ih =>
    have hread := reads_readSnapshot d path
    rw [readSnapshots, Disk.mergeInto]
    cases ht : d.snapshot path with
    | error e =>
      rw [ht] at hread
      exact hread.bind_error
    | ok t =>
      rw [ht] at hread
      refine hread.bind ?_
      dsimp only
      have hmerge := reads_expect d ((s.merge t).mapError (.inDocument path))
      cases hm : s.merge t with
      | error e =>
        rw [hm] at hmerge
        exact hmerge.bind_error
      | ok m =>
        rw [hm] at hmerge
        exact hmerge.bind (ih m)

theorem reads_readSnapshots_iff {r : Except Failure Snapshot} :
    Reads d (readSnapshots .inMemory paths s) r ↔ d.mergeInto s paths = r :=
  ⟨(reads_readSnapshots d paths s).unique, fun h => h ▸ reads_readSnapshots d paths s⟩

theorem mergeInto_cons_iff :
    d.mergeInto s (path :: paths) = .ok u ↔
      ∃ t m, d.snapshot path = .ok t ∧ s.merge t = .ok m ∧ d.mergeInto m paths = .ok u := by
  rw [Disk.mergeInto]
  cases ht : d.snapshot path with
  | error e => simp
  | ok t => cases hm : s.merge t <;> simp [hm]

end Coverage.CommandLine
