import Coverage.Proofs.FileRecord.Merge

/-!
# Merging into a record that is changed in place

A merge can write to the record that is merged into, entry by entry, and then one that gives up
halfway would leave some entries written. `mergeInPlace` is the merge in that form: each of its
steps changes the record or fails, and a failure keeps what has been written so far.

The main results are `run_mergeInPlace`, by which nothing has been written when the merge fails and
all that `merge` gives when it does not, and `mergeInPlace_spec`, by which a valid record stays
valid through any sequence of merges and resets.
-/

namespace Coverage.FileRecord

/-! ### The steps -/

/-- Writes a statement of `other` that was hit so often. -/
def writeStatement (other : FileRecord) (id : Id) (hits : UInt64) (r : FileRecord) : FileRecord :=
  { r with
    statements := adopt r.statements other.statements [id]
    statementHits := r.statementHits.alter id fun old => old.getD 0 + hits }

/-- Writes a function of `other` that was hit so often. -/
def writeFunction (other : FileRecord) (id : Id) (hits : UInt64) (r : FileRecord) : FileRecord :=
  { r with
    functions := adopt r.functions other.functions [id]
    functionHits := r.functionHits.alter id fun old => old.getD 0 + hits }

/-- Writes a branch of `other` whose outcomes were hit so often. -/
def writeBranch (other : FileRecord) (id : Id) (counts : List UInt64) (r : FileRecord) :
    FileRecord :=
  match r.branchHits.get? id with
  | some mine => { r with branchHits := r.branchHits.insert id (addCounts mine counts) }
  | none =>
    { r with
      branches :=
        match other.branches.get? id with
        | some entry => r.branches.insert id entry
        | none => r.branches
      branchHits := r.branchHits.insert id counts }

/-- Writes all that `other` has, one entry after the other. -/
def writeEntries (other : FileRecord) : EStateM Error FileRecord Unit := do
  forM other.statementHits.entries fun e => modify (writeStatement other e.1 e.2)
  forM other.functionHits.entries fun e => modify (writeFunction other e.1 e.2)
  forM other.branchHits.entries fun e => modify (writeBranch other e.1 e.2)
  modify fun r => { r with sourceMap := r.sourceMap.or other.sourceMap }

/-- Merges `other` into the record. -/
def mergeInPlace (other : FileRecord) : EStateM Error FileRecord Unit := do
  let mine ← get
  if mine.path ≠ other.path then
    throw (.pathsDiffer mine.path other.path)
  else if other.unexecuted then
    return
  else if mine.unexecuted then
    set other
  else
    match mine.conflict? other with
    | some (id, expected, found) => throw (.branchShapesDiffer mine.path id expected found)
    | none => writeEntries other

/-! ### What the loops write -/

/-- A loop that only writes does not fail. -/
theorem run_forM_modify {α : Type} (f : α → FileRecord → FileRecord) (l : List α) (r : FileRecord) :
    (forM l fun a => (modify (f a) : EStateM Error FileRecord Unit)).run r =
      .ok () (l.foldl (fun r a => f a r) r) := by
  induction l generalizing r with
  | nil => rfl
  | cons a l ih => exact ih (f a r)

section Loops

variable (other : FileRecord)

theorem foldl_writeStatement (l : List (Id × UInt64)) (r : FileRecord) :
    l.foldl (fun r e => writeStatement other e.1 e.2 r) r =
      { r with
        statements := adopt r.statements other.statements (l.map (·.1))
        statementHits := l.foldl (fun t e => t.alter e.1 fun old => old.getD 0 + e.2)
          r.statementHits } := by
  induction l generalizing r with
  | nil => rfl
  | cons e l ih => exact ih (writeStatement other e.1 e.2 r)

theorem foldl_writeFunction (l : List (Id × UInt64)) (r : FileRecord) :
    l.foldl (fun r e => writeFunction other e.1 e.2 r) r =
      { r with
        functions := adopt r.functions other.functions (l.map (·.1))
        functionHits := l.foldl (fun t e => t.alter e.1 fun old => old.getD 0 + e.2)
          r.functionHits } := by
  induction l generalizing r with
  | nil => rfl
  | cons e l ih => exact ih (writeFunction other e.1 e.2 r)

/-! ### The loop over the branches -/

variable (id : Id) (counts : List UInt64) (r : FileRecord)

/-- A branch is written to the tables of the branches only. -/
theorem writeBranch_eq :
    writeBranch other id counts r =
      { r with
        branches := (writeBranch other id counts r).branches
        branchHits := (writeBranch other id counts r).branchHits } := by
  rw [writeBranch]
  cases r.branchHits.get? id <;> rfl

theorem branchHits_writeBranch :
    (writeBranch other id counts r).branchHits =
      r.branchHits.alter id fun old => (old.map (addCounts · counts)).getD counts := by
  rw [writeBranch, Table.alter]
  cases r.branchHits.get? id <;> rfl

theorem get?_branches_writeBranch (k : Id) :
    (writeBranch other id counts r).branches.get? k =
      if id = k ∧ r.branchHits.get? k = none then
        (other.branches.get? k).or (r.branches.get? k)
      else r.branches.get? k := by
  rw [writeBranch]
  by_cases hk : id = k
  · subst hk
    cases r.branchHits.get? id with
    | some mine => simp
    | none => cases other.branches.get? id <;> simp [Table.get?_insert]
  · cases r.branchHits.get? id with
    | some mine => simp [hk]
    | none => cases other.branches.get? id <;> simp [Table.get?_insert, hk]

theorem foldl_writeBranch_eq (l : List (Id × List UInt64)) :
    l.foldl (fun r e => writeBranch other e.1 e.2 r) r =
      { r with
        branches := (l.foldl (fun r e => writeBranch other e.1 e.2 r) r).branches
        branchHits := (l.foldl (fun r e => writeBranch other e.1 e.2 r) r).branchHits } := by
  induction l generalizing r with
  | nil => rfl
  | cons e l ih =>
    rw [List.foldl_cons]
    refine (ih (writeBranch other e.1 e.2 r)).trans ?_
    rw [writeBranch_eq]

theorem branchHits_foldl_writeBranch (l : List (Id × List UInt64)) :
    (l.foldl (fun r e => writeBranch other e.1 e.2 r) r).branchHits =
      l.foldl (fun t e => t.alter e.1 fun old => (old.map (addCounts · e.2)).getD e.2)
        r.branchHits := by
  induction l generalizing r with
  | nil => rfl
  | cons e l ih =>
    rw [List.foldl_cons, List.foldl_cons, ih, branchHits_writeBranch]

/-- Whether a branch is new is asked when its turn comes. As no id has two turns, the answer is that
of the record before the loop. -/
theorem get?_branches_foldl_writeBranch {l : List (Id × List UInt64)} (hl : (l.map (·.1)).Nodup)
    (k : Id) :
    (l.foldl (fun r e => writeBranch other e.1 e.2 r) r).branches.get? k =
      if k ∈ l.map (·.1) ∧ r.branchHits.get? k = none then
        (other.branches.get? k).or (r.branches.get? k)
      else r.branches.get? k := by
  induction l generalizing r with
  | nil => simp
  | cons e l ih =>
    obtain ⟨hnew, hl⟩ := List.nodup_cons.1 hl
    rw [List.foldl_cons, ih _ hl, get?_branches_writeBranch]
    simp only [List.map_cons, List.mem_cons]
    by_cases hk : e.1 = k
    · subst hk
      simp [hnew]
    · have hhits : (writeBranch other e.1 e.2 r).branchHits.get? k = r.branchHits.get? k := by
        rw [branchHits_writeBranch, Table.get?_alter, if_neg hk]
      have hne : ¬ k = e.1 := fun heq => hk heq.symm
      rw [hhits]
      simp only [hk, hne, false_and, false_or, if_false]

end Loops

theorem foldl_writeBranch (mine other : FileRecord) :
    other.branchHits.entries.foldl (fun r e => writeBranch other e.1 e.2 r) mine =
      { mine with
        branches := adoptBranches mine other
        branchHits := addBranchHits mine.branchHits other.branchHits } := by
  rw [foldl_writeBranch_eq]
  congr 1
  · refine Table.ext_get? fun id => ?_
    rw [get?_branches_foldl_writeBranch other mine (Table.nodup_keys other.branchHits),
      get?_adoptBranches_if]
    rfl
  · refine Table.ext_get? fun id => ?_
    rw [branchHits_foldl_writeBranch, get?_addBranchHits]
    exact Table.get?_foldl_alter
      (fun counts old => (old.map (addCounts · counts)).getD counts) _ _ id

/-- The loops write the tables of a merged record. -/
theorem run_writeEntries (mine other : FileRecord) :
    (writeEntries other).run mine = .ok ()
      { mine with
        statements := adopt mine.statements other.statements other.statementHits.keys
        functions := adopt mine.functions other.functions other.functionHits.keys
        branches := adoptBranches mine other
        statementHits := addHits mine.statementHits other.statementHits
        functionHits := addHits mine.functionHits other.functionHits
        branchHits := addBranchHits mine.branchHits other.branchHits
        sourceMap := mine.sourceMap.or other.sourceMap } := by
  simp only [writeEntries, EStateM.run_bind, run_forM_modify, foldl_writeStatement,
    foldl_writeFunction, foldl_writeBranch]
  rfl

/-! ### A merge in place is a merge -/

/-- A merge in place fails when the merge fails, and then the record is as it was before. Otherwise
it leaves what the merge gives. -/
theorem run_mergeInPlace (mine other : FileRecord) :
    (mergeInPlace other).run mine =
      match mine.merge other with
      | .ok r => .ok () r
      | .error e => .error e mine := by
  by_cases hpath : mine.path = other.path
  · cases hother : other.unexecuted with
    | true => simp [merge_unexecuted hpath hother, mergeInPlace, hpath, hother]
    | false =>
      cases hmine : mine.unexecuted with
      | true => simp [unexecuted_merge hpath hmine hother, mergeInPlace, hpath, hmine, hother]
      | false =>
        cases hconflict : mine.conflict? other with
        | some e =>
          obtain ⟨id, expected, found⟩ := e
          simp [merge_eq_error hpath hmine hother hconflict, mergeInPlace, hpath, hmine, hother,
            hconflict]
        | none =>
          simp [merge_eq_ok hpath hmine hother hconflict, mergeInPlace, hpath, hmine, hother,
            hconflict, run_writeEntries]
  · simp [merge_paths_differ hpath, mergeInPlace, hpath]

/-! ### What a merge keeps -/

/-- `r` has the ids of `a` and `b`, with the descriptions of `a` and, for new ids, those of `b`. -/
structure Unites (r a b : FileRecord) : Prop where
  statement_ids : ∀ id, id ∈ r.statementHits.keys ↔
    id ∈ a.statementHits.keys ∨ id ∈ b.statementHits.keys
  function_ids : ∀ id, id ∈ r.functionHits.keys ↔
    id ∈ a.functionHits.keys ∨ id ∈ b.functionHits.keys
  branch_ids : ∀ id, id ∈ r.branchHits.keys ↔ id ∈ a.branchHits.keys ∨ id ∈ b.branchHits.keys
  statements : ∀ id, r.statements.get? id = (a.statements.get? id).or (b.statements.get? id)
  functions : ∀ id, r.functions.get? id = (a.functions.get? id).or (b.functions.get? id)
  branches : ∀ id, r.branches.get? id = (a.branches.get? id).or (b.branches.get? id)

section Merge

variable {a b r : FileRecord}

theorem findSome?_pair {α β : Type} (f : α → Option β) (x y : α) :
    [x, y].findSome? f = (f x).or (f y) := by
  rw [List.findSome?_cons, List.findSome?_singleton]
  cases f x <;> rfl

theorem mem_keys_of_or {α : Type} {t t₁ t₂ : Table α}
    (h : ∀ id, t.get? id = (t₁.get? id).or (t₂.get? id)) (id : Id) :
    id ∈ t.keys ↔ id ∈ t₁.keys ∨ id ∈ t₂.keys := by
  simp only [Table.mem_keys_iff, ← Option.isSome_iff_exists, h, Option.isSome_or, Bool.or_eq_true]

theorem Combination.unites (h : Combination r [a, b]) (ha : a.Sound) (hb : b.Sound) :
    Unites r a b := by
  have hstatements : ∀ id, r.statements.get? id =
      (a.statements.get? id).or (b.statements.get? id) :=
    fun id => (h.statements id).trans (findSome?_pair ..)
  have hfunctions : ∀ id, r.functions.get? id =
      (a.functions.get? id).or (b.functions.get? id) :=
    fun id => (h.functions id).trans (findSome?_pair ..)
  have hbranches : ∀ id, r.branches.get? id =
      (a.branches.get? id).or (b.branches.get? id) :=
    fun id => (h.branches id).trans (findSome?_pair ..)
  constructor
  case statements => exact hstatements
  case functions => exact hfunctions
  case branches => exact hbranches
  case statement_ids =>
    rw [h.sound.statements, ha.statements, hb.statements]
    exact mem_keys_of_or hstatements
  case function_ids =>
    rw [h.sound.functions, ha.functions, hb.functions]
    exact mem_keys_of_or hfunctions
  case branch_ids =>
    rw [h.sound.branches, ha.branches, hb.branches]
    exact mem_keys_of_or hbranches

theorem outcome_merge (hpath : a.path = b.path) (ha : a.Sound) (hb : b.Sound) :
    Grouping.Outcome a.path [a, b] (a.merge b) := by
  refine (Grouping.both (.one a) (.one b)).outcome ?_ ?_
  · exact List.forall_mem_cons.2 ⟨rfl, List.forall_mem_singleton.2 hpath.symm⟩
  · exact List.forall_mem_cons.2 ⟨ha, List.forall_mem_singleton.2 hb⟩

/-- Merging sound records fails if they are records of two files, or if both were executed and
disagree on a branch. -/
theorem merge_error_iff (ha : a.Sound) (hb : b.Sound) :
    (∃ e, a.merge b = .error e) ↔ a.path ≠ b.path ∨ ShapesDisagree (executed [a, b]) := by
  by_cases hpath : a.path = b.path
  · have hout := outcome_merge hpath ha hb
    rw [← hout.error_iff]
    constructor
    · rintro ⟨e, he⟩
      rw [he] at hout ⊢
      cases hout with
      | disagreed id expected found h => exact .inr ⟨id, expected, found, rfl⟩
    · rintro (hne | ⟨id, expected, found, he⟩)
      · exact absurd hpath hne
      · exact ⟨_, he⟩
  · exact ⟨fun _ => .inl hpath, fun _ => ⟨_, merge_paths_differ hpath⟩⟩

/-- A merge gives a sound record, with the ids of both records where both were executed. -/
theorem sound_merge (ha : a.Sound) (hb : b.Sound) (h : a.merge b = .ok r) :
    r.Sound ∧ (a.unexecuted = false → b.unexecuted = false → Unites r a b) := by
  by_cases hpath : a.path = b.path
  · have hout := outcome_merge hpath ha hb
    rw [h] at hout
    cases hout with
    | leftmost _ _ hun hnone hhead =>
      cases hhead
      exact ⟨ha, fun hrun _ => absurd hun (by rw [hrun]; exact Bool.false_ne_true)⟩
    | combined _ _ _ hr =>
      refine ⟨hr.sound, fun hrun hrun' => ?_⟩
      have hexecuted : executed [a, b] = [a, b] := by simp [executed, hrun, hrun']
      exact Combination.unites (hexecuted ▸ hr) ha hb
  · rw [merge_paths_differ hpath] at h
    cases h

theorem validate_merge (ha : a.validate = .ok ()) (hb : b.validate = .ok ())
    (h : a.merge b = .ok r) : r.validate = .ok () := by
  obtain ⟨hnamed, ha⟩ := validate_eq_ok_iff.1 ha
  refine validate_eq_ok_iff.2 ⟨?_, (sound_merge ha (.of_validate hb) h).1⟩
  rw [path_of_merge h]
  exact hnamed

end Merge

/-! ### Sequences of changes -/

theorem Sound.resetHits {r : FileRecord} (h : r.Sound) : r.resetHits.Sound where
  statements := (Table.keys_map ..).trans h.statements
  functions := (Table.keys_map ..).trans h.functions
  branches := (Table.keys_map ..).trans h.branches
  outcomes id counts hcounts := by
    have hmap : (r.branchHits.map fun counts => counts.map fun _ => 0).get? id = some counts :=
      hcounts
    rw [Table.get?_map, Option.map_eq_some_iff] at hmap
    obtain ⟨old, hold, rfl⟩ := hmap
    rw [List.length_map]
    exact h.outcomes id old hold

theorem validate_resetHits {r : FileRecord} (h : r.validate = .ok ()) :
    r.resetHits.validate = .ok () := by
  obtain ⟨hnamed, h⟩ := validate_eq_ok_iff.1 h
  exact validate_eq_ok_iff.2 ⟨hnamed, h.resetHits⟩

/-- What can be done to a record. -/
inductive Change where
  | merge (other : FileRecord)
  | reset

namespace Change

/-- The record that a change leaves, whether it fails or not. -/
def apply (r : FileRecord) : Change → FileRecord
  | merge other =>
    match (mergeInPlace other).run r with
    | .ok _ left => left
    | .error _ left => left
  | reset => r.resetHits

/-- Only valid records are merged in. -/
def Valid : Change → Prop
  | merge other => other.validate = .ok ()
  | reset => True

variable {r : FileRecord}

/-- A valid record stays a valid record of its file. -/
theorem validate_apply (hr : r.validate = .ok ()) {c : Change} (hc : c.Valid) :
    (apply r c).validate = .ok () ∧ (apply r c).path = r.path := by
  cases c with
  | reset => exact ⟨validate_resetHits hr, rfl⟩
  | merge other =>
    rw [apply, run_mergeInPlace]
    cases hm : r.merge other with
    | error e => exact ⟨hr, rfl⟩
    | ok left => exact ⟨validate_merge hr hc hm, path_of_merge hm⟩

theorem validate_foldl_apply (hr : r.validate = .ok ()) {cs : List Change}
    (hcs : ∀ c ∈ cs, c.Valid) :
    (cs.foldl apply r).validate = .ok () ∧ (cs.foldl apply r).path = r.path := by
  induction cs generalizing r with
  | nil => exact ⟨hr, rfl⟩
  | cons c cs ih =>
    obtain ⟨hc, hcs⟩ := List.forall_mem_cons.1 hcs
    obtain ⟨hvalid, hpath⟩ := validate_apply hr hc
    obtain ⟨hvalid', hpath'⟩ := ih hvalid hcs
    exact ⟨hvalid', hpath'.trans hpath⟩

end Change

/-- A merge of valid records in place fails if they are records of two files, or if both were
executed and disagree on a branch, and then the record is as it was before. Otherwise it leaves a
valid record of the same file; where both were executed it has the ids of both, and of each id the
description that was there already or else that of the other record. A valid record stays valid
when its counters are reset, and so through any sequence of merges and resets. -/
theorem mergeInPlace_spec {a b : FileRecord} (ha : a.validate = .ok ())
    (hb : b.validate = .ok ()) :
    ((∃ e, a.merge b = .error e) ↔ a.path ≠ b.path ∨ ShapesDisagree (executed [a, b])) ∧
    (∀ e, a.merge b = .error e → (mergeInPlace b).run a = .error e a) ∧
    (∀ r, a.merge b = .ok r → (mergeInPlace b).run a = .ok () r ∧ r.validate = .ok () ∧
      r.path = a.path ∧ (a.unexecuted = false → b.unexecuted = false → Unites r a b)) ∧
    a.resetHits.validate = .ok () ∧
    ∀ cs : List Change, (∀ c ∈ cs, c.Valid) → (cs.foldl Change.apply a).validate = .ok () := by
  have hsound := Sound.of_validate ha
  have hsound' := Sound.of_validate hb
  refine ⟨merge_error_iff hsound hsound', fun e he => ?_, fun r hr => ?_, validate_resetHits ha,
    fun cs hcs => (Change.validate_foldl_apply ha hcs).1⟩
  · rw [run_mergeInPlace, he]
  · refine ⟨?_, validate_merge ha hb hr, path_of_merge hr, (sound_merge hsound hsound' hr).2⟩
    rw [run_mergeInPlace, hr]

/-- A file with one branch whose outcomes were hit so often. -/
def oneBranch (path : String) (id : Id) (counts : List UInt64) : FileRecord :=
  { FileRecord.empty path with
    branches := Table.empty.insert id ⟨none, .ifElse, counts.map fun _ => default, none⟩
    branchHits := Table.empty.insert id counts }

/-- A branch of two outcomes. -/
def twoOutcomes : FileRecord := oneBranch "a.js" 0 [1, 0]

/-- The branch of `twoOutcomes` with one outcome more. -/
def threeOutcomes : FileRecord := oneBranch "a.js" 0 [0, 0, 4]

/-- Another branch of the same file. -/
def otherBranch : FileRecord := oneBranch "a.js" 7 [2]

theorem mergeInPlace_spec_oneBranch :
    twoOutcomes.validate = .ok () ∧ threeOutcomes.validate = .ok () ∧
      otherBranch.validate = .ok () ∧
      (∃ e, (mergeInPlace threeOutcomes).run twoOutcomes = .error e twoOutcomes) ∧
      (∃ r, (mergeInPlace otherBranch).run twoOutcomes = .ok () r ∧ r.validate = .ok () ∧
        0 ∈ r.branchHits.keys ∧ 7 ∈ r.branchHits.keys) ∧
      ([.merge threeOutcomes, .reset, .merge otherBranch].foldl Change.apply
        twoOutcomes).validate = .ok () := by
  have hmine : twoOutcomes.validate = .ok () := rfl
  have hother : threeOutcomes.validate = .ok () := rfl
  have hnew : otherBranch.validate = .ok () := rfl
  obtain ⟨hfails, hleft, -, -, hrun⟩ := mergeInPlace_spec hmine hother
  obtain ⟨-, -, hmerged, -, -⟩ := mergeInPlace_spec hmine hnew
  refine ⟨hmine, hother, hnew, ?_, ?_, ?_⟩
  · have hdisagree : ShapesDisagree (executed [twoOutcomes, threeOutcomes]) :=
      ⟨_, List.mem_cons_self, _, List.mem_cons_of_mem _ List.mem_cons_self, 0, by decide,
        by decide, by decide⟩
    obtain ⟨e, he⟩ := hfails.2 (.inr hdisagree)
    exact ⟨e, hleft e he⟩
  · obtain ⟨r, hr⟩ : ∃ r, twoOutcomes.merge otherBranch = .ok r := ⟨_, rfl⟩
    obtain ⟨hrun, hvalid, -, hunites⟩ := hmerged r hr
    have hids := (hunites rfl rfl).branch_ids
    exact ⟨r, hrun, hvalid, (hids 0).2 (.inl (by decide)), (hids 7).2 (.inr (by decide))⟩
  · apply hrun
    intro c hc
    simp only [List.mem_cons, List.not_mem_nil, or_false] at hc
    rcases hc with rfl | rfl | rfl
    · exact hother
    · trivial
    · exact hnew

end Coverage.FileRecord
