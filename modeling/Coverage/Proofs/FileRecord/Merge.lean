import Coverage.Proofs.FileRecord.Validity
import Coverage.Snapshot.Basic
import Mathlib.Data.UInt

/-!
# What a merge of any number of records gives

A merged record is described by the list of executed records that went into it: a description is
the first one that the list has for its id, and a counter is the sum over the list. This relation,
`FileRecord.Combination`, is what one merge preserves, and it determines the record. The order and
the grouping of a sequence of merges therefore show in the order of that list only, and in the
counters not at all.
-/

namespace Coverage

/-! ### Adding counts -/

@[simp] theorem length_addCounts (ms os : List UInt64) :
    (addCounts ms os).length = ms.length := by
  induction ms generalizing os with
  | nil => cases os <;> rfl
  | cons m ms ih =>
    cases os with
    | nil => rfl
    | cons o os => simp [addCounts, ih]

theorem getD_addCounts {ms os : List UInt64} (h : os.length = ms.length) (j : Nat) :
    (addCounts ms os).getD j 0 = ms.getD j 0 + os.getD j 0 := by
  induction ms generalizing os j with
  | nil =>
    cases os with
    | nil => simp [addCounts]
    | cons o os => cases h
  | cons m ms ih =>
    cases os with
    | nil => cases h
    | cons o os =>
      cases j with
      | zero => rfl
      | succ j => simpa [addCounts] using ih (Nat.succ.inj h) j

theorem toNat_sum {l : List UInt64} (h : (l.map UInt64.toNat).sum < 2 ^ 64) :
    l.sum.toNat = (l.map UInt64.toNat).sum := by
  induction l with
  | nil => rfl
  | cons n l ih =>
    simp only [List.map_cons, List.sum_cons] at h ⊢
    rw [UInt64.toNat_add, ih (by omega)]
    exact Nat.mod_eq_of_lt h

namespace FileRecord

/-! ### The tables of a merged record -/

theorem get?_adopt {α : Type} (mine other : Table α) (ids : List Id) (id : Id) :
    (adopt mine other ids).get? id =
      (mine.get? id).or (if id ∈ ids then other.get? id else none) := by
  induction ids generalizing mine with
  | nil => simp [adopt]
  | cons k ids ih =>
    rw [adopt, List.foldl_cons, ← adopt, ih]
    by_cases hk : k = id
    · subst hk
      cases ho : other.get? k with
      | none => simp
      | some a => cases hm : mine.get? k <;> simp [Table.get?_insertIfNew, hm]
    · have hk' : ¬ id = k := fun h => hk h.symm
      cases ho : other.get? k with
      | none => simp [hk']
      | some a => simp [Table.get?_insertIfNew, hk, hk']

/-- Where the ids to look at are those of `other`, nothing that `other` describes is left out. -/
theorem get?_adopt_keys {α β : Type} (mine other : Table α) {hits : Table β}
    (h : hits.keys = other.keys) (id : Id) :
    (adopt mine other hits.keys).get? id = (mine.get? id).or (other.get? id) := by
  rw [get?_adopt, h]
  split
  · rfl
  · rename_i hid
    rw [Table.get?_eq_none_iff.2 hid]

theorem get?_addHits (mine other : Table UInt64) (id : Id) :
    (addHits mine other).get? id =
      ((other.get? id).map fun n => (mine.get? id).getD 0 + n).or (mine.get? id) :=
  Table.get?_foldl_alter (fun n old => old.getD 0 + n) mine other id

theorem get?_addBranchHits (mine other : Table (List UInt64)) (id : Id) :
    (addBranchHits mine other).get? id =
      ((other.get? id).map fun counts =>
        ((mine.get? id).map (addCounts · counts)).getD counts).or (mine.get? id) := by
  have h := Table.get?_foldl_alter
    (fun counts old => (old.map (addCounts · counts)).getD counts) mine other id
  rw [← h, addBranchHits]
  congr 2
  funext t e
  congr 1
  funext old
  cases old <;> rfl

theorem get?_adoptBranches_if (mine other : FileRecord) (id : Id) :
    (adoptBranches mine other).get? id =
      if id ∈ other.branchHits.keys ∧ mine.branchHits.get? id = none then
        (other.branches.get? id).or (mine.branches.get? id)
      else mine.branches.get? id := by
  unfold adoptBranches
  generalize other.branchHits.keys = ids
  generalize mine.branches = t
  induction ids generalizing t with
  | nil => simp
  | cons k ids ih =>
    rw [List.foldl_cons, ih]
    by_cases hk : k = id
    · subst hk
      cases hm : mine.branchHits.get? k with
      | some counts => simp
      | none => cases ho : other.branches.get? k <;> simp [Table.get?_insert]
    · have hk' : ¬ id = k := fun h => hk h.symm
      cases hm : mine.branchHits.get? k with
      | some counts => simp [hk']
      | none => cases ho : other.branches.get? k <;> simp [hk, hk', Table.get?_insert]

/-- A branch that only `other` has is taken over with its description. -/
theorem get?_adoptBranches {mine other : FileRecord} (hm : mine.Sound) (ho : other.Sound)
    (id : Id) :
    (adoptBranches mine other).get? id =
      (mine.branches.get? id).or (other.branches.get? id) := by
  rw [get?_adoptBranches_if, ho.branches]
  have hsome := hm.isSome_branch id
  cases hb : mine.branches.get? id with
  | some b =>
    rw [hb, Option.isSome_some, eq_comm, Option.isSome_iff_exists] at hsome
    obtain ⟨counts, hc⟩ := hsome
    simp [hc]
  | none =>
    rw [hb, Option.isSome_none, eq_comm, Option.isSome_eq_false_iff, Option.isNone_iff_eq_none]
      at hsome
    simp only [hsome, and_true, Option.or_none, Option.none_or]
    split
    · rfl
    · rename_i hid
      rw [Table.get?_eq_none_iff.2 hid]

/-! ### When two records fit together -/

/-- Two records of the list disagree on the number of outcomes of a branch that both have. -/
def ShapesDisagree (rs : List FileRecord) : Prop :=
  ∃ x ∈ rs, ∃ y ∈ rs, ∃ id, id ∈ x.branches.keys ∧ id ∈ y.branches.keys ∧
    x.outcomeCount id ≠ y.outcomeCount id

theorem ShapesDisagree.mono {rs ts : List FileRecord} (h : ∀ x ∈ rs, x ∈ ts)
    (hd : ShapesDisagree rs) : ShapesDisagree ts := by
  obtain ⟨x, hx, y, hy, hid⟩ := hd
  exact ⟨x, h x hx, y, h y hy, hid⟩

/-- The search for a conflict compares the branches that both records have. -/
theorem conflict?_eq_none_iff {a b : FileRecord} (ha : a.Sound) (hb : b.Sound) :
    a.conflict? b = none ↔
      ∀ id, id ∈ a.branches.keys → id ∈ b.branches.keys →
        a.outcomeCount id = b.outcomeCount id := by
  rw [conflict?, List.findSome?_eq_none_iff]
  constructor
  · intro h id hida hidb
    rw [← ha.branches, Table.mem_keys_iff] at hida
    rw [← hb.branches, Table.mem_keys_iff] at hidb
    obtain ⟨counts, hcounts⟩ := hida
    obtain ⟨found, hfound⟩ := hidb
    have hnone := h (id, found) (Table.get?_eq_some_iff.1 hfound)
    simp only [hcounts, ite_eq_right_iff, reduceCtorEq, imp_false, Decidable.not_not] at hnone
    rw [← ha.outcomes id counts hcounts, ← hb.outcomes id found hfound, hnone]
  · rintro h ⟨id, found⟩ hmem
    have hfound := Table.get?_eq_some_iff.2 hmem
    cases hcounts : a.branchHits.get? id with
    | none => simp only
    | some counts =>
      have heq := h id (ha.branches ▸ Table.mem_keys_iff.2 ⟨counts, hcounts⟩)
        (hb.branches ▸ Table.mem_keys_iff.2 ⟨found, hfound⟩)
      rw [← ha.outcomes id counts hcounts, ← hb.outcomes id found hfound] at heq
      simp [heq]

theorem merge_paths_differ {a b : FileRecord} (hpath : a.path ≠ b.path) :
    a.merge b = .error (.pathsDiffer a.path b.path) := by
  simp [merge, hpath, throw, throwThe, MonadExceptOf.throw, bind, Except.bind]

theorem merge_unexecuted {a b : FileRecord} (hpath : a.path = b.path)
    (hb : b.unexecuted = true) : a.merge b = .ok a := by
  simp [merge, hpath, hb, pure, Except.pure]

theorem unexecuted_merge {a b : FileRecord} (hpath : a.path = b.path)
    (ha : a.unexecuted = true) (hb : b.unexecuted = false) : a.merge b = .ok b := by
  simp [merge, hpath, ha, hb, pure, Except.pure]

/-- Two executed records of one file merge when the search finds no conflict. -/
theorem merge_eq_ok {a b : FileRecord} (hpath : a.path = b.path) (ha : a.unexecuted = false)
    (hb : b.unexecuted = false) (h : a.conflict? b = none) :
    a.merge b = .ok { a with
      statements := adopt a.statements b.statements b.statementHits.keys
      functions := adopt a.functions b.functions b.functionHits.keys
      branches := adoptBranches a b
      statementHits := addHits a.statementHits b.statementHits
      functionHits := addHits a.functionHits b.functionHits
      branchHits := addBranchHits a.branchHits b.branchHits
      sourceMap := a.sourceMap.or b.sourceMap } := by
  simp [merge, hpath, ha, hb, h, pure, Except.pure]

theorem merge_eq_error {a b : FileRecord} (hpath : a.path = b.path) (ha : a.unexecuted = false)
    (hb : b.unexecuted = false) {id : Id} {expected found : Nat}
    (h : a.conflict? b = some (id, expected, found)) :
    a.merge b = .error (.branchShapesDiffer a.path id expected found) := by
  simp [merge, hpath, ha, hb, h, throw, throwThe, MonadExceptOf.throw, bind, Except.bind]

/-- A branch keeps the outcomes that the first record with it has. -/
theorem outcomeCount_of_or {m a b : FileRecord} {id : Id}
    (h : m.branches.get? id = (a.branches.get? id).or (b.branches.get? id)) :
    m.outcomeCount id = if id ∈ a.branches.keys then a.outcomeCount id else b.outcomeCount id := by
  cases ha : a.branches.get? id with
  | some e =>
    rw [if_pos (Table.mem_keys_iff.2 ⟨e, ha⟩)]
    simp [outcomeCount, h, ha]
  | none =>
    rw [if_neg (Table.get?_eq_none_iff.1 ha)]
    simp [outcomeCount, h, ha]

/-! ### Combinations -/

/-- `r` is what the executed records `rs` give together. -/
structure Combination (r : FileRecord) (rs : List FileRecord) : Prop where
  sound : r.Sound
  executed : r.unexecuted = false
  path : ∀ x ∈ rs, x.path = r.path
  statements : ∀ id, r.statements.get? id = rs.findSome? (·.statements.get? id)
  functions : ∀ id, r.functions.get? id = rs.findSome? (·.functions.get? id)
  branches : ∀ id, r.branches.get? id = rs.findSome? (·.branches.get? id)
  shapes : ∀ x ∈ rs, ∀ id ∈ x.branches.keys, x.outcomeCount id = r.outcomeCount id
  counts : ∀ c, r.count c = (rs.map (·.count c)).sum
  sourceMap : r.sourceMap = rs.findSome? (·.sourceMap)

namespace Combination

variable {a b r : FileRecord} {as bs rs : List FileRecord}

/-- An executed record alone. -/
theorem single (h : r.Sound) (executed : r.unexecuted = false) : Combination r [r] where
  sound := h
  executed := executed
  path x hx := by rw [List.mem_singleton.1 hx]
  statements id := by simp
  functions id := by simp
  branches id := by simp
  shapes x hx id _ := by rw [List.mem_singleton.1 hx]
  counts c := by simp
  sourceMap := by simp

theorem mem_branches_iff (h : Combination r rs) {id : Id} :
    id ∈ r.branches.keys ↔ ∃ x ∈ rs, id ∈ x.branches.keys := by
  simp only [Table.mem_keys_iff, ← Option.isSome_iff_exists, h.branches id,
    List.findSome?_isSome_iff]

/-- The records in a combination agree on the branches. -/
theorem not_shapesDisagree (h : Combination r rs) : ¬ ShapesDisagree rs := by
  rintro ⟨x, hx, y, hy, id, hidx, hidy, hne⟩
  exact hne (by rw [h.shapes x hx id hidx, h.shapes y hy id hidy])

/-- Two combinations of one file fit together exactly when their records do. -/
theorem conflict?_eq_none_iff (ha : Combination a as) (hb : Combination b bs) :
    a.conflict? b = none ↔ ¬ ShapesDisagree (as ++ bs) := by
  rw [FileRecord.conflict?_eq_none_iff ha.sound hb.sound]
  constructor
  · intro h
    have hcross : ∀ x ∈ as, ∀ y ∈ bs, ∀ id, id ∈ x.branches.keys → id ∈ y.branches.keys →
        x.outcomeCount id = y.outcomeCount id := by
      intro x hx y hy id hidx hidy
      rw [ha.shapes x hx id hidx, hb.shapes y hy id hidy]
      exact h id (ha.mem_branches_iff.2 ⟨x, hx, hidx⟩) (hb.mem_branches_iff.2 ⟨y, hy, hidy⟩)
    rintro ⟨x, hx, y, hy, id, hidx, hidy, hne⟩
    rcases List.mem_append.1 hx with hx | hx <;> rcases List.mem_append.1 hy with hy | hy
    · exact ha.not_shapesDisagree ⟨x, hx, y, hy, id, hidx, hidy, hne⟩
    · exact hne (hcross x hx y hy id hidx hidy)
    · exact hne (hcross y hy x hx id hidy hidx).symm
    · exact hb.not_shapesDisagree ⟨x, hx, y, hy, id, hidx, hidy, hne⟩
  · intro h id hida hidb
    obtain ⟨x, hx, hidx⟩ := ha.mem_branches_iff.1 hida
    obtain ⟨y, hy, hidy⟩ := hb.mem_branches_iff.1 hidb
    rw [← ha.shapes x hx id hidx, ← hb.shapes y hy id hidy]
    apply Decidable.not_not.1
    intro hne
    exact h ⟨x, List.mem_append_left _ hx, y, List.mem_append_right _ hy, id, hidx, hidy, hne⟩

/-- What one merge preserves: the combination of two lists is the combination of their
concatenation. -/
theorem merge (ha : Combination a as) (hb : Combination b bs) (hpath : a.path = b.path)
    (h : a.conflict? b = none) : ∃ r, a.merge b = .ok r ∧ Combination r (as ++ bs) := by
  refine ⟨_, merge_eq_ok hpath ha.executed hb.executed h, ?_⟩
  have hagree := (FileRecord.conflict?_eq_none_iff ha.sound hb.sound).1 h
  have hlength : ∀ id mine theirs, a.branchHits.get? id = some mine →
      b.branchHits.get? id = some theirs → theirs.length = mine.length := by
    intro id mine theirs hm ht
    rw [ha.sound.outcomes id mine hm, hb.sound.outcomes id theirs ht]
    exact (hagree id (ha.sound.branches ▸ Table.mem_keys_iff.2 ⟨mine, hm⟩)
      (hb.sound.branches ▸ Table.mem_keys_iff.2 ⟨theirs, ht⟩)).symm
  have hstatements := get?_adopt_keys a.statements b.statements hb.sound.statements
  have hfunctions := get?_adopt_keys a.functions b.functions hb.sound.functions
  have hbranches := get?_adoptBranches ha.sound hb.sound
  constructor
  case sound =>
    constructor
    · refine Table.keys_eq_iff.2 fun id => ?_
      rw [get?_addHits, hstatements, Option.isSome_or, Option.isSome_or, Option.isSome_map,
        ha.sound.isSome_statement, hb.sound.isSome_statement, Bool.or_comm]
    · refine Table.keys_eq_iff.2 fun id => ?_
      rw [get?_addHits, hfunctions, Option.isSome_or, Option.isSome_or, Option.isSome_map,
        ha.sound.isSome_function, hb.sound.isSome_function, Bool.or_comm]
    · refine Table.keys_eq_iff.2 fun id => ?_
      rw [get?_addBranchHits, hbranches, Option.isSome_or, Option.isSome_or, Option.isSome_map,
        ha.sound.isSome_branch, hb.sound.isSome_branch, Bool.or_comm]
    · intro id counts hcounts
      rw [outcomeCount_of_or (hbranches id), ← ha.sound.branches]
      rw [get?_addBranchHits] at hcounts
      cases hm : a.branchHits.get? id with
      | some mine =>
        rw [if_pos (Table.mem_keys_iff.2 ⟨mine, hm⟩), ← ha.sound.outcomes id mine hm]
        cases ht : b.branchHits.get? id with
        | some theirs =>
          have hsum : addCounts mine theirs = counts := by simpa [hm, ht] using hcounts
          rw [← hsum, length_addCounts]
        | none =>
          have hmine : mine = counts := by simpa [hm, ht] using hcounts
          rw [hmine]
      | none =>
        rw [if_neg (Table.get?_eq_none_iff.1 hm)]
        exact hb.sound.outcomes id counts (by simpa [hm] using hcounts)
  case executed => exact ha.executed
  case path =>
    intro x hx
    rcases List.mem_append.1 hx with hx | hx
    · exact ha.path x hx
    · exact (hb.path x hx).trans hpath.symm
  case statements =>
    intro id
    rw [List.findSome?_append, ← ha.statements, ← hb.statements]
    exact hstatements id
  case functions =>
    intro id
    rw [List.findSome?_append, ← ha.functions, ← hb.functions]
    exact hfunctions id
  case branches =>
    intro id
    rw [List.findSome?_append, ← ha.branches, ← hb.branches]
    exact hbranches id
  case shapes =>
    intro x hx id hid
    refine Eq.trans ?_ (outcomeCount_of_or (hbranches id)).symm
    rcases List.mem_append.1 hx with hx | hx
    · rw [if_pos (ha.mem_branches_iff.2 ⟨x, hx, hid⟩), ha.shapes x hx id hid]
    · split
      · rename_i hida
        rw [hagree id hida (hb.mem_branches_iff.2 ⟨x, hx, hid⟩), hb.shapes x hx id hid]
      · exact hb.shapes x hx id hid
  case counts =>
    intro c
    rw [List.map_append, List.sum_append, ← ha.counts, ← hb.counts]
    cases c with
    | statement id =>
      simp only [count, get?_addHits]
      cases b.statementHits.get? id <;> simp
    | function id =>
      simp only [count, get?_addHits]
      cases b.functionHits.get? id <;> simp
    | outcome branch j =>
      simp only [count, get?_addBranchHits]
      cases ht : b.branchHits.get? branch with
      | none => simp
      | some theirs =>
        cases hm : a.branchHits.get? branch with
        | none => simp
        | some mine => simpa using getD_addCounts (hlength branch mine theirs hm ht) j
  case sourceMap =>
    rw [List.findSome?_append, ← ha.sourceMap, ← hb.sourceMap]

/-- A combination determines the record. -/
theorem unique {r' : FileRecord} (h : Combination r rs) (h' : Combination r' rs) (hne : rs ≠ []) :
    r = r' := by
  obtain ⟨x, hx⟩ := List.exists_mem_of_ne_nil rs hne
  have hstatements : r.statements = r'.statements :=
    Table.ext_get? fun id => by rw [h.statements, h'.statements]
  have hfunctions : r.functions = r'.functions :=
    Table.ext_get? fun id => by rw [h.functions, h'.functions]
  have hbranches : r.branches = r'.branches :=
    Table.ext_get? fun id => by rw [h.branches, h'.branches]
  have hlength : ∀ id counts counts', r.branchHits.get? id = some counts →
      r'.branchHits.get? id = some counts' → counts.length = counts'.length := by
    intro id counts counts' hc hc'
    rw [h.sound.outcomes id counts hc, h'.sound.outcomes id counts' hc', outcomeCount,
      outcomeCount, hbranches]
  obtain ⟨hs, hf, hb⟩ := hits_ext
    (by rw [h.sound.statements, h'.sound.statements, hstatements])
    (by rw [h.sound.functions, h'.sound.functions, hfunctions])
    (by rw [h.sound.branches, h'.sound.branches, hbranches])
    hlength (fun c => by rw [h.counts, h'.counts])
  have hpath : r.path = r'.path := (h.path x hx).symm.trans (h'.path x hx)
  have hexecuted : r.unexecuted = r'.unexecuted := by rw [h.executed, h'.executed]
  have hmap : r.sourceMap = r'.sourceMap := by rw [h.sourceMap, h'.sourceMap]
  cases r
  cases r'
  simp only at hs hf hb hpath hexecuted hmap hstatements hfunctions hbranches
  simp [*]

end Combination

/-! ### The sums of many records -/

/-- The records of a list that were executed. -/
def executed (rs : List FileRecord) : List FileRecord := rs.filter (!·.unexecuted)

/-- No counter of the records adds up to more than a counter can hold. -/
def CountersFit (rs : List FileRecord) : Prop :=
  ∀ c, (rs.map fun x => (x.count c).toNat).sum < 2 ^ 64

/-- The counters of `r` are those of the records of the list, each the sum of what it stands at
in these records. -/
structure SumsOf (r : FileRecord) (rs : List FileRecord) : Prop where
  statement_ids : ∀ id, id ∈ r.statementHits.keys ↔ ∃ x ∈ rs, id ∈ x.statementHits.keys
  function_ids : ∀ id, id ∈ r.functionHits.keys ↔ ∃ x ∈ rs, id ∈ x.functionHits.keys
  branch_ids : ∀ id, id ∈ r.branchHits.keys ↔ ∃ x ∈ rs, id ∈ x.branchHits.keys
  lengths : ∀ id counts, r.branchHits.get? id = some counts →
    ∀ x ∈ rs, ∀ found, x.branchHits.get? id = some found → found.length = counts.length
  hits : ∀ c, (r.count c).toNat = (rs.map fun x => (x.count c).toNat).sum

theorem Combination.sumsOf {r : FileRecord} {rs : List FileRecord} (h : Combination r rs)
    (hsound : ∀ x ∈ rs, x.Sound) (hfit : CountersFit rs) : SumsOf r rs where
  statement_ids id := by
    rw [h.sound.statements, Table.mem_keys_iff, ← Option.isSome_iff_exists, h.statements,
      List.findSome?_isSome_iff]
    refine exists_congr fun x => and_congr_right fun hx => ?_
    rw [(hsound x hx).isSome_statement, Option.isSome_iff_exists, Table.mem_keys_iff]
  function_ids id := by
    rw [h.sound.functions, Table.mem_keys_iff, ← Option.isSome_iff_exists, h.functions,
      List.findSome?_isSome_iff]
    refine exists_congr fun x => and_congr_right fun hx => ?_
    rw [(hsound x hx).isSome_function, Option.isSome_iff_exists, Table.mem_keys_iff]
  branch_ids id := by
    rw [h.sound.branches, h.mem_branches_iff]
    refine exists_congr fun x => and_congr_right fun hx => ?_
    rw [(hsound x hx).branches]
  lengths id counts hc x hx found hf := by
    have hid : id ∈ x.branches.keys :=
      (hsound x hx).branches ▸ Table.mem_keys_iff.2 ⟨found, hf⟩
    rw [(hsound x hx).outcomes id found hf, h.sound.outcomes id counts hc, h.shapes x hx id hid]
  hits c := by
    have hmap : ((rs.map (·.count c)).map UInt64.toNat) =
        rs.map fun x => (x.count c).toNat := by
      rw [List.map_map]
      rfl
    rw [h.counts, toNat_sum, hmap]
    rw [hmap]
    exact hfit c

namespace SumsOf

variable {r r' : FileRecord} {rs ts : List FileRecord}

theorem perm (h : SumsOf r rs) (hperm : rs.Perm ts) : SumsOf r ts where
  statement_ids id := by simp only [h.statement_ids, hperm.mem_iff]
  function_ids id := by simp only [h.function_ids, hperm.mem_iff]
  branch_ids id := by simp only [h.branch_ids, hperm.mem_iff]
  lengths id counts hc x hx := h.lengths id counts hc x (hperm.mem_iff.2 hx)
  hits c := (h.hits c).trans (hperm.map _).sum_nat

/-- The sums determine the counters. -/
theorem unique (h : SumsOf r rs) (h' : SumsOf r' rs) :
    r.statementHits = r'.statementHits ∧ r.functionHits = r'.functionHits ∧
      r.branchHits = r'.branchHits := by
  refine hits_ext (Table.keys_ext fun id => ?_) (Table.keys_ext fun id => ?_)
    (Table.keys_ext fun id => ?_) ?_ fun c => ?_
  · rw [h.statement_ids, h'.statement_ids]
  · rw [h.function_ids, h'.function_ids]
  · rw [h.branch_ids, h'.branch_ids]
  · intro id counts counts' hc hc'
    obtain ⟨x, hx, hid⟩ := (h.branch_ids id).1 (Table.mem_keys_iff.2 ⟨counts, hc⟩)
    obtain ⟨found, hfound⟩ := Table.mem_keys_iff.1 hid
    rw [← h.lengths id counts hc x hx found hfound, ← h'.lengths id counts' hc' x hx found hfound]
  · rw [← UInt64.toNat_inj, h.hits, h'.hits]

end SumsOf

end FileRecord

/-! ### Orders and groupings -/

/-- An order and a grouping in which records are merged. -/
inductive Grouping where
  | one (r : FileRecord)
  | both (left right : Grouping)

namespace Grouping

open FileRecord (executed CountersFit Combination ShapesDisagree SumsOf)

/-- The records of a grouping, from left to right. -/
def records : Grouping → List FileRecord
  | one r => [r]
  | both left right => left.records ++ right.records

/-- What the merges of a grouping give, inner ones first. -/
def merged : Grouping → Except Error FileRecord
  | one r => .ok r
  | both left right => do (← left.merged).merge (← right.merged)

/-- What merging the records of a list can give. -/
inductive Outcome (path : String) (rs : List FileRecord) : Except Error FileRecord → Prop where
  | disagreed (id : Id) (expected found : Nat) (h : ShapesDisagree (executed rs)) :
      Outcome path rs (.error (.branchShapesDiffer path id expected found))
  | leftmost (r : FileRecord) (hpath : r.path = path) (unexecuted : r.unexecuted = true)
      (h : executed rs = []) (head : rs.head? = some r) : Outcome path rs (.ok r)
  | combined (r : FileRecord) (hpath : r.path = path) (hne : executed rs ≠ [])
      (h : Combination r (executed rs)) : Outcome path rs (.ok r)

theorem executed_append (as bs : List FileRecord) :
    executed (as ++ bs) = executed as ++ executed bs := List.filter_append ..

theorem Outcome.merge {path : String} {as bs : List FileRecord} {x y : Except Error FileRecord}
    (hx : Outcome path as x) (hy : Outcome path bs y) :
    Outcome path (as ++ bs) (do (← x).merge (← y)) := by
  have hleft : ∀ r ∈ executed as, r ∈ executed (as ++ bs) := fun r hr => by
    rw [executed_append]
    exact List.mem_append_left _ hr
  have hright : ∀ r ∈ executed bs, r ∈ executed (as ++ bs) := fun r hr => by
    rw [executed_append]
    exact List.mem_append_right _ hr
  cases hx with
  | disagreed id expected found h => exact .disagreed id expected found (h.mono hleft)
  | leftmost a hpath hun h head =>
    cases hy with
    | disagreed id expected found h' => exact .disagreed id expected found (h'.mono hright)
    | leftmost b hpath' hun' h' head' =>
      have hmerge : a.merge b = .ok a := FileRecord.merge_unexecuted (hpath.trans hpath'.symm) hun'
      simp only [bind, Except.bind, hmerge]
      refine .leftmost a hpath hun ?_ ?_
      · rw [executed_append, h, h', List.append_nil]
      · rw [List.head?_append, head, Option.some_or]
    | combined b hpath' hne' h' =>
      have hmerge : a.merge b = .ok b :=
        FileRecord.unexecuted_merge (hpath.trans hpath'.symm) hun h'.executed
      have hexecuted : executed (as ++ bs) = executed bs := by
        rw [executed_append, h, List.nil_append]
      simp only [bind, Except.bind, hmerge]
      exact .combined b hpath' (hexecuted ▸ hne') (hexecuted ▸ h')
  | combined a hpath hne h =>
    cases hy with
    | disagreed id expected found h' => exact .disagreed id expected found (h'.mono hright)
    | leftmost b hpath' hun' h' head' =>
      have hmerge : a.merge b = .ok a := FileRecord.merge_unexecuted (hpath.trans hpath'.symm) hun'
      have hexecuted : executed (as ++ bs) = executed as := by
        rw [executed_append, h', List.append_nil]
      simp only [bind, Except.bind, hmerge]
      exact .combined a hpath (hexecuted ▸ hne) (hexecuted ▸ h)
    | combined b hpath' hne' h' =>
      have heq : a.path = b.path := hpath.trans hpath'.symm
      simp only [bind, Except.bind]
      cases hc : a.conflict? b with
      | some e =>
        obtain ⟨id, expected, found⟩ := e
        have hdisagree : ShapesDisagree (executed as ++ executed bs) :=
          Classical.not_not.1 fun hn => by
            rw [(h.conflict?_eq_none_iff h').2 hn] at hc
            cases hc
        rw [FileRecord.merge_eq_error heq h.executed h'.executed hc, hpath]
        exact .disagreed id expected found (executed_append as bs ▸ hdisagree)
      | none =>
        obtain ⟨r, hmerge, hr⟩ := h.merge h' heq hc
        rw [hmerge]
        refine .combined r ?_ ?_ ?_
        · rw [FileRecord.path_of_merge hmerge, hpath]
        · rw [executed_append]
          exact List.append_ne_nil_of_left_ne_nil hne _
        · rw [executed_append]
          exact hr

theorem Outcome.error_iff {path : String} {rs : List FileRecord} {x : Except Error FileRecord}
    (h : Outcome path rs x) :
    (∃ id expected found, x = .error (.branchShapesDiffer path id expected found)) ↔
      ShapesDisagree (executed rs) := by
  cases h with
  | disagreed id expected found h => exact ⟨fun _ => h, fun _ => ⟨id, expected, found, rfl⟩⟩
  | leftmost r hpath hun h head =>
    constructor
    · rintro ⟨_, _, _, h⟩
      cases h
    · rintro ⟨x, hx, _⟩
      rw [h] at hx
      cases hx
  | combined r hpath hne h =>
    constructor
    · rintro ⟨_, _, _, h⟩
      cases h
    · intro hd
      exact absurd hd h.not_shapesDisagree

theorem Outcome.eq_ok {path : String} {rs : List FileRecord} {x : Except Error FileRecord}
    (h : Outcome path rs x) (hn : ¬ ShapesDisagree (executed rs)) :
    ∃ r, x = .ok r ∧ (executed rs = [] → rs.head? = some r) ∧
      (executed rs ≠ [] → Combination r (executed rs)) := by
  cases h with
  | disagreed id expected found h => exact absurd h hn
  | leftmost r hpath hun h head => exact ⟨r, rfl, fun _ => head, fun hne => absurd h hne⟩
  | combined r hpath hne h => exact ⟨r, rfl, fun hnil => absurd hnil hne, fun _ => h⟩

/-- Every grouping has one of the outcomes. -/
theorem outcome {path : String} (g : Grouping) (hpath : ∀ r ∈ g.records, r.path = path)
    (hsound : ∀ r ∈ g.records, r.Sound) : Outcome path g.records g.merged := by
  induction g with
  | one r =>
    have hr := hpath r (List.mem_singleton.2 rfl)
    cases hun : r.unexecuted with
    | true => exact .leftmost r hr hun (by simp [records, executed, hun]) rfl
    | false =>
      have hexecuted : executed (records (.one r)) = [r] := by simp [records, executed, hun]
      refine .combined r hr (by simp [hexecuted]) ?_
      rw [hexecuted]
      exact .single (hsound r (List.mem_singleton.2 rfl)) hun
  | both left right ihl ihr =>
    refine Outcome.merge (ihl ?_ ?_) (ihr ?_ ?_)
    · exact fun r hr => hpath r (List.mem_append_left _ hr)
    · exact fun r hr => hsound r (List.mem_append_left _ hr)
    · exact fun r hr => hpath r (List.mem_append_right _ hr)
    · exact fun r hr => hsound r (List.mem_append_right _ hr)

theorem exists_records {rs : List FileRecord} (hne : rs ≠ []) : ∃ g : Grouping, g.records = rs := by
  induction rs with
  | nil => exact absurd rfl hne
  | cons r rs ih =>
    by_cases hrs : rs = []
    · exact ⟨.one r, by simp [records, hrs]⟩
    · obtain ⟨g, hg⟩ := ih hrs
      exact ⟨.both (.one r) g, by simp [records, hg]⟩

/-- Merging valid records of one file in any order and any grouping fails exactly when two executed
ones disagree on a branch. Otherwise the result is what the executed records alone give in the
same order, and its counters are their sums; without an executed record it is the leftmost one. -/
theorem merged_spec {path : String} {rs : List FileRecord} (hpath : ∀ r ∈ rs, r.path = path)
    (hvalid : ∀ r ∈ rs, r.validate = .ok ()) (hfit : CountersFit (executed rs)) :
    (∀ g : Grouping, g.records.Perm rs →
      ((∃ id expected found, g.merged = .error (.branchShapesDiffer path id expected found)) ↔
        ShapesDisagree (executed rs)) ∧
      (¬ ShapesDisagree (executed rs) → ∃ r, g.merged = .ok r ∧
        (executed rs = [] → g.records.head? = some r) ∧
        (executed rs ≠ [] → r.unexecuted = false ∧ SumsOf r (executed rs) ∧
          (∃ g' : Grouping, g'.records = executed g.records) ∧
          ∀ g' : Grouping, g'.records = executed g.records → g'.merged = .ok r))) ∧
    (∀ g g' : Grouping, g.records.Perm rs → g'.records.Perm rs → executed rs ≠ [] →
      ∀ r r', g.merged = .ok r → g'.merged = .ok r' →
        r.statementHits = r'.statementHits ∧ r.functionHits = r'.functionHits ∧
          r.branchHits = r'.branchHits) := by
  have hexecuted : ∀ g : Grouping, g.records.Perm rs →
      (executed g.records).Perm (executed rs) := fun g hg => hg.filter _
  have hsound : ∀ r ∈ rs, r.Sound := fun r hr => .of_validate (hvalid r hr)
  have houtcome : ∀ g : Grouping, (∀ r ∈ g.records, r ∈ rs) → Outcome path g.records g.merged :=
    fun g hg => g.outcome (fun r hr => hpath r (hg r hr)) (fun r hr => hsound r (hg r hr))
  have hdisagree : ∀ g : Grouping, g.records.Perm rs →
      (ShapesDisagree (executed g.records) ↔ ShapesDisagree (executed rs)) := fun g hg =>
    ⟨.mono fun x hx => (hexecuted g hg).mem_iff.1 hx,
      .mono fun x hx => (hexecuted g hg).mem_iff.2 hx⟩
  have hsums : ∀ g : Grouping, g.records.Perm rs → ∀ r,
      Combination r (executed g.records) → SumsOf r (executed rs) := by
    intro g hg r hr
    refine SumsOf.perm (hr.sumsOf ?_ ?_) (hexecuted g hg)
    · exact fun x hx => hsound x (hg.mem_iff.1 (List.mem_filter.1 hx).1)
    · intro c
      rw [((hexecuted g hg).map _).sum_nat]
      exact hfit c
  constructor
  · intro g hg
    have hout := houtcome g fun r hr => hg.mem_iff.1 hr
    refine ⟨hout.error_iff.trans (hdisagree g hg), fun hn => ?_⟩
    rw [← hdisagree g hg] at hn
    obtain ⟨r, hmerged, hleft, hcomb⟩ := hout.eq_ok hn
    refine ⟨r, hmerged, ?_, ?_⟩
    · intro hnil
      exact hleft (List.Perm.nil_eq (hnil ▸ (hexecuted g hg).symm)).symm
    · intro hne
      have hne' : executed g.records ≠ [] := fun hnil =>
        hne (List.Perm.nil_eq (hnil ▸ hexecuted g hg)).symm
      have hr := hcomb hne'
      refine ⟨hr.executed, hsums g hg r hr, exists_records hne', fun g' hg' => ?_⟩
      -- The executed records of a list of executed records are all of them.
      have hexec' : executed g'.records = executed g.records := by
        rw [hg', executed, executed, List.filter_filter]
        simp only [Bool.and_self]
      have hout' := houtcome g' fun x hx =>
        hg.mem_iff.1 (List.mem_filter.1 (hg' ▸ hx : x ∈ executed g.records)).1
      obtain ⟨r', hmerged', -, hcomb'⟩ := hout'.eq_ok (hexec'.symm ▸ hn)
      have hr' := hcomb' (hexec'.symm ▸ hne')
      rw [hexec'] at hr'
      rw [hmerged', hr'.unique hr hne']
  · intro g g' hg hg' hne r r' hr hr'
    have hcounters : ∀ g : Grouping, g.records.Perm rs → ∀ r, g.merged = .ok r →
        SumsOf r (executed rs) := by
      intro g hg r hr
      have hout := houtcome g fun r hr => hg.mem_iff.1 hr
      rw [hr] at hout
      cases hout with
      | leftmost _ _ _ h _ => exact absurd (List.Perm.nil_eq (h ▸ hexecuted g hg)).symm hne
      | combined _ _ _ h => exact hsums g hg r h
    exact (hcounters g hg r hr).unique (hcounters g' hg' r' hr')

/-- Two runs of a file with one statement, and the record of the file before it ran. -/
def threeRecords : List FileRecord :=
  [(1, false), (0, true), (2, false)].map fun (hits, unexecuted) =>
    { FileRecord.empty "a.js" with
      statements := Table.empty.insert 0 default
      statementHits := Table.empty.insert 0 hits
      unexecuted }

theorem countersFit_threeRecords : CountersFit (executed threeRecords) := by
  intro c
  cases c with
  | statement id =>
    by_cases hid : 0 = id
    · subst hid
      decide
    · simp [threeRecords, executed, FileRecord.count, FileRecord.empty, Table.get?_insert, hid]
  | function id => simp [threeRecords, executed, FileRecord.count, FileRecord.empty]
  | outcome branch j => simp [threeRecords, executed, FileRecord.count, FileRecord.empty]

theorem merged_spec_threeRecords :
    (∀ r ∈ threeRecords, r.path = "a.js") ∧ (∀ r ∈ threeRecords, r.validate = .ok ()) ∧
      CountersFit (executed threeRecords) ∧
      ∃ r, (both (both (one threeRecords[1]) (one threeRecords[2])) (one threeRecords[0])).merged =
        .ok r ∧ SumsOf r (executed threeRecords) ∧ r.count (.statement 0) = 3 := by
  have hpath : ∀ r ∈ threeRecords, r.path = "a.js" := by decide
  have hvalid : ∀ r ∈ threeRecords, r.validate = .ok () := by
    intro r hr
    simp only [threeRecords, List.map_cons, List.map_nil, List.mem_cons, List.not_mem_nil,
      or_false] at hr
    rcases hr with rfl | rfl | rfl <;> rfl
  have hagree : ¬ ShapesDisagree (executed threeRecords) := by
    rintro ⟨x, hx, _, _, id, hid, _⟩
    have hnone : ∀ r ∈ executed threeRecords, r.branches.keys = [] := by decide
    rw [hnone x hx] at hid
    cases hid
  have hspec := (merged_spec hpath hvalid countersFit_threeRecords).1
    (both (both (one threeRecords[1]) (one threeRecords[2])) (one threeRecords[0]))
    (show ([threeRecords[1], threeRecords[2]] ++ [threeRecords[0]]).Perm threeRecords from
      List.perm_append_comm)
  obtain ⟨r, hmerged, -, hr⟩ := hspec.2 hagree
  have hsums := (hr (by decide)).2.1
  refine ⟨hpath, hvalid, countersFit_threeRecords, r, hmerged, hsums, ?_⟩
  rw [← UInt64.toNat_inj, hsums.hits]
  rfl

end Grouping

end Coverage
