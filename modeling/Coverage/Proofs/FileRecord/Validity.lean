import Coverage.FileRecord.Basic
import Coverage.Instrument.Counter
import Coverage.Proofs.Table

/-!
# Valid records and their counters

`FileRecord.Sound` is what `validate` checks apart from the path: descriptions and counters have
the same ids, and a branch has one count per outcome. A record that is built up step by step is
shown to be sound after each step, and `validate_eq_ok_iff` then says that the check accepts it.
-/

namespace Coverage.FileRecord

open Instrument (Counter)

/-- What a counter of a record stands at; a counter that is not there stands at zero. -/
def count (r : FileRecord) : Counter → UInt64
  | .statement id => (r.statementHits.get? id).getD 0
  | .function id => (r.functionHits.get? id).getD 0
  | .outcome branch j => ((r.branchHits.get? branch).getD []).getD j 0

/-- The descriptions and the counters of a record agree. -/
structure Sound (r : FileRecord) : Prop where
  statements : r.statementHits.keys = r.statements.keys
  functions : r.functionHits.keys = r.functions.keys
  branches : r.branchHits.keys = r.branches.keys
  outcomes : ∀ id counts, r.branchHits.get? id = some counts → counts.length = r.outcomeCount id

theorem misshapen?_eq_none_iff {r : FileRecord} :
    r.misshapen? = none ↔
      ∀ id counts, r.branchHits.get? id = some counts → counts.length = r.outcomeCount id := by
  rw [misshapen?, List.find?_eq_none]
  constructor
  · intro h id counts hget
    have hne := h (id, counts) (Table.get?_eq_some_iff.1 hget)
    simpa using hne
  · rintro h ⟨id, counts⟩ hmem
    have heq := h id counts (Table.get?_eq_some_iff.2 hmem)
    simp [heq]

/-- The check accepts the records that name a file and are sound. -/
theorem validate_eq_ok_iff {r : FileRecord} :
    r.validate = .ok () ↔ r.path.isEmpty = false ∧ r.Sound := by
  simp only [validate, bind, Except.bind, throw, throwThe, MonadExceptOf.throw, pure, Except.pure]
  constructor
  · intro h
    split at h
    · cases h
    rename_i hpath
    split at h
    · cases h
    rename_i hs
    split at h
    · cases h
    rename_i hf
    split at h
    · cases h
    rename_i hb
    split at h
    · cases h
    rename_i hshape
    have hnone : r.misshapen? = none := by
      cases hm : r.misshapen? with
      | none => rfl
      | some e => exact absurd hm (hshape e.1 e.2)
    exact ⟨eq_false_of_ne_true hpath,
      ⟨Decidable.not_not.1 hs, Decidable.not_not.1 hf, Decidable.not_not.1 hb, misshapen?_eq_none_iff.1 hnone⟩⟩
  · rintro ⟨hpath, hs, hf, hb, hshape⟩
    rw [← misshapen?_eq_none_iff] at hshape
    simp [hpath, hs, hf, hb, hshape]

theorem Sound.of_validate {r : FileRecord} (h : r.validate = .ok ()) : r.Sound :=
  (validate_eq_ok_iff.1 h).2

theorem Sound.empty (path : String) : (empty path).Sound :=
  ⟨rfl, rfl, rfl, fun _ _ h => nomatch h⟩

namespace Sound

variable {r : FileRecord}

theorem isSome_statement (h : r.Sound) (id : Id) :
    (r.statements.get? id).isSome = (r.statementHits.get? id).isSome :=
  (Table.keys_eq_iff.1 h.statements id).symm

theorem isSome_function (h : r.Sound) (id : Id) :
    (r.functions.get? id).isSome = (r.functionHits.get? id).isSome :=
  (Table.keys_eq_iff.1 h.functions id).symm

theorem isSome_branch (h : r.Sound) (id : Id) :
    (r.branches.get? id).isSome = (r.branchHits.get? id).isSome :=
  (Table.keys_eq_iff.1 h.branches id).symm

/-- A branch has as many counts as it is described with outcomes. -/
theorem length_counts (h : r.Sound) {id : Id} {b : BranchEntry} {counts : List UInt64}
    (hb : r.branches.get? id = some b) (hc : r.branchHits.get? id = some counts) :
    counts.length = b.outcomes.length := by
  rw [h.outcomes id counts hc, outcomeCount, hb]

theorem exists_counts (h : r.Sound) {id : Id} {b : BranchEntry}
    (hb : r.branches.get? id = some b) :
    ∃ counts, r.branchHits.get? id = some counts ∧ counts.length = b.outcomes.length := by
  have hsome := h.isSome_branch id
  rw [hb, Option.isSome_some, eq_comm, Option.isSome_iff_exists] at hsome
  obtain ⟨counts, hc⟩ := hsome
  exact ⟨counts, hc, h.length_counts hb hc⟩

end Sound

/-- No table of descriptions has the greatest id, so that each has an id for one more entry. -/
structure HasRoom (r : FileRecord) : Prop where
  statements : r.statements.HasRoom
  functions : r.functions.HasRoom
  branches : r.branches.HasRoom

/-- No counter was hit when all hits in the tables are zero. -/
theorem count_eq_zero {r : FileRecord}
    (hs : ∀ id hits, r.statementHits.get? id = some hits → hits = 0)
    (hf : ∀ id hits, r.functionHits.get? id = some hits → hits = 0)
    (hb : ∀ id counts, r.branchHits.get? id = some counts → ∀ hits ∈ counts, hits = 0)
    (c : Counter) : r.count c = 0 := by
  cases c with
  | statement id =>
    cases hget : r.statementHits.get? id with
    | none => simp only [count, hget, Option.getD_none]
    | some hits => simp only [count, hget, Option.getD_some, hs id hits hget]
  | function id =>
    cases hget : r.functionHits.get? id with
    | none => simp only [count, hget, Option.getD_none]
    | some hits => simp only [count, hget, Option.getD_some, hf id hits hget]
  | outcome branch index =>
    cases hget : r.branchHits.get? branch with
    | none => simp only [count, hget, Option.getD_none, List.getD_nil]
    | some counts =>
      rw [count, hget, Option.getD_some, List.getD_eq_getElem?_getD]
      cases hhits : counts[index]? with
      | none => rfl
      | some hits => exact hb branch counts hget hits (List.mem_of_getElem? hhits)

/-- Records with the same counters have the same tables of them when each counter stands at the
same number. -/
theorem hits_ext {r r' : FileRecord} (hs : r.statementHits.keys = r'.statementHits.keys)
    (hf : r.functionHits.keys = r'.functionHits.keys)
    (hb : r.branchHits.keys = r'.branchHits.keys)
    (hlength : ∀ id counts counts', r.branchHits.get? id = some counts →
      r'.branchHits.get? id = some counts' → counts.length = counts'.length)
    (hcount : ∀ c, r.count c = r'.count c) :
    r.statementHits = r'.statementHits ∧ r.functionHits = r'.functionHits ∧
      r.branchHits = r'.branchHits := by
  refine ⟨Table.ext_getD 0 hs fun id => hcount (.statement id),
    Table.ext_getD 0 hf fun id => hcount (.function id), Table.ext_getD [] hb fun id => ?_⟩
  by_cases hid : id ∈ r.branchHits.keys
  · obtain ⟨counts, hc⟩ := Table.mem_keys_iff.1 hid
    obtain ⟨counts', hc'⟩ := Table.mem_keys_iff.1 (hb ▸ hid)
    simp only [hc, hc', Option.getD_some]
    refine List.ext_getElem (hlength id counts counts' hc hc') fun j hj hj' => ?_
    have hat := hcount (.outcome id j)
    simpa [count, hc, hc', hj, hj'] using hat
  · have hid' : id ∉ r'.branchHits.keys := hb ▸ hid
    rw [Table.get?_eq_none_iff.2 hid, Table.get?_eq_none_iff.2 hid']

end Coverage.FileRecord
