import Coverage.Instrument.Skeleton
import Coverage.Proofs.FileRecord.Validity

/-!
# What a skeleton expects of the instrumentation

Every statement and every function of a skeleton has one counter, and so has every outcome of a
branch that is not skipped. `FileRecord.expected` counts these counters. Each way in which a
skeleton grows adds exactly the counter that it hands out, and dropping the branches without
outcomes in the end takes none away.
-/

namespace Coverage

open Instrument (Counter)

namespace FileRecord

/-- How often a counter has to be in the instrumented program: once, unless it belongs to a skipped
outcome or to nothing at all. -/
def expected (r : FileRecord) : Counter → Nat
  | .statement id => if id ∈ r.statements.keys then 1 else 0
  | .function id => if id ∈ r.functions.keys then 1 else 0
  | .outcome branch j =>
    match (r.branches.get? branch).bind (·.outcomes[j]?) with
    | some range => if range.skip then 0 else 1
    | none => 0

/-- Whether a record has what a counter counts. -/
def Has (r : FileRecord) : Counter → Prop
  | .statement id => id ∈ r.statements.keys
  | .function id => id ∈ r.functions.keys
  | .outcome branch j => ∃ b, r.branches.get? branch = some b ∧ j < b.outcomes.length

/-- Everything that a record has is counted in one place, except for skipped outcomes, and nothing
else is; `places` tells in how many places a counter stands. -/
structure CountedBy (r : FileRecord) (places : Counter → Nat) : Prop where
  statement : ∀ id ∈ r.statements.keys, places (.statement id) = 1
  function : ∀ id ∈ r.functions.keys, places (.function id) = 1
  outcome : ∀ branch b, r.branches.get? branch = some b → ∀ j range, b.outcomes[j]? = some range →
    places (.outcome branch j) = if range.skip then 0 else 1
  has : ∀ c, 0 < places c → r.Has c

theorem has_of_expected {r : FileRecord} {c : Counter} (h : 0 < r.expected c) : r.Has c := by
  cases c with
  | statement id =>
    simp only [expected] at h
    split at h
    · assumption
    · cases h
  | function id =>
    simp only [expected] at h
    split at h
    · assumption
    · cases h
  | outcome branch j =>
    simp only [expected] at h
    split at h
    · rename_i range hrange
      obtain ⟨b, hb, hj⟩ := Option.bind_eq_some_iff.1 hrange
      exact ⟨b, hb, (List.getElem?_eq_some_iff.1 hj).1⟩
    · cases h

theorem CountedBy.of_expected {r : FileRecord} {places : Counter → Nat}
    (h : ∀ c, places c = r.expected c) : r.CountedBy places := by
  refine ⟨?_, ?_, ?_, fun c hc => has_of_expected (h c ▸ hc)⟩
  · intro id hid
    rw [h, expected, if_pos hid]
  · intro id hid
    rw [h, expected, if_pos hid]
  · intro branch b hb j range hrange
    simp only [h, expected, hb, Option.bind_some, hrange]

/-- A record that describes at least what `r` describes. -/
structure Extends (r' r : FileRecord) : Prop where
  statements : ∀ id ∈ r.statements.keys, id ∈ r'.statements.keys
  functions : ∀ id ∈ r.functions.keys, id ∈ r'.functions.keys
  branches : ∀ id ∈ r.branches.keys, id ∈ r'.branches.keys

theorem Extends.refl (r : FileRecord) : r.Extends r :=
  ⟨fun _ h => h, fun _ h => h, fun _ h => h⟩

theorem Extends.trans {r r' r'' : FileRecord} (h : r''.Extends r') (h' : r'.Extends r) :
    r''.Extends r :=
  ⟨fun id hid => h.statements id (h'.statements id hid),
    fun id hid => h.functions id (h'.functions id hid),
    fun id hid => h.branches id (h'.branches id hid)⟩

theorem HasRoom.of_extends {r r' : FileRecord} (h : r'.HasRoom) (hr : r'.Extends r) : r.HasRoom :=
  ⟨fun hid => h.statements (hr.statements _ hid), fun hid => h.functions (hr.functions _ hid),
    fun hid => h.branches (hr.branches _ hid)⟩

end FileRecord

namespace Instrument.Skeleton

variable {s : Skeleton}

/-! ### Numbering -/

theorem extends_newStatement (s : Skeleton) (range : Location) :
    (s.newStatement range).1.record.Extends s.record :=
  ⟨fun _ h => Table.mem_keys_insert.2 (.inl h), fun _ h => h, fun _ h => h⟩

theorem extends_newFunction (s : Skeleton) (name : Option String) (decl body : Location) :
    (s.newFunction name decl body).1.record.Extends s.record :=
  ⟨fun _ h => h, fun _ h => Table.mem_keys_insert.2 (.inl h), fun _ h => h⟩

theorem extends_newBranch (s : Skeleton) (kind : BranchKind) (range : Location) :
    (s.newBranch kind range).1.record.Extends s.record :=
  ⟨fun _ h => h, fun _ h => h, fun _ h => Table.mem_keys_insert.2 (.inl h)⟩

theorem extends_newOutcome (s : Skeleton) (branch : Id) (range : Location) :
    (s.newOutcome branch range).1.record.Extends s.record := by
  rw [newOutcome]
  split
  · exact ⟨fun _ h => h, fun _ h => h, fun _ h => Table.mem_keys_insert.2 (.inl h)⟩
  · exact .refl _

theorem mem_branches_newBranch (s : Skeleton) (kind : BranchKind) (range : Location) :
    (s.newBranch kind range).2 ∈ (s.newBranch kind range).1.record.branches.keys :=
  Table.mem_keys_insert.2 (.inr rfl)

theorem keys_insert_congr {α β : Type} {t : Table α} {u : Table β} (h : t.keys = u.keys) (id : Id)
    (a : α) (b : β) : (t.insert id a).keys = (u.insert id b).keys :=
  Table.keys_ext fun k => by rw [Table.mem_keys_insert, Table.mem_keys_insert, h]

theorem sound_newStatement (h : s.record.Sound) (range : Location) :
    (s.newStatement range).1.record.Sound :=
  ⟨keys_insert_congr h.statements _ _ _, h.functions, h.branches, h.outcomes⟩

theorem sound_newFunction (h : s.record.Sound) (name : Option String) (decl body : Location) :
    (s.newFunction name decl body).1.record.Sound :=
  ⟨h.statements, keys_insert_congr h.functions _ _ _, h.branches, h.outcomes⟩

theorem sound_newBranch (h : s.record.Sound) (kind : BranchKind) (range : Location) :
    (s.newBranch kind range).1.record.Sound := by
  refine ⟨h.statements, h.functions, keys_insert_congr h.branches _ _ _, ?_⟩
  intro id counts hcounts
  simp only [newBranch, Table.get?_insert] at hcounts
  simp only [FileRecord.outcomeCount, newBranch, Table.get?_insert]
  split at hcounts
  · rename_i hid
    cases hcounts
    rw [if_pos hid]
    rfl
  · rename_i hid
    rw [if_neg hid]
    exact h.outcomes id counts hcounts

/-- An outcome goes behind those that the branch has. -/
theorem newOutcome_eq (h : s.record.Sound) {branch : Id} {b : BranchEntry}
    (hb : s.record.branches.get? branch = some b) (range : Location) :
    ∃ counts, counts.length = b.outcomes.length ∧ s.record.branchHits.get? branch = some counts ∧
      s.newOutcome branch range =
        (⟨{ s.record with
            branches := s.record.branches.insert branch { b with outcomes := b.outcomes ++ [range] }
            branchHits := s.record.branchHits.insert branch (counts ++ [0]) }⟩,
          b.outcomes.length) := by
  obtain ⟨counts, hc, hlength⟩ := h.exists_counts hb
  refine ⟨counts, hlength, hc, ?_⟩
  simp only [newOutcome, hb, hc, hlength]

theorem sound_newOutcome (h : s.record.Sound) (branch : Id) (range : Location) :
    (s.newOutcome branch range).1.record.Sound := by
  cases hb : s.record.branches.get? branch with
  | none => simpa only [newOutcome, hb] using h
  | some b =>
    obtain ⟨counts, hlength, -, hnew⟩ := newOutcome_eq h hb range
    rw [hnew]
    refine ⟨h.statements, h.functions, keys_insert_congr h.branches _ _ _, ?_⟩
    intro id found hfound
    simp only [Table.get?_insert] at hfound
    simp only [FileRecord.outcomeCount, Table.get?_insert]
    split at hfound
    · rename_i hid
      cases hfound
      rw [if_pos hid]
      simp [hlength]
    · rename_i hid
      rw [if_neg hid]
      exact h.outcomes id found hfound

/-! ### Each number is expected once -/

theorem expected_newStatement (hroom : s.record.HasRoom) (range : Location) (c : Counter) :
    (s.newStatement range).1.record.expected c =
      s.record.expected c + [Counter.statement (s.newStatement range).2].count c := by
  have hnew := Table.nextId_not_mem hroom.statements
  cases c with
  | statement id =>
    simp only [newStatement, FileRecord.expected, Table.mem_keys_insert, List.count_singleton,
      beq_iff_eq, Counter.statement.injEq]
    by_cases hid : s.record.statements.nextId = id
    · subst hid
      simp [hnew]
    · simp [hid, Ne.symm hid]
  | function id => rfl
  | outcome branch j => rfl

theorem expected_newFunction (hroom : s.record.HasRoom) (name : Option String)
    (decl body : Location) (c : Counter) :
    (s.newFunction name decl body).1.record.expected c =
      s.record.expected c + [Counter.function (s.newFunction name decl body).2].count c := by
  have hnew := Table.nextId_not_mem hroom.functions
  cases c with
  | function id =>
    simp only [newFunction, FileRecord.expected, Table.mem_keys_insert, List.count_singleton,
      beq_iff_eq, Counter.function.injEq]
    by_cases hid : s.record.functions.nextId = id
    · subst hid
      simp [hnew]
    · simp [hid, Ne.symm hid]
  | statement id => rfl
  | outcome branch j => rfl

/-- A branch without outcomes expects nothing. -/
theorem expected_newBranch (hroom : s.record.HasRoom) (kind : BranchKind) (range : Location)
    (c : Counter) :
    (s.newBranch kind range).1.record.expected c = s.record.expected c := by
  have hnew := Table.get?_eq_none_iff.2 (Table.nextId_not_mem hroom.branches)
  cases c with
  | outcome branch j =>
    simp only [newBranch, FileRecord.expected, Table.get?_insert]
    by_cases hid : s.record.branches.nextId = branch
    · subst hid
      simp [hnew]
    · simp [hid]
  | statement id => rfl
  | function id => rfl

/-- An outcome expects its counter, unless it is skipped. -/
theorem expected_newOutcome (h : s.record.Sound) {branch : Id}
    (hb : branch ∈ s.record.branches.keys) (range : Location) (c : Counter) :
    (s.newOutcome branch range).1.record.expected c =
      s.record.expected c +
        (if range.skip then [] else [Counter.outcome branch (s.newOutcome branch range).2]).count
          c := by
  obtain ⟨b, hget⟩ := Table.mem_keys_iff.1 hb
  obtain ⟨counts, -, -, hnew⟩ := newOutcome_eq h hget range
  rw [hnew]
  cases c with
  | statement id => split <;> simp [FileRecord.expected]
  | function id => split <;> simp [FileRecord.expected]
  | outcome branch' j =>
    simp only [FileRecord.expected, Table.get?_insert]
    by_cases hid : branch = branch'
    · subst hid
      simp only [if_true, hget, Option.bind_some]
      by_cases hj : j = b.outcomes.length
      · subst hj
        cases hskip : range.skip <;> simp [hskip]
      · have hcount : (if range.skip then [] else
            [Counter.outcome branch b.outcomes.length]).count (.outcome branch j) = 0 := by
          cases range.skip <;> simp [Ne.symm hj]
        rw [hcount, Nat.add_zero]
        rcases Nat.lt_or_ge j b.outcomes.length with hlt | hge
        · rw [List.getElem?_append_left hlt]
        · have hgt : b.outcomes.length < j := Nat.lt_of_le_of_ne hge (Ne.symm hj)
          rw [List.getElem?_eq_none (by simp; omega), List.getElem?_eq_none hge]
    · have hcount : (if range.skip then [] else
          [Counter.outcome branch b.outcomes.length]).count (.outcome branch' j) = 0 := by
        cases range.skip <;> simp [hid]
      rw [hcount, Nat.add_zero, if_neg hid]

/-! ### The finished record -/

theorem get?_branches_freeze (s : Skeleton) (id : Id) :
    s.freeze.branches.get? id =
      (s.record.branches.get? id).filter fun b => !b.outcomes.isEmpty :=
  Table.get?_filter _ _ id

theorem get?_branchHits_freeze (s : Skeleton) (id : Id) :
    s.freeze.branchHits.get? id =
      (s.record.branchHits.get? id).filter fun _ => keeps s.record.branches id :=
  Table.get?_filter _ _ id

/-- A branch that is dropped has no outcome that a counter could be expected for. -/
theorem expected_freeze (s : Skeleton) (c : Counter) :
    s.freeze.expected c = s.record.expected c := by
  cases c with
  | statement id => rfl
  | function id => rfl
  | outcome branch j =>
    have hbind : (s.freeze.branches.get? branch).bind (·.outcomes[j]?) =
        (s.record.branches.get? branch).bind (·.outcomes[j]?) := by
      rw [get?_branches_freeze]
      cases s.record.branches.get? branch with
      | none => rfl
      | some b => cases hout : b.outcomes <;> simp [Option.filter, hout]
    simp only [FileRecord.expected, hbind]

theorem sound_freeze (h : s.record.Sound) : s.freeze.Sound := by
  refine ⟨h.statements, h.functions, Table.keys_eq_iff.2 fun id => ?_, fun id counts hc => ?_⟩
  · have hsome := h.isSome_branch id
    rw [get?_branches_freeze, get?_branchHits_freeze, keeps]
    cases hb : s.record.branches.get? id with
    | none =>
      rw [hb, Option.isSome_none, eq_comm, Option.isSome_eq_false_iff, Option.isNone_iff_eq_none]
        at hsome
      rw [hsome]
      rfl
    | some b =>
      obtain ⟨counts, hc, -⟩ := h.exists_counts hb
      rw [hc]
      cases hout : b.outcomes.isEmpty <;> simp [Option.filter, hout]
  · rw [get?_branchHits_freeze, Option.filter_eq_some_iff] at hc
    obtain ⟨hc, hkeeps⟩ := hc
    rw [h.outcomes id counts hc, FileRecord.outcomeCount, FileRecord.outcomeCount,
      get?_branches_freeze]
    cases hb : s.record.branches.get? id with
    | none => rfl
    | some b =>
      rw [keeps, hb] at hkeeps
      simp only [Option.filter, hkeeps, if_true]

end Instrument.Skeleton

end Coverage
