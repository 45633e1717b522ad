import Coverage.Proofs.FileRecord.Merge
import Coverage.Remap.Accumulator

/-!
# Adding an entry adds its hits and nothing else

Statements, functions and branches are collected in the same way: an entry is counted under the
id of the last entry with its key, or under a new one. What this does is stated once, for a table
of descriptions beside a table of counters, as an equation for sums over the entries of one key.

A `Deposit` is an entry on its way to a record, a `Site` what entries are known by. The step lemma
is `hitsAt_addTo`: a deposit adds to the hits at its own site. `hitsAt_addAllTo` follows for any
number of deposits.
-/

namespace Coverage

namespace Table

variable {α γ : Type}

theorem lastWhere?_eq_some {t : Table α} {p : α → Bool} {id : Id} (h : t.lastWhere? p = some id) :
    ∃ a, t.get? id = some a ∧ p a = true := by
  obtain ⟨⟨k, a⟩, hfind, rfl⟩ := Option.map_eq_some_iff.1 h
  have hmem : (k, a) ∈ t.entries := List.mem_reverse.1 (List.mem_of_find?_eq_some hfind)
  exact ⟨a, get?_eq_some_iff.2 hmem, by simpa using List.find?_some hfind⟩

/-- The id that the entries with a key are counted under. -/
def slot (t : Table α) (p : α → Bool) : Id := (t.lastWhere? p).getD t.nextId

/-- The table with an entry for a key, which is `a` if there was none. -/
def withSlot (t : Table α) (p : α → Bool) (a : α) : Table α :=
  if (t.lastWhere? p).isSome then t else t.insert (t.slot p) a

section

variable {t : Table α} {p : α → Bool} {a : α} {id k : Id}

theorem slot_of_some (h : t.lastWhere? p = some id) : t.slot p = id := by
  rw [slot, h, Option.getD_some]

theorem slot_of_none (h : t.lastWhere? p = none) : t.slot p = t.nextId := by
  rw [slot, h, Option.getD_none]

theorem withSlot_of_some (h : t.lastWhere? p = some id) : t.withSlot p a = t := by
  rw [withSlot, h, if_pos Option.isSome_some]

theorem withSlot_of_none (h : t.lastWhere? p = none) : t.withSlot p a = t.insert (t.slot p) a := by
  rw [withSlot, h, if_neg nofun]

theorem mem_keys_withSlot : k ∈ (t.withSlot p a).keys ↔ k ∈ t.keys ∨ k = t.slot p := by
  cases h : t.lastWhere? p with
  | none => rw [withSlot_of_none h, mem_keys_insert]
  | some id =>
    obtain ⟨x, hx, -⟩ := lastWhere?_eq_some h
    have hmem : id ∈ t.keys := mem_keys_iff.2 ⟨x, hx⟩
    rw [withSlot_of_some h, slot_of_some h]
    constructor
    · exact Or.inl
    · rintro (hk | rfl)
      · exact hk
      · exact hmem

end

theorem HasRoom.of_withSlot {t : Table α} {p : α → Bool} {a : α} (h : (t.withSlot p a).HasRoom) :
    t.HasRoom :=
  fun hmem => h (mem_keys_withSlot.2 (.inl hmem))

/-- Counting an entry keeps the ids of descriptions and counters the same. -/
theorem keys_withSlot {t : Table α} {hits : Table γ} (h : hits.keys = t.keys) (p : α → Bool)
    (a : α) (f : Option γ → γ) : (hits.alter (t.slot p) f).keys = (t.withSlot p a).keys :=
  keys_ext fun id => by rw [mem_keys_alter, mem_keys_withSlot, h]

theorem get?_slot_withSlot {t : Table α} {p : α → Bool} {a : α} (ha : p a = true) :
    ∃ x, (t.withSlot p a).get? (t.slot p) = some x ∧ p x = true := by
  cases h : t.lastWhere? p with
  | none =>
    refine ⟨a, ?_, ha⟩
    rw [withSlot_of_none h, get?_insert, if_pos rfl]
  | some id =>
    rw [withSlot_of_some h, slot_of_some h]
    exact lastWhere?_eq_some h

theorem get?_withSlot_of_ne {t : Table α} {p : α → Bool} {a : α} {k : Id} (h : k ≠ t.slot p) :
    (t.withSlot p a).get? k = t.get? k := by
  rw [withSlot]
  split
  · rfl
  · rw [get?_insert, if_neg (Ne.symm h)]

/-- What the entries with `q` are counted with, a counter being read by `μ`. -/
def tally (t : Table α) (hits : Table γ) (q : α → Bool) (μ : Option γ → Nat) : Nat :=
  t.total fun id a => if q a then μ (hits.get? id) else 0

/-- Counting an entry changes the tally of its own key by what it changes its counter. -/
theorem tally_withSlot {t : Table α} {hits : Table γ} (hkeys : hits.keys = t.keys)
    {p : α → Bool} {a : α} (hroom : (t.withSlot p a).HasRoom) {q : α → Bool}
    (hq : ∀ x, p x = true → q x = q a) {μ : Option γ → Nat} (hμ : μ none = 0)
    (f : Option γ → γ) :
    (t.withSlot p a).tally (hits.alter (t.slot p) f) q μ +
        (if q a then μ (hits.get? (t.slot p)) else 0) =
      t.tally hits q μ + (if q a then μ (some (f (hits.get? (t.slot p)))) else 0) := by
  have hother : ∀ k x, k ≠ t.slot p →
      (if q x then μ ((hits.alter (t.slot p) f).get? k) else 0) =
        if q x then μ (hits.get? k) else 0 := by
    intro k x hk
    rw [get?_alter, if_neg (Ne.symm hk)]
  cases h : t.lastWhere? p with
  | some id =>
    obtain ⟨x, hx, hp⟩ := lastWhere?_eq_some h
    have hchange := total_change ((slot_of_some h).symm ▸ hx) hother
    simpa only [withSlot_of_some h, tally, hq x hp, get?_alter, if_true] using hchange
  | none =>
    have hnew : t.slot p ∉ t.keys := by
      rw [slot_of_none h]
      exact nextId_not_mem hroom.of_withSlot
    have hnone : hits.get? (t.slot p) = none := get?_eq_none_iff.2 (hkeys ▸ hnew)
    have hold : (t.total fun id x => if q x then μ ((hits.alter (t.slot p) f).get? id) else 0) =
        t.total fun id x => if q x then μ (hits.get? id) else 0 :=
      total_congr fun id x hx => hother id x fun heq => hnew (heq ▸ mem_keys_iff.2 ⟨x, hx⟩)
    rw [withSlot_of_none h, tally, total_insert hnew, hold, get?_alter, if_pos rfl, hnone, hμ, tally]
    simp

/-- The counter of a slot is one of those that the tally of its key adds up. -/
theorem le_tally_slot {t : Table α} {hits : Table γ} (hkeys : hits.keys = t.keys)
    (hroom : t.HasRoom) (p : α → Bool) {μ : Option γ → Nat} (hμ : μ none = 0) :
    μ (hits.get? (t.slot p)) ≤ t.tally hits p μ := by
  cases h : t.lastWhere? p with
  | some id =>
    obtain ⟨x, hx, hp⟩ := lastWhere?_eq_some h
    have hle := le_total (f := fun id a => if p a then μ (hits.get? id) else 0) hx
    simpa only [slot_of_some h, tally, hp, if_true] using hle
  | none =>
    have hnone : hits.get? (t.slot p) = none := by
      rw [slot_of_none h]
      exact get?_eq_none_iff.2 (hkeys ▸ nextId_not_mem hroom)
    rw [hnone, hμ]
    exact Nat.zero_le _

/-- Where a counter grows by `n`, the tally of the key grows by `n` and no other tally does. -/
theorem tally_withSlot_add {t : Table α} {hits : Table γ} (hkeys : hits.keys = t.keys)
    {p : α → Bool} {a : α} (hroom : (t.withSlot p a).HasRoom) {q : α → Bool}
    (hq : ∀ x, p x = true → q x = q a) {μ : Option γ → Nat} (hμ : μ none = 0)
    {f : Option γ → γ} {n : Nat}
    (hf : μ (some (f (hits.get? (t.slot p)))) = μ (hits.get? (t.slot p)) + n) :
    (t.withSlot p a).tally (hits.alter (t.slot p) f) q μ =
      t.tally hits q μ + if q a then n else 0 := by
  have hchange := tally_withSlot hkeys hroom hq hμ f
  rw [hf] at hchange
  split at hchange <;> rename_i hqa <;> simp only [hqa] <;> simp <;> omega

end Table

/-! ### Sites and deposits -/

/-- What the entries of a record are known by when they are brought together. -/
inductive Site where
  | statement (range : Position × Position)
  | function (decl : Position × Position)
  | outcome (branch : List (Position × Position)) (index : Nat)

/-- An entry on its way to a record. -/
inductive Deposit where
  | statement (range : Location) (hits : UInt64)
  | function (name : String) (decl body : Location) (hits : UInt64)
  | branch (kind : BranchKind) (range : Location) (outcomes : List Location) (hits : List UInt64)

namespace Deposit

/-- The record with the entry added to it. -/
def addTo (r : FileRecord) : Deposit → FileRecord
  | .statement range hits => (r.addStatement range hits).1
  | .function name decl body hits => (r.addFunction name decl body hits).1
  | .branch kind range outcomes hits => (r.addBranch kind range outcomes hits).1

/-- The hits that an entry brings to a site. -/
def hitsAt (site : Site) : Deposit → Nat
  | .statement range hits =>
    match site with
    | .statement key => if range.range = key then hits.toNat else 0
    | _ => 0
  | .function _ decl _ hits =>
    match site with
    | .function key => if decl.range = key then hits.toNat else 0
    | _ => 0
  | .branch _ _ outcomes hits =>
    match site with
    | .outcome key j => if outcomes.map Location.range = key then (hits.getD j 0).toNat else 0
    | _ => 0

/-- A branch brings one count per outcome. -/
def WellFormed : Deposit → Prop
  | .branch _ _ outcomes hits => hits.length = outcomes.length
  | _ => True

end Deposit

namespace FileRecord

/-- The hits of the entries at a site. -/
def hitsAt (r : FileRecord) : Site → Nat
  | .statement key =>
    r.statements.total fun id l => if l.range = key then (r.count (.statement id)).toNat else 0
  | .function key =>
    r.functions.total fun id f => if f.decl.range = key then (r.count (.function id)).toNat else 0
  | .outcome key j =>
    r.branches.total fun id b =>
      if b.outcomes.map Location.range = key then (r.count (.outcome id j)).toNat else 0

/-- How a single counter is read, and how an outcome is read from the counts of a branch. -/
def reading : Option UInt64 → Nat := fun n => (n.getD 0).toNat

def outcomeReading (j : Nat) : Option (List UInt64) → Nat := fun counts =>
  ((counts.getD []).getD j 0).toNat

theorem hitsAt_statement (r : FileRecord) (key : Position × Position) :
    r.hitsAt (.statement key) =
      r.statements.tally r.statementHits (fun l => l.range = key) reading := by
  simp [hitsAt, Table.tally, reading, count]

theorem hitsAt_function (r : FileRecord) (key : Position × Position) :
    r.hitsAt (.function key) =
      r.functions.tally r.functionHits (fun f => f.decl.range = key) reading := by
  simp [hitsAt, Table.tally, reading, count]

theorem hitsAt_outcome (r : FileRecord) (key : List (Position × Position)) (j : Nat) :
    r.hitsAt (.outcome key j) =
      r.branches.tally r.branchHits (fun b => b.outcomes.map Location.range = key)
        (outcomeReading j) := by
  simp [hitsAt, Table.tally, outcomeReading, count]

theorem addStatement_eq (r : FileRecord) (range : Location) (hits : UInt64) :
    (r.addStatement range hits).1 =
      { r with
        statements := r.statements.withSlot (fun l => l.range = range.range) range
        statementHits := r.statementHits.alter
          (r.statements.slot fun l => l.range = range.range) fun h => h.getD 0 + hits } := rfl

theorem addFunction_eq (r : FileRecord) (name : String) (decl body : Location) (hits : UInt64) :
    (r.addFunction name decl body hits).1 =
      { r with
        functions := r.functions.withSlot (fun f => f.decl.range = decl.range)
          ⟨name, decl, body, some body.start.line, body.skip⟩
        functionHits := r.functionHits.alter
          (r.functions.slot fun f => f.decl.range = decl.range) fun h => h.getD 0 + hits } := rfl

/-- The outcomes that a branch is known by. -/
def hasOutcomes (outcomes : List Location) (b : BranchEntry) : Bool :=
  b.outcomes.map Location.range = outcomes.map Location.range

theorem addBranch_eq {r : FileRecord} (hr : r.Sound) (kind : BranchKind) (range : Location)
    (outcomes : List Location) (hits : List UInt64)
    (hroom : r.branches.HasRoom) :
    (r.addBranch kind range outcomes hits).1 =
      { r with
        branches := r.branches.withSlot (hasOutcomes outcomes)
          ⟨some range, kind, outcomes, some range.start.line⟩
        branchHits := r.branchHits.alter (r.branches.slot (hasOutcomes outcomes)) fun old =>
          addCounts (old.getD (outcomes.map fun _ => 0)) hits } := by
  have hkey : (fun b : BranchEntry =>
      decide (b.outcomes.map Location.range = outcomes.map Location.range)) =
    hasOutcomes outcomes := rfl
  simp only [addBranch, hkey]
  cases h : r.branches.lastWhere? (hasOutcomes outcomes) with
  | some id =>
    obtain ⟨b, hb, -⟩ := Table.lastWhere?_eq_some h
    obtain ⟨counts, hc, -⟩ := hr.exists_counts hb
    simp [Table.slot, Table.withSlot, Table.alter, h, hc]
  | none =>
    have hnew : r.branchHits.get? r.branches.nextId = none :=
      Table.get?_eq_none_iff.2 (hr.branches ▸ Table.nextId_not_mem hroom)
    simp [Table.slot, Table.withSlot, Table.alter, h, hnew, Table.get?_insert, Table.insert_insert]

theorem length_eq_of_hasOutcomes {outcomes : List Location} {b : BranchEntry}
    (h : hasOutcomes outcomes b = true) : b.outcomes.length = outcomes.length := by
  have hsame := congrArg List.length (of_decide_eq_true h)
  rwa [List.length_map, List.length_map] at hsame

/-- A branch is counted under its id with one count per outcome, also where the id is one that was
handed out before. -/
theorem exists_addBranch_eq {r : FileRecord} (hr : r.Sound) (kind : BranchKind) (range : Location)
    (outcomes : List Location) (hits : List UInt64) :
    ∃ counts, counts.length = outcomes.length ∧
      (r.addBranch kind range outcomes hits).1 =
        { r with
          branches := r.branches.withSlot (hasOutcomes outcomes)
            ⟨some range, kind, outcomes, some range.start.line⟩
          branchHits := r.branchHits.insert (r.branches.slot (hasOutcomes outcomes)) counts } := by
  have hkey : (fun b : BranchEntry =>
      decide (b.outcomes.map Location.range = outcomes.map Location.range)) =
    hasOutcomes outcomes := rfl
  simp only [addBranch, hkey]
  cases h : r.branches.lastWhere? (hasOutcomes outcomes) with
  | some id =>
    obtain ⟨b, hb, hp⟩ := Table.lastWhere?_eq_some h
    obtain ⟨old, hold, hlength⟩ := hr.exists_counts hb
    refine ⟨addCounts old hits, ?_, ?_⟩
    · rw [length_addCounts, hlength, length_eq_of_hasOutcomes hp]
    · simp [Table.slot, Table.withSlot, h, hold]
  | none =>
    refine ⟨addCounts (outcomes.map fun _ => 0) hits, by simp, ?_⟩
    simp [Table.slot, Table.withSlot, h, Table.get?_insert, Table.insert_insert]

/-- The counts that a branch is added to are as many as its outcomes. -/
theorem length_counts_slot {r : FileRecord} (hr : r.Sound) (hroom : r.branches.HasRoom)
    (outcomes : List Location) :
    ((r.branchHits.get? (r.branches.slot (hasOutcomes outcomes))).getD
      (outcomes.map fun _ => 0)).length = outcomes.length := by
  cases h : r.branches.lastWhere? (hasOutcomes outcomes) with
  | some id =>
    obtain ⟨b, hb, hp⟩ := Table.lastWhere?_eq_some h
    obtain ⟨counts, hc, hlength⟩ := hr.exists_counts hb
    have hsame := length_eq_of_hasOutcomes hp
    simp only [Table.slot, h, Option.getD_some, hc]
    omega
  | none =>
    have hnew : r.branchHits.get? r.branches.nextId = none :=
      Table.get?_eq_none_iff.2 (hr.branches ▸ Table.nextId_not_mem hroom)
    simp [Table.slot, h, hnew]

end FileRecord

namespace Deposit

variable {r : FileRecord} {d : Deposit}

/-- A record that has room after an entry was added had it before. -/
theorem hasRoom_of_addTo (h : (d.addTo r).HasRoom) : r.HasRoom := by
  obtain ⟨hs, hf, hb⟩ := h
  cases d with
  | statement range hits => exact ⟨hs.of_withSlot, hf, hb⟩
  | function name decl body hits => exact ⟨hs, hf.of_withSlot, hb⟩
  | branch kind range outcomes hits => exact ⟨hs, hf, hb.of_withSlot⟩

/-- What one step preserves: the record stays sound, whichever id the entry gets. -/
theorem sound_addTo (hr : r.Sound) (d : Deposit) : (d.addTo r).Sound := by
  cases d with
  | statement range hits =>
    exact ⟨Table.keys_withSlot hr.statements _ _ _, hr.functions, hr.branches, hr.outcomes⟩
  | function name decl body hits =>
    exact ⟨hr.statements, Table.keys_withSlot hr.functions _ _ _, hr.branches, hr.outcomes⟩
  | branch kind range outcomes hits =>
    obtain ⟨counts, hlength, hadd⟩ := FileRecord.exists_addBranch_eq hr kind range outcomes hits
    rw [addTo, hadd]
    refine ⟨hr.statements, hr.functions, Table.keys_withSlot hr.branches _ _ fun _ => counts, ?_⟩
    intro id found hfound
    simp only [Table.get?_insert] at hfound
    simp only [FileRecord.outcomeCount]
    split at hfound
    · rename_i hid
      cases hfound
      have hself : FileRecord.hasOutcomes outcomes
          ⟨some range, kind, outcomes, some range.start.line⟩ = true := decide_eq_true rfl
      obtain ⟨b, hb, hp⟩ : ∃ b, (r.branches.withSlot (FileRecord.hasOutcomes outcomes) _).get? _ =
        some b ∧ _ := Table.get?_slot_withSlot hself
      rw [← hid, hb, hlength]
      exact (FileRecord.length_eq_of_hasOutcomes hp).symm
    · rename_i hid
      rw [Table.get?_withSlot_of_ne (Ne.symm hid)]
      exact hr.outcomes id found hfound

/-- A counter that has room for `n` grows by `n`. -/
theorem reading_add {old : Option UInt64} {n : UInt64}
    (h : FileRecord.reading old + n.toNat < 2 ^ 64) :
    FileRecord.reading (some (old.getD 0 + n)) = FileRecord.reading old + n.toNat := by
  simp only [FileRecord.reading, Option.getD_some, UInt64.toNat_add] at h ⊢
  exact Nat.mod_eq_of_lt h

theorem outcomeReading_add {old : Option (List UInt64)} (zeros : List UInt64) {hits : List UInt64}
    {j : Nat} (hzeros : ∀ n ∈ zeros, n = 0) (hlength : hits.length = (old.getD zeros).length)
    (h : FileRecord.outcomeReading j old + (hits.getD j 0).toNat < 2 ^ 64) :
    FileRecord.outcomeReading j (some (addCounts (old.getD zeros) hits)) =
      FileRecord.outcomeReading j old + (hits.getD j 0).toNat := by
  have hold : FileRecord.outcomeReading j old = ((old.getD zeros).getD j 0).toNat := by
    cases old with
    | some counts => rfl
    | none =>
      have hzero : zeros.getD j 0 = 0 := by
        rw [List.getD_eq_getElem?_getD]
        cases hj : zeros[j]? with
        | none => rfl
        | some n => exact hzeros n (List.mem_of_getElem? hj)
      simp only [FileRecord.outcomeReading, Option.getD_none, hzero]
      rfl
  rw [hold] at h ⊢
  simp only [FileRecord.outcomeReading, Option.getD_some, getD_addCounts hlength]
  rw [UInt64.toNat_add]
  exact Nat.mod_eq_of_lt h

/-! A counter has room for the hits of an entry if the entries of its key have room together. -/

theorem reading_addStatement (hr : r.Sound) (hroom : r.HasRoom) {range : Location} {hits : UInt64}
    (hfit : ∀ site, r.hitsAt site + (statement range hits).hitsAt site < 2 ^ 64) :
    FileRecord.reading (some ((r.statementHits.get?
        (r.statements.slot fun l => l.range = range.range)).getD 0 + hits)) =
      FileRecord.reading (r.statementHits.get?
        (r.statements.slot fun l => l.range = range.range)) + hits.toNat := by
  have hle := Table.le_tally_slot hr.statements hroom.statements
    (fun l => l.range = range.range) (μ := FileRecord.reading) rfl
  have hbelow := hfit (.statement range.range)
  rw [FileRecord.hitsAt_statement] at hbelow
  simp only [hitsAt, if_true] at hbelow
  exact reading_add (Nat.lt_of_le_of_lt (Nat.add_le_add_right hle _) hbelow)

theorem reading_addFunction (hr : r.Sound) (hroom : r.HasRoom) {name : String}
    {decl body : Location} {hits : UInt64}
    (hfit : ∀ site, r.hitsAt site + (function name decl body hits).hitsAt site < 2 ^ 64) :
    FileRecord.reading (some ((r.functionHits.get?
        (r.functions.slot fun f => f.decl.range = decl.range)).getD 0 + hits)) =
      FileRecord.reading (r.functionHits.get?
        (r.functions.slot fun f => f.decl.range = decl.range)) + hits.toNat := by
  have hle := Table.le_tally_slot hr.functions hroom.functions
    (fun f => f.decl.range = decl.range) (μ := FileRecord.reading) rfl
  have hbelow := hfit (.function decl.range)
  rw [FileRecord.hitsAt_function] at hbelow
  simp only [hitsAt, if_true] at hbelow
  exact reading_add (Nat.lt_of_le_of_lt (Nat.add_le_add_right hle _) hbelow)

theorem reading_addBranch (hr : r.Sound) (hroom : r.HasRoom) {kind : BranchKind}
    {range : Location} {outcomes : List Location} {hits : List UInt64}
    (hlength : hits.length = outcomes.length)
    (hfit : ∀ site, r.hitsAt site + (branch kind range outcomes hits).hitsAt site < 2 ^ 64)
    (j : Nat) :
    FileRecord.outcomeReading j (some (addCounts ((r.branchHits.get?
        (r.branches.slot (FileRecord.hasOutcomes outcomes))).getD (outcomes.map fun _ => 0)) hits)) =
      FileRecord.outcomeReading j (r.branchHits.get?
        (r.branches.slot (FileRecord.hasOutcomes outcomes))) + (hits.getD j 0).toNat := by
  have hle := Table.le_tally_slot hr.branches hroom.branches
    (FileRecord.hasOutcomes outcomes) (μ := FileRecord.outcomeReading j) rfl
  have hbelow := hfit (.outcome (outcomes.map Location.range) j)
  rw [FileRecord.hitsAt_outcome] at hbelow
  simp only [hitsAt, if_true] at hbelow
  exact outcomeReading_add (outcomes.map fun _ => 0) (by simp)
    (hlength.trans (FileRecord.length_counts_slot hr hroom.branches outcomes).symm)
    (Nat.lt_of_le_of_lt (Nat.add_le_add_right hle _) hbelow)

/-- The step: an entry brings its hits to its own site and changes no other site. -/
theorem hitsAt_addTo (hr : r.Sound) (hd : d.WellFormed) (hroom : (d.addTo r).HasRoom)
    (hfit : ∀ site, r.hitsAt site + d.hitsAt site < 2 ^ 64) (site : Site) :
    (d.addTo r).hitsAt site = r.hitsAt site + d.hitsAt site := by
  have hroom' := hasRoom_of_addTo hroom
  cases d with
  | statement range hits =>
    cases site with
    | statement key =>
      have hadd := Table.tally_withSlot_add hr.statements hroom.statements
        (q := fun l => l.range = key) (μ := FileRecord.reading) (f := fun h => h.getD 0 + hits)
        (fun x hx => by rw [of_decide_eq_true hx]) rfl (reading_addStatement hr hroom' hfit)
      rw [addTo, FileRecord.addStatement_eq, FileRecord.hitsAt_statement,
        FileRecord.hitsAt_statement]
      simpa only [hitsAt, decide_eq_true_eq] using hadd
    | function key => rfl
    | outcome key j => rfl
  | function name decl body hits =>
    cases site with
    | statement key => rfl
    | function key =>
      have hadd := Table.tally_withSlot_add hr.functions hroom.functions
        (q := fun f => f.decl.range = key) (μ := FileRecord.reading)
        (f := fun h => h.getD 0 + hits) (fun x hx => by rw [of_decide_eq_true hx]) rfl
        (reading_addFunction hr hroom' hfit)
      rw [addTo, FileRecord.addFunction_eq, FileRecord.hitsAt_function, FileRecord.hitsAt_function]
      simpa only [hitsAt, decide_eq_true_eq] using hadd
    | outcome key j => rfl
  | branch kind range outcomes hits =>
    cases site with
    | statement key => rfl
    | function key => rfl
    | outcome key j =>
      have hadd := Table.tally_withSlot_add hr.branches hroom.branches
        (p := FileRecord.hasOutcomes outcomes)
        (q := fun b => b.outcomes.map Location.range = key) (μ := FileRecord.outcomeReading j)
        (f := fun old => addCounts (old.getD (outcomes.map fun _ => 0)) hits)
        (fun x hx => by rw [of_decide_eq_true hx]) rfl (reading_addBranch hr hroom' hd hfit j)
      rw [addTo, FileRecord.addBranch_eq hr kind range outcomes hits hroom'.branches,
        FileRecord.hitsAt_outcome, FileRecord.hitsAt_outcome]
      simpa only [hitsAt, decide_eq_true_eq] using hadd

/-- The record with entries added one after the other. -/
def addAllTo (r : FileRecord) (ds : List Deposit) : FileRecord :=
  ds.foldl (fun r d => d.addTo r) r

theorem hasRoom_of_addAllTo {r : FileRecord} (ds : List Deposit) (h : (addAllTo r ds).HasRoom) :
    r.HasRoom := by
  induction ds generalizing r with
  | nil => exact h
  | cons d ds ih => exact hasRoom_of_addTo (ih h)

theorem sound_addAllTo {r : FileRecord} (hr : r.Sound) (ds : List Deposit) :
    (addAllTo r ds).Sound := by
  induction ds generalizing r with
  | nil => exact hr
  | cons d ds ih => exact ih (sound_addTo hr d)

/-- The run: any number of entries bring what each of them brings. -/
theorem hitsAt_addAllTo {r : FileRecord} {ds : List Deposit} (hr : r.Sound)
    (hd : ∀ d ∈ ds, d.WellFormed) (hroom : (addAllTo r ds).HasRoom)
    (hfit : ∀ site, r.hitsAt site + (ds.map (·.hitsAt site)).sum < 2 ^ 64) (site : Site) :
    (addAllTo r ds).hitsAt site = r.hitsAt site + (ds.map (·.hitsAt site)).sum := by
  induction ds generalizing r with
  | nil => rfl
  | cons d ds ih =>
    obtain ⟨hd, hds⟩ := List.forall_mem_cons.1 hd
    simp only [List.map_cons, List.sum_cons] at hfit ⊢
    have hmid : (d.addTo r).HasRoom := hasRoom_of_addAllTo ds hroom
    have hstep : ∀ site, (d.addTo r).hitsAt site = r.hitsAt site + d.hitsAt site := fun site =>
      hitsAt_addTo hr hd hmid (fun site => by have := hfit site; omega) site
    have hrest := ih (sound_addTo hr d) hds hroom fun site => by
      rw [hstep]
      have := hfit site
      omega
    calc (addAllTo r (d :: ds)).hitsAt site
        = (d.addTo r).hitsAt site + (ds.map (·.hitsAt site)).sum := hrest
      _ = r.hitsAt site + (d.hitsAt site + (ds.map (·.hitsAt site)).sum) := by
        rw [hstep, Nat.add_assoc]

end Deposit

end Coverage
