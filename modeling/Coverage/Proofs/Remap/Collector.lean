import Coverage.Proofs.Remap.Entries
import Coverage.Remap.Collector

/-!
# A collector counts each entry under the only id of its key

The indices of a collector give the same ids as going through its record (`Collector.InStep`), so it
collects the same record (`Collector.record_addAll`). In a record whose keys are distinct
(`FileRecord.KeysDistinct`) the id of a key is the only one. What a single call does is stated in
`Deposit.Counted`: it counts an entry under the id of its key, which is greater than all earlier ones
if the key is new, and leaves everything else as it is. The keys stay distinct, so this holds for each
call of a run (`Collector.addAll_counted`).
-/

namespace Coverage

namespace Table

variable {α κ : Type} {t : Table α}

/-! ### Entries with a key -/

/-- No two entries of a table have the same key. -/
def Distinct (t : Table α) (key : α → κ) : Prop :=
  ∀ i j a b, t.get? i = some a → t.get? j = some b → key a = key b → i = j

theorem Distinct.empty (key : α → κ) : (Table.empty : Table α).Distinct key := by
  intro i j a b ha
  rw [get?_empty] at ha
  cases ha

/-- A table in which an entry stands at `id`: it was there, or it is `a`, behind all others. -/
inductive Grown (t : Table α) (id : Id) (a : α) : Table α → Prop where
  | known (h : id ∈ t.keys) : Grown t id a t
  | new {t' : Table α} (hlast : ∀ k ∈ t.keys, k < id) (h : t'.entries = t.entries ++ [(id, a)]) :
    Grown t id a t'

theorem grown_withSlot (hroom : t.HasRoom) (p : α → Bool) (a : α) :
    t.Grown (t.slot p) a (t.withSlot p a) := by
  cases h : t.lastWhere? p with
  | some id =>
    obtain ⟨x, hx, -⟩ := lastWhere?_eq_some h
    rw [withSlot_of_some h, slot_of_some h]
    exact .known (mem_keys_iff.2 ⟨x, hx⟩)
  | none =>
    have hlast : ∀ k ∈ t.keys, k < t.nextId := fun k hk => lt_nextId hroom hk
    rw [withSlot_of_none h, slot_of_none h]
    exact .new hlast (entries_insert_of_forall_lt a hlast)

variable [DecidableEq κ] {key : α → κ}

/-- An entry that is opened for a key that no other has keeps the keys distinct. -/
theorem Distinct.withSlot (h : t.Distinct key) (a : α) :
    (t.withSlot (fun x => key x = key a) a).Distinct key := by
  cases hlast : t.lastWhere? fun x => key x = key a with
  | some id => rwa [withSlot_of_some hlast]
  | none =>
    have hnew : ∀ id x, t.get? id = some x → key x ≠ key a := by
      intro id x hx
      simpa using lastWhere?_eq_none_iff.1 hlast id x hx
    rw [withSlot_of_none hlast]
    intro i j x y hx hy hkey
    rw [get?_insert] at hx hy
    split at hx
    · next hi =>
      split at hy
      · next hj => exact hi.symm.trans hj
      · cases hx
        exact absurd hkey.symm (hnew j y hy)
    · split at hy
      · cases hy
        exact absurd hkey (hnew i x hx)
      · exact h i j x y hx hy hkey

/-- The slot for a key is the only entry with it. -/
theorem Distinct.at_slot_iff (h : t.Distinct key) (a : α) (k : Id) :
    (∃ x, (t.withSlot (fun x => key x = key a) a).get? k = some x ∧ key x = key a) ↔
      k = t.slot fun x => key x = key a := by
  obtain ⟨y, hy, hkey⟩ := get?_slot_withSlot (t := t) (p := fun x => key x = key a) (a := a)
    (decide_eq_true rfl)
  have hkey' := of_decide_eq_true hkey
  constructor
  · rintro ⟨x, hx, hxa⟩
    exact h.withSlot a k _ x y hx hy (hxa.trans hkey'.symm)
  · rintro rfl
    exact ⟨y, hy, hkey'⟩

/-! ### An index in step with its table -/

variable [BEq κ] [LawfulBEq κ] [Hashable κ] {index : Std.HashMap κ Id}

/-- An index gives the id of the last entry with a key. -/
def InStep (t : Table α) (index : Std.HashMap κ Id) (key : α → κ) : Prop :=
  ∀ k, index[k]? = t.lastWhere? fun a => key a = k

/-- The entry at the end is the last one with its key, and hides no other. -/
theorem lastWhere?_insert {id : Id} (a : α) (h : ∀ k ∈ t.keys, k < id) (p : α → Bool) :
    (t.insert id a).lastWhere? p = if p a then some id else t.lastWhere? p := by
  rw [lastWhere?, entries_insert_of_forall_lt a h, List.reverse_append, List.reverse_singleton,
    List.singleton_append, List.find?_cons]
  cases p a <;> rfl

theorem inStep_index (t : Table α) (key : α → κ) : t.InStep (t.index key) key := by
  intro k
  rw [index, lastWhere?]
  induction t.entries using List.reverseRecOn with
  | nil => simp
  | append_singleton l e ih =>
    rw [List.foldl_concat, Std.HashMap.getElem?_insert, ih, List.reverse_append,
      List.reverse_singleton, List.singleton_append, List.find?_cons]
    by_cases hkey : key e.2 = k <;> simp [hkey]

omit [LawfulBEq κ] in
theorem enter_eq (h : t.InStep index key) (a : α) :
    (t.enter index (key a) a).1 = t.withSlot (fun x => key x = key a) a ∧
      (t.enter index (key a) a).2.2 = t.slot fun x => key x = key a := by
  rw [enter, h (key a)]
  cases hlast : t.lastWhere? fun x => key x = key a with
  | some id =>
    rw [withSlot_of_some hlast, slot_of_some hlast]
    exact ⟨rfl, rfl⟩
  | none =>
    rw [withSlot_of_none hlast, slot_of_none hlast]
    exact ⟨rfl, rfl⟩

theorem inStep_enter (h : t.InStep index key) (hroom : t.HasRoom) (a : α) :
    (t.enter index (key a) a).1.InStep (t.enter index (key a) a).2.1 key := by
  rw [enter]
  cases index[key a]? with
  | some id => exact h
  | none =>
    intro k
    rw [Std.HashMap.getElem?_insert, lastWhere?_insert a fun _ hk => lt_nextId hroom hk, h k]
    simp

end Table

/-! ### The keys of a record -/

namespace FileRecord

/-- The entries of a record are told apart by what they are known by. -/
structure KeysDistinct (r : FileRecord) : Prop where
  statements : r.statements.Distinct Location.range
  functions : r.functions.Distinct fun f => f.decl.range
  branches : r.branches.Distinct fun b => b.outcomes.map Location.range

theorem keysDistinct_empty (path : String) : (empty path).KeysDistinct :=
  ⟨.empty _, .empty _, .empty _⟩

end FileRecord

namespace Deposit

variable {r : FileRecord} {d : Deposit}

open FileRecord (KeysDistinct)
open Instrument (Counter)

/-- The id that an entry is counted under. -/
def idIn (r : FileRecord) : Deposit → Id
  | .statement range hits => (r.addStatement range hits).2
  | .function name decl body hits => (r.addFunction name decl body hits).2
  | .branch kind range outcomes hits => (r.addBranch kind range outcomes hits).2

/-- An id has an entry with the key of the one that is added. -/
def KeyAt (r : FileRecord) (id : Id) : Deposit → Prop
  | .statement range _ => ∃ l, r.statements.get? id = some l ∧ l.range = range.range
  | .function _ decl _ _ => ∃ f, r.functions.get? id = some f ∧ f.decl.range = decl.range
  | .branch _ _ outcomes _ =>
    ∃ b, r.branches.get? id = some b ∧
      b.outcomes.map Location.range = outcomes.map Location.range

/-- The hits that an entry brings to a counter when it is counted under an id. -/
def hitsTo (id : Id) (c : Counter) : Deposit → Nat
  | .statement _ hits => if c = .statement id then hits.toNat else 0
  | .function _ _ _ hits => if c = .function id then hits.toNat else 0
  | .branch _ _ _ hits =>
    match c with
    | .outcome k j => if k = id then (hits.getD j 0).toNat else 0
    | _ => 0

/-- A record that has changed by an entry under an id: the descriptions of one kind have grown by it,
if it was not there, and only they and their counters have changed. -/
def Grows (r r' : FileRecord) (id : Id) : Deposit → Prop
  | .statement range _ => r.statements.Grown id range r'.statements ∧
      r' = { r with statements := r'.statements, statementHits := r'.statementHits }
  | .function name decl body _ =>
      r.functions.Grown id ⟨name, decl, body, some body.start.line, body.skip⟩ r'.functions ∧
      r' = { r with functions := r'.functions, functionHits := r'.functionHits }
  | .branch kind range outcomes _ =>
      r.branches.Grown id ⟨some range, kind, outcomes, some range.start.line⟩ r'.branches ∧
      r' = { r with branches := r'.branches, branchHits := r'.branchHits }

/-- What counting an entry under `id` makes of a record. -/
structure Counted (d : Deposit) (r r' : FileRecord) (id : Id) : Prop where
  /-- The entry at `id` is the only one with the key. -/
  key : ∀ k, d.KeyAt r' k ↔ k = id
  /-- What was described before stays so. -/
  grows : d.Grows r r' id
  /-- The hits go to the counters of `id` and to no others. -/
  count : ∀ c, (r'.count c).toNat = (r.count c).toNat + d.hitsTo id c

theorem keysDistinct_addTo (h : r.KeysDistinct) (d : Deposit) : (d.addTo r).KeysDistinct := by
  cases d with
  | statement range hits => exact ⟨h.statements.withSlot range, h.functions, h.branches⟩
  | function name decl body hits =>
    exact ⟨h.statements,
      h.functions.withSlot ⟨name, decl, body, some body.start.line, body.skip⟩, h.branches⟩
  | branch kind range outcomes hits =>
    exact ⟨h.statements, h.functions,
      h.branches.withSlot ⟨some range, kind, outcomes, some range.start.line⟩⟩

theorem keysDistinct_addAllTo (h : r.KeysDistinct) (ds : List Deposit) :
    (addAllTo r ds).KeysDistinct := by
  induction ds generalizing r with
  | nil => exact h
  | cons d ds ih => exact ih (keysDistinct_addTo h d)

theorem keyAt_addTo (h : r.KeysDistinct) (d : Deposit) (k : Id) :
    d.KeyAt (d.addTo r) k ↔ k = d.idIn r := by
  cases d with
  | statement range hits => exact h.statements.at_slot_iff range k
  | function name decl body hits =>
    exact h.functions.at_slot_iff ⟨name, decl, body, some body.start.line, body.skip⟩ k
  | branch kind range outcomes hits =>
    exact h.branches.at_slot_iff ⟨some range, kind, outcomes, some range.start.line⟩ k

theorem grows_addTo (hroom : r.HasRoom) (d : Deposit) : d.Grows r (d.addTo r) (d.idIn r) := by
  cases d with
  | statement range hits => exact ⟨Table.grown_withSlot hroom.statements _ _, rfl⟩
  | function name decl body hits => exact ⟨Table.grown_withSlot hroom.functions _ _, rfl⟩
  | branch kind range outcomes hits => exact ⟨Table.grown_withSlot hroom.branches _ _, rfl⟩

/-- The step: an entry brings its hits to the counters of its id and to no other. A counter has room
for them if all entries of the key have together. -/
theorem count_addTo (hr : r.Sound) (hd : d.WellFormed) (hroom : r.HasRoom)
    (hfit : ∀ site, r.hitsAt site + d.hitsAt site < 2 ^ 64) (c : Counter) :
    ((d.addTo r).count c).toNat = (r.count c).toNat + d.hitsTo (d.idIn r) c := by
  cases d with
  | statement range hits =>
    cases c with
    | statement k =>
      have hread := Table.read_alter (μ := FileRecord.reading) (f := fun h => h.getD 0 + hits) k
        (reading_addStatement hr hroom hfit)
      simp only [hitsTo, Counter.statement.injEq]
      exact hread
    | function k => rfl
    | outcome k j => rfl
  | function name decl body hits =>
    cases c with
    | statement k => rfl
    | function k =>
      have hread := Table.read_alter (μ := FileRecord.reading) (f := fun h => h.getD 0 + hits) k
        (reading_addFunction hr hroom hfit)
      simp only [hitsTo, Counter.function.injEq]
      exact hread
    | outcome k j => rfl
  | branch kind range outcomes hits =>
    cases c with
    | statement k => rfl
    | function k => rfl
    | outcome k j =>
      have hread := Table.read_alter (μ := FileRecord.outcomeReading j)
        (f := fun old => addCounts (old.getD (outcomes.map fun _ => 0)) hits) k
        (reading_addBranch hr hroom hd hfit j)
      rw [addTo, FileRecord.addBranch_eq hr kind range outcomes hits hroom.branches]
      exact hread

theorem counted_addTo (hr : r.Sound) (hkeys : r.KeysDistinct) (hd : d.WellFormed)
    (hroom : r.HasRoom) (hfit : ∀ site, r.hitsAt site + d.hitsAt site < 2 ^ 64) :
    d.Counted r (d.addTo r) (d.idIn r) :=
  ⟨keyAt_addTo hkeys d, grows_addTo hroom d, count_addTo hr hd hroom hfit⟩

end Deposit

/-! ### Runs -/

namespace FileRecord

/-- What collecting may start from: a path and nothing else, or a valid record with distinct keys. -/
def Collectable (r : FileRecord) : Prop :=
  (∃ path, r = .empty path) ∨ r.validate = .ok () ∧ r.KeysDistinct

variable {r : FileRecord}

theorem Collectable.sound (h : r.Collectable) : r.Sound := by
  cases h with
  | inl h =>
    obtain ⟨path, rfl⟩ := h
    exact .empty path
  | inr h => exact .of_validate h.1

theorem Collectable.keysDistinct (h : r.Collectable) : r.KeysDistinct := by
  cases h with
  | inl h =>
    obtain ⟨path, rfl⟩ := h
    exact keysDistinct_empty path
  | inr h => exact h.2

end FileRecord

namespace Deposit

variable {r : FileRecord} {d : Deposit} {ds before : List Deposit}

/-- Whenever one of the entries is added, the greatest ids of all kinds are free. -/
def RoomFor (r : FileRecord) (ds : List Deposit) : Prop :=
  ∀ before d, before ++ [d] <+: ds → (addAllTo r before).HasRoom

theorem RoomFor.of_prefix (h : RoomFor r ds) (hpre : before <+: ds) : RoomFor r before :=
  fun _ _ hmore => h _ _ (hmore.trans hpre)

/-- It is enough that they are free in the end. -/
theorem RoomFor.of_hasRoom (h : (addAllTo r ds).HasRoom) : RoomFor r ds := by
  intro before d hpre
  obtain ⟨behind, rfl⟩ := (List.prefix_append before [d]).trans hpre
  refine hasRoom_of_addAllTo behind ?_
  rw [addAllTo, List.foldl_append] at h
  exact h

theorem addAllTo_concat (r : FileRecord) (ds : List Deposit) (d : Deposit) :
    addAllTo r (ds ++ [d]) = d.addTo (addAllTo r ds) := List.foldl_concat ..

theorem validate_addAllTo (h : r.validate = .ok ()) (ds : List Deposit) :
    (addAllTo r ds).validate = .ok () := by
  rw [FileRecord.validate_eq_ok_iff] at h ⊢
  rw [path_addAllTo]
  exact ⟨h.1, sound_addAllTo h.2 ds⟩

/-- Each entry of a run is counted, since what has been brought before it leaves room for it. -/
theorem counted_of_prefix (hr : r.Collectable) (hwell : ∀ d ∈ ds, d.WellFormed)
    (hroom : RoomFor r ds) (hfit : ∀ site, r.hitsAt site + (ds.map (·.hitsAt site)).sum < 2 ^ 64)
    (hpre : before ++ [d] <+: ds) :
    d.Counted (addAllTo r before) (d.addTo (addAllTo r before)) (d.idIn (addAllTo r before)) := by
  obtain ⟨behind, rfl⟩ := hpre
  have hroom' : (addAllTo r before).HasRoom := hroom before d (List.prefix_append _ _)
  have hbelow : ∀ site, r.hitsAt site + (before.map (·.hitsAt site)).sum + d.hitsAt site < 2 ^ 64 := by
    intro site
    have hall := hfit site
    simp only [List.map_append, List.map_cons, List.map_nil, List.sum_append, List.sum_cons,
      List.sum_nil] at hall
    omega
  have hbefore := hitsAt_addAllTo hr.sound
    (fun e he => hwell e (List.mem_append_left _ (List.mem_append_left _ he))) hroom'
    fun site => Nat.lt_of_le_of_lt (Nat.le_add_right _ _) (hbelow site)
  refine counted_addTo (sound_addAllTo hr.sound before) (keysDistinct_addAllTo hr.keysDistinct before)
    (hwell d (by simp)) hroom' ?_
  intro site
  rw [hbefore]
  exact hbelow site

end Deposit

/-! ### Collectors -/

namespace Collector

variable {c : Collector} {d : Deposit} {ds : List Deposit}

/-- The collector with an entry added to it, and the id that is returned. -/
def add (c : Collector) : Deposit → Collector × Id
  | .statement range hits => c.addStatement range hits
  | .function name decl body hits => c.addFunction name decl body hits
  | .branch kind range outcomes hits => c.addBranch kind range outcomes hits

/-- The collector with entries added one after the other. -/
def addAll (c : Collector) (ds : List Deposit) : Collector := ds.foldl (fun c d => (c.add d).1) c

/-- The indices give what going through the record gives. -/
structure InStep (c : Collector) : Prop where
  statements : c.record.statements.InStep c.statements Location.range
  functions : c.record.functions.InStep c.functions fun f => f.decl.range
  branches : c.record.branches.InStep c.branches fun b => b.outcomes.map Location.range

theorem inStep_ofRecord (r : FileRecord) : (ofRecord r).InStep :=
  ⟨Table.inStep_index _ _, Table.inStep_index _ _, Table.inStep_index _ _⟩

theorem record_addBranch (h : c.InStep) (kind : BranchKind) (range : Location)
    (outcomes : List Location) (hits : List UInt64) :
    (c.addBranch kind range outcomes hits).1.record =
      (c.record.addBranch kind range outcomes hits).1 := by
  have hindex := h.branches (outcomes.map Location.range)
  cases hlast : c.record.branches.lastWhere? fun b =>
      b.outcomes.map Location.range = outcomes.map Location.range with
  | some id =>
    rw [hlast] at hindex
    simp only [addBranch, Table.enter, hindex, FileRecord.addBranch, hlast]
    rfl
  | none =>
    rw [hlast] at hindex
    simp only [addBranch, Table.enter, hindex, FileRecord.addBranch, hlast]
    rfl

/-- The step: by its indices a collector adds an entry to the record as going through it does. -/
theorem add_eq (h : c.InStep) (d : Deposit) :
    (c.add d).1.record = d.addTo c.record ∧ (c.add d).2 = d.idIn c.record := by
  cases d with
  | statement range hits =>
    obtain ⟨htable, hid⟩ := Table.enter_eq h.statements range
    refine ⟨?_, hid⟩
    rw [Deposit.addTo, FileRecord.addStatement_eq, ← htable, ← hid]
    rfl
  | function name decl body hits =>
    obtain ⟨htable, hid⟩ := Table.enter_eq h.functions
      ⟨name, decl, body, some body.start.line, body.skip⟩
    refine ⟨?_, hid⟩
    rw [Deposit.addTo, FileRecord.addFunction_eq, ← htable, ← hid]
    rfl
  | branch kind range outcomes hits =>
    have hentry := Table.enter_eq h.branches ⟨some range, kind, outcomes, some range.start.line⟩
    exact ⟨record_addBranch h kind range outcomes hits, hentry.2⟩

/-- The indices stay in step as long as the greatest id is free before an entry is added. -/
theorem inStep_add (h : c.InStep) (hroom : c.record.HasRoom) (d : Deposit) :
    (c.add d).1.InStep := by
  cases d with
  | statement range hits =>
    exact ⟨Table.inStep_enter h.statements hroom.statements range, h.functions, h.branches⟩
  | function name decl body hits =>
    exact ⟨h.statements, Table.inStep_enter h.functions hroom.functions
      ⟨name, decl, body, some body.start.line, body.skip⟩, h.branches⟩
  | branch kind range outcomes hits =>
    exact ⟨h.statements, h.functions, Table.inStep_enter h.branches hroom.branches
      ⟨some range, kind, outcomes, some range.start.line⟩⟩

theorem addAll_concat (c : Collector) (ds : List Deposit) (d : Deposit) :
    c.addAll (ds ++ [d]) = ((c.addAll ds).add d).1 := List.foldl_concat ..

/-- The run: a collector collects the same record as going through it does. -/
theorem record_addAll (h : c.InStep) (hroom : Deposit.RoomFor c.record ds) :
    (c.addAll ds).InStep ∧ (c.addAll ds).record = Deposit.addAllTo c.record ds := by
  -- From the end: the last entry finds the indices in step with what the others have left.
  induction ds using List.reverseRecOn with
  | nil => exact ⟨h, rfl⟩
  | append_singleton ds d ih =>
    obtain ⟨hstep, hrecord⟩ := ih (hroom.of_prefix (List.prefix_append ds [d]))
    have hroom' : (c.addAll ds).record.HasRoom := by
      rw [hrecord]
      exact hroom ds d (List.prefix_refl _)
    rw [addAll_concat, Deposit.addAllTo_concat, ← hrecord]
    exact ⟨inStep_add hstep hroom' d, (add_eq hstep d).1⟩

/-- A run of calls on a collector. After any number of them it has the record that going through it
collects, whose keys are distinct, and which is valid if the one to start from was. Each call returns
the id that going through the record finds, and counts its entry under this id as `Deposit.Counted`
states it. The greatest ids are to be free before each call, and all hits of one key are to fit into
a counter together. -/
theorem addAll_counted {start : FileRecord} (hstart : start.Collectable)
    (hwell : ∀ d ∈ ds, d.WellFormed) (hroom : Deposit.RoomFor start ds)
    (hfit : ∀ site, start.hitsAt site + (ds.map (·.hitsAt site)).sum < 2 ^ 64) :
    (∀ before, before <+: ds →
      let c := (ofRecord start).addAll before
      c.record = Deposit.addAllTo start before ∧ c.record.KeysDistinct ∧
        (start.validate = .ok () → c.record.validate = .ok ())) ∧
    ∀ before d, before ++ [d] <+: ds →
      let c := (ofRecord start).addAll before
      (c.add d).2 = d.idIn c.record ∧ d.Counted c.record (c.add d).1.record (c.add d).2 := by
  have hrun : ∀ before, before <+: ds → ((ofRecord start).addAll before).InStep ∧
      ((ofRecord start).addAll before).record = Deposit.addAllTo start before := fun before hpre =>
    record_addAll (inStep_ofRecord start) (hroom.of_prefix hpre)
  constructor
  · intro before hpre c
    obtain ⟨-, hrecord⟩ := hrun before hpre
    refine ⟨hrecord, ?_, ?_⟩
    · rw [hrecord]
      exact Deposit.keysDistinct_addAllTo hstart.keysDistinct before
    · intro hvalid
      rw [hrecord]
      exact Deposit.validate_addAllTo hvalid before
  · intro before d hpre c
    obtain ⟨hstep, hrecord⟩ := hrun before ((List.prefix_append before [d]).trans hpre)
    obtain ⟨hadded, hid⟩ := add_eq hstep d
    refine ⟨hid, ?_⟩
    rw [hadded, hid, hrecord]
    exact Deposit.counted_of_prefix hstart hwell hroom hfit hpre

/-- A record whose only statement has the id 4. -/
def sparseRecord : FileRecord :=
  { FileRecord.empty "a.ts" with
    statements := Table.empty.insert 4 (.between ⟨1, 0⟩ ⟨1, 5⟩)
    statementHits := Table.empty.insert 4 2 }

/-- The statement of `sparseRecord` again, a new one, and a branch. -/
def threeEntries : List Deposit :=
  [.statement (.between ⟨1, 0⟩ ⟨1, 5⟩) 3, .statement (.between ⟨2, 0⟩ ⟨2, 5⟩) 1,
    .branch .ifElse (.between ⟨1, 0⟩ ⟨2, 5⟩) [.between ⟨1, 0⟩ ⟨1, 5⟩, .between ⟨2, 0⟩ ⟨2, 5⟩] [1, 0]]

theorem collectable_sparseRecord : sparseRecord.Collectable := by
  have hempty := FileRecord.keysDistinct_empty "a.ts"
  refine .inr ⟨rfl, ?_, hempty.functions, hempty.branches⟩
  intro i j l l' hl hl' _
  simp only [sparseRecord, Table.get?_insert, Table.get?_empty] at hl hl'
  grind

theorem hitsAt_threeEntries (site : Site) :
    sparseRecord.hitsAt site + (threeEntries.map (·.hitsAt site)).sum < 2 ^ 64 := by
  have hstart : sparseRecord.hitsAt site ≤ 2 := by
    cases site with
    | statement key =>
      show (if Location.range (.between ⟨1, 0⟩ ⟨1, 5⟩) = key then 2 else 0) + 0 ≤ 2
      split <;> omega
    | function key => exact Nat.zero_le _
    | outcome key j => exact Nat.zero_le _
  have hadded : (threeEntries.map (·.hitsAt site)).sum ≤ 4 := by
    cases site with
    | statement key =>
      simp only [threeEntries, List.map_cons, List.map_nil, List.sum_cons, List.sum_nil,
        Deposit.hitsAt]
      split <;> split <;> decide
    | function key => exact Nat.zero_le _
    | outcome key j =>
      have hcount : (([1, 0] : List UInt64).getD j 0).toNat ≤ 1 := by
        cases j with
        | zero => decide
        | succ j =>
          cases j with
          | zero => decide
          | succ j => exact Nat.zero_le _
      simp only [threeEntries, List.map_cons, List.map_nil, List.sum_cons, List.sum_nil,
        Deposit.hitsAt]
      split <;> omega
  omega

theorem addAll_counted_threeEntries :
    sparseRecord.Collectable ∧ (∀ d ∈ threeEntries, d.WellFormed) ∧
      Deposit.RoomFor sparseRecord threeEntries ∧
      (∀ site, sparseRecord.hitsAt site + (threeEntries.map (·.hitsAt site)).sum < 2 ^ 64) ∧
      ∃ c, c = (ofRecord sparseRecord).addAll [threeEntries[0]] ∧ (c.add threeEntries[1]).2 = 5 ∧
        ((c.add threeEntries[1]).1.record.count (.statement 4)).toNat = 5 ∧
        ((c.add threeEntries[1]).1.record.count (.statement 5)).toNat = 1 := by
  have hwell : ∀ d ∈ threeEntries, d.WellFormed := by
    simp [threeEntries, Deposit.WellFormed]
  have hroom : Deposit.RoomFor sparseRecord threeEntries := by
    apply Deposit.RoomFor.of_hasRoom
    constructor <;> rw [Table.HasRoom] <;> decide
  obtain ⟨hrecords, hcalls⟩ := addAll_counted collectable_sparseRecord hwell hroom
    hitsAt_threeEntries
  obtain ⟨hrecord, -, -⟩ := hrecords [threeEntries[0]] ⟨_, rfl⟩
  obtain ⟨hid, hcounted⟩ := hcalls [threeEntries[0]] threeEntries[1] ⟨_, rfl⟩
  have hid' : threeEntries[1].idIn (Deposit.addAllTo sparseRecord [threeEntries[0]]) = 5 := by
    decide
  rw [hrecord, hid'] at hid
  refine ⟨collectable_sparseRecord, hwell, hroom, hitsAt_threeEntries, _, rfl, hid, ?_, ?_⟩
  · rw [hcounted.count, hid, hrecord]
    rfl
  · rw [hcounted.count, hid, hrecord]
    rfl

end Collector

end Coverage
