import Coverage.Table
import Mathlib.Algebra.Ring.Nat
import Mathlib.Data.List.Perm.Subperm

/-!
# Look-ups determine a table

The entries of a table stand in order, so a table is known once the value of every id is known.
Statements about tables are therefore stated about `get?`: each operation has an equation for the
look-up in its result, and `ext_get?` turns equal look-ups into equal tables.
-/

namespace Coverage.Table

variable {α β : Type}

theorem find_eq_none {id : Id} {l : List (Id × α)} (h : ∀ e ∈ l, e.1 ≠ id) :
    find id l = none := by
  induction l with
  | nil => rfl
  | cons e rest ih =>
    obtain ⟨head, tail⟩ := List.forall_mem_cons.1 h
    rw [find, if_neg head]
    exact ih tail

theorem mem_of_find {id : Id} {a : α} {l : List (Id × α)} (h : find id l = some a) :
    (id, a) ∈ l := by
  induction l with
  | nil => cases h
  | cons e rest ih =>
    rw [find] at h
    split at h
    · rename_i heq
      cases h
      exact heq ▸ List.mem_cons_self
    · exact List.mem_cons_of_mem _ (ih h)

theorem find_of_mem {id : Id} {a : α} {l : List (Id × α)}
    (sorted : l.Pairwise (fun a b => a.1 < b.1)) (h : (id, a) ∈ l) : find id l = some a := by
  induction l with
  | nil => cases h
  | cons e rest ih =>
    obtain ⟨before, sorted⟩ := List.pairwise_cons.1 sorted
    rw [find]
    rcases List.mem_cons.1 h with rfl | h
    · rw [if_pos rfl]
    · have hne : e.1 ≠ id := fun heq => UInt32.lt_irrefl _ (heq ▸ before _ h)
      rw [if_neg hne]
      exact ih sorted h

/-- A look-up answers with what stands in the table, and with nothing else. -/
theorem get?_eq_some_iff {t : Table α} {id : Id} {a : α} :
    t.get? id = some a ↔ (id, a) ∈ t.entries :=
  ⟨mem_of_find, find_of_mem t.sorted⟩

theorem mem_keys_iff {t : Table α} {id : Id} : id ∈ t.keys ↔ ∃ a, t.get? id = some a := by
  simp only [get?_eq_some_iff, keys, List.mem_map]
  constructor
  · rintro ⟨⟨k, a⟩, h, rfl⟩
    exact ⟨a, h⟩
  · rintro ⟨a, h⟩
    exact ⟨(id, a), h, rfl⟩

theorem get?_eq_none_iff {t : Table α} {id : Id} : t.get? id = none ↔ id ∉ t.keys := by
  rw [mem_keys_iff, Option.eq_none_iff_forall_ne_some]
  exact ⟨fun h ⟨a, ha⟩ => h a ha, fun h a ha => h ⟨a, ha⟩⟩

theorem keys_subset {s t : Table α} (h : ∀ id a, s.get? id = some a → t.get? id = some a) :
    s.keys ⊆ t.keys := by
  intro id hid
  obtain ⟨a, ha⟩ := mem_keys_iff.1 hid
  exact mem_keys_iff.2 ⟨a, h id a ha⟩

theorem sorted_keys (t : Table α) : t.keys.Pairwise (· < ·) :=
  List.pairwise_map.2 t.sorted

theorem nodup_keys (t : Table α) : t.keys.Nodup := by
  apply (sorted_keys t).imp
  intro a b hab heq
  subst heq
  exact UInt32.lt_irrefl a hab

theorem nodup_entries (t : Table α) : t.entries.Nodup :=
  List.Pairwise.of_map (·.1) (fun _ _ h heq => h (congrArg _ heq)) (nodup_keys t)

/-- There are no more ids than numbers of 32 bits. -/
theorem length_keys_le (t : Table α) : t.keys.length ≤ 2 ^ 32 := by
  have hnodup : (t.keys.map UInt32.toNat).Nodup :=
    List.pairwise_map.2 ((nodup_keys t).imp fun hne heq => hne (UInt32.toNat_inj.1 heq))
  have hsub : t.keys.map UInt32.toNat ⊆ List.range (2 ^ 32) := by
    intro n hn
    obtain ⟨id, -, rfl⟩ := List.mem_map.1 hn
    exact List.mem_range.2 id.toNat_lt
  have hle := (hnodup.subperm hsub).length_le
  rwa [List.length_map, List.length_range] at hle

/-- A word of 64 bits counts the ids of a table. -/
theorem length_keys_lt (t : Table α) : t.keys.length < 2 ^ 64 :=
  Nat.lt_of_le_of_lt t.length_keys_le (by decide)

theorem length_keys (t : Table α) : t.keys.length = t.size := List.length_map ..

/-- Tables with the same look-ups are equal. -/
theorem ext_get? {s t : Table α} (h : ∀ id, s.get? id = t.get? id) : s = t := by
  have hperm : s.entries.Perm t.entries := by
    refine (List.perm_ext_iff_of_nodup (nodup_entries s) (nodup_entries t)).2 ?_
    rintro ⟨id, a⟩
    rw [← get?_eq_some_iff, ← get?_eq_some_iff, h id]
  apply Table.ext
  apply hperm.eq_of_pairwise _ s.sorted t.sorted
  intro a b _ _ hab hba
  exact absurd hba (UInt32.lt_asymm hab)

/-- Two tables have the same ids when each look-up succeeds in both or in neither. -/
theorem keys_eq_iff {s : Table α} {t : Table β} :
    s.keys = t.keys ↔ ∀ id, (s.get? id).isSome = (t.get? id).isSome := by
  constructor
  · intro h id
    rw [Bool.eq_iff_iff, Option.isSome_iff_exists, Option.isSome_iff_exists, ← mem_keys_iff,
      ← mem_keys_iff, h]
  · intro h
    have hperm : s.keys.Perm t.keys := by
      refine (List.perm_ext_iff_of_nodup (nodup_keys s) (nodup_keys t)).2 ?_
      intro id
      rw [mem_keys_iff, mem_keys_iff, ← Option.isSome_iff_exists, ← Option.isSome_iff_exists, h id]
    apply hperm.eq_of_pairwise _ (sorted_keys s) (sorted_keys t)
    intro a b _ _ hab hba
    exact absurd hba (UInt32.lt_asymm hab)

theorem keys_ext {s : Table α} {t : Table β} (h : ∀ id, id ∈ s.keys ↔ id ∈ t.keys) :
    s.keys = t.keys := by
  refine keys_eq_iff.2 fun id => ?_
  rw [Bool.eq_iff_iff, Option.isSome_iff_exists, Option.isSome_iff_exists, ← mem_keys_iff,
    ← mem_keys_iff, h]

/-- Tables with the same ids are equal when they agree once a default fills the gaps. -/
theorem ext_getD {s t : Table α} (d : α) (hkeys : s.keys = t.keys)
    (h : ∀ id, (s.get? id).getD d = (t.get? id).getD d) : s = t := by
  refine ext_get? fun id => ?_
  have hsome := keys_eq_iff.1 hkeys id
  have hd := h id
  cases hs : s.get? id <;> cases ht : t.get? id <;> simp_all

@[simp] theorem get?_empty (id : Id) : (empty : Table α).get? id = none := rfl

theorem get?_alter (t : Table α) (id k : Id) (f : Option α → α) :
    (t.alter id f).get? k = if id = k then some (f (t.get? id)) else t.get? k :=
  get?_insert t id k _

/-- Where what is read at an id grows by `n`, what is read elsewhere does not change. -/
theorem read_alter {t : Table α} {id : Id} {μ : Option α → Nat} {f : Option α → α} {n : Nat}
    (k : Id) (hgrow : μ (some (f (t.get? id))) = μ (t.get? id) + n) :
    μ ((t.alter id f).get? k) = μ (t.get? k) + if k = id then n else 0 := by
  rw [get?_alter]
  by_cases hk : id = k
  · rw [if_pos hk, if_pos hk.symm, hgrow, hk]
  · rw [if_neg hk, if_neg (Ne.symm hk), Nat.add_zero]

/-- What holds of all entries holds when one more is put in of which it holds. -/
theorem forall_get?_insert {P : α → Prop} {t : Table α} (h : ∀ id a, t.get? id = some a → P a)
    (k : Id) {b : α} (hb : P b) : ∀ id a, (t.insert k b).get? id = some a → P a := by
  intro id a hget
  rw [get?_insert] at hget
  split at hget
  · cases hget
    exact hb
  · exact h id a hget

theorem get?_insertIfNew (t : Table α) (id k : Id) (a : α) :
    (t.insertIfNew id a).get? k = if id = k then some ((t.get? k).getD a) else t.get? k := by
  rw [insertIfNew, get?_alter]
  split
  · rename_i heq
    rw [heq]
  · rfl

/-- Of two insertions at one id the second counts. -/
theorem insert_insert (t : Table α) (id : Id) (a b : α) :
    (t.insert id a).insert id b = t.insert id b := by
  refine ext_get? fun k => ?_
  simp only [get?_insert]
  split <;> rfl

theorem put_of_forall_lt {id : Id} (a : α) {l : List (Id × α)} (h : ∀ e ∈ l, e.1 < id) :
    put id a l = l ++ [(id, a)] := by
  induction l with
  | nil => rfl
  | cons e l ih =>
    obtain ⟨hlt, hl⟩ := List.forall_mem_cons.1 h
    rw [put, if_neg (UInt32.lt_asymm hlt), if_pos hlt, ih hl]
    rfl

/-- An entry with an id above all others is put at the end. -/
theorem entries_insert_of_forall_lt {t : Table α} {id : Id} (a : α) (h : ∀ k ∈ t.keys, k < id) :
    (t.insert id a).entries = t.entries ++ [(id, a)] :=
  put_of_forall_lt a fun _ he => h _ (List.mem_map_of_mem he)

theorem mem_keys_insert {t : Table α} {id k : Id} {a : α} :
    k ∈ (t.insert id a).keys ↔ k ∈ t.keys ∨ k = id := by
  rw [mem_keys_iff, mem_keys_iff]
  simp only [get?_insert]
  by_cases hk : id = k
  · simp [hk]
  · simp [hk, Ne.symm hk]

theorem mem_keys_alter {t : Table α} {id k : Id} {f : Option α → α} :
    k ∈ (t.alter id f).keys ↔ k ∈ t.keys ∨ k = id :=
  mem_keys_insert

theorem find_map (f : α → β) (id : Id) (l : List (Id × α)) :
    find id (l.map fun e => (e.1, f e.2)) = (find id l).map f := by
  induction l with
  | nil => rfl
  | cons e rest ih =>
    simp only [List.map_cons, find, ih]
    split <;> rfl

@[simp] theorem get?_map (t : Table α) (f : α → β) (id : Id) :
    (t.map f).get? id = (t.get? id).map f :=
  find_map f id t.entries

theorem get?_filter (t : Table α) (p : Id → α → Bool) (id : Id) :
    (t.filter p).get? id = (t.get? id).filter (p id) := by
  apply Option.ext
  intro a
  rw [get?_eq_some_iff, Option.filter_eq_some_iff, get?_eq_some_iff]
  exact List.mem_filter

theorem map_insert (t : Table α) (f : α → γ) (id : Id) (a : α) :
    (t.insert id a).map f = (t.map f).insert id (f a) := by
  refine ext_get? fun k => ?_
  rw [get?_map, get?_insert, get?_insert, get?_map]
  split <;> rfl

theorem get?_foldl_erase (ids : List Id) (t : Table α) (id : Id) :
    (ids.foldl erase t).get? id = if id ∈ ids then none else t.get? id := by
  induction ids generalizing t with
  | nil => rfl
  | cons k ids ih =>
    rw [List.foldl_cons, ih, erase, get?_filter]
    by_cases hid : id = k
    · subst hid
      cases t.get? id <;> simp
    · cases t.get? id <;> simp [Option.filter, hid]

/-- Passing the entries of a table to `alter` one after the other changes the look-up of each of
its ids once. -/
theorem get?_foldl_alter (f : β → Option α → α) (t : Table α) (u : Table β) (id : Id) :
    (u.entries.foldl (fun t e => t.alter e.1 (f e.2)) t).get? id =
      ((u.get? id).map fun b => f b (t.get? id)).or (t.get? id) := by
  obtain ⟨l, sorted⟩ := u
  simp only [get?]
  -- Later entries have other ids, so what the first one does to its id stays.
  induction l generalizing t with
  | nil => rfl
  | cons e rest ih =>
    obtain ⟨before, sorted⟩ := List.pairwise_cons.1 sorted
    have step := ih (t.alter e.1 (f e.2)) sorted
    simp only [List.foldl_cons] at step ⊢
    rw [step, find]
    have hfind : find id (t.alter e.1 (f e.2)).entries =
      if e.1 = id then some (f e.2 (find e.1 t.entries)) else find id t.entries :=
      get?_alter t e.1 id (f e.2)
    rw [hfind]
    by_cases heq : e.1 = id
    · have hrest : find id rest = none :=
        find_eq_none fun e' he' h => UInt32.lt_irrefl id (by simpa [heq, h] using before e' he')
      simp only [heq, if_pos, hrest, Option.map_none, Option.none_or, Option.map_some,
        Option.some_or]
    · simp only [if_neg heq]

/-- Entries that are gathered under the ids that `key` gives them: a look-up sees those of its id,
one after the other. -/
theorem get?_gather {γ : Type} (key : γ → Id) (f : γ → Option β → β) (l : List γ) (t : Table β)
    (id : Id) :
    (l.foldl (fun t e => t.alter (key e) (f e)) t).get? id =
      (l.filter fun e => key e = id).foldl (fun old e => some (f e old)) (t.get? id) := by
  induction l generalizing t with
  | nil => rfl
  | cons e l ih =>
    rw [List.foldl_cons, ih, get?_alter]
    by_cases hkey : key e = id
    · rw [if_pos hkey, List.filter_cons_of_pos (by simpa using hkey), List.foldl_cons, hkey]
    · rw [if_neg hkey, List.filter_cons_of_neg (by simpa using hkey)]

/-! ### Sums over a table -/

/-- The sum of a number over all entries. -/
def total (t : Table α) (f : Id → α → Nat) : Nat := (t.entries.map fun e => f e.1 e.2).sum

theorem total_congr {t : Table α} {f g : Id → α → Nat}
    (h : ∀ id a, t.get? id = some a → f id a = g id a) : t.total f = t.total g := by
  rw [total, total, List.map_congr_left fun e he => h e.1 e.2 (get?_eq_some_iff.2 he)]

/-- A sum goes through the ids. -/
theorem total_eq_keys (t : Table α) (f : Id → α → Nat) :
    t.total f = (t.keys.map fun id => ((t.get? id).map (f id)).getD 0).sum := by
  rw [total, keys, List.map_map]
  refine congrArg List.sum (List.map_congr_left fun e he => ?_)
  simp [get?_eq_some_iff.2 he]

theorem le_total {t : Table α} {f : Id → α → Nat} {id : Id} {a : α} (h : t.get? id = some a) :
    f id a ≤ t.total f := by
  obtain ⟨before, behind, hsplit⟩ := List.append_of_mem (get?_eq_some_iff.1 h)
  rw [total, hsplit, List.map_append, List.map_cons, List.sum_append, List.sum_cons]
  exact Nat.le_trans (Nat.le_add_right _ _) (Nat.le_add_left _ _)

theorem entries_insert_perm {t : Table α} {id : Id} {a : α} (h : id ∉ t.keys) :
    (t.insert id a).entries.Perm ((id, a) :: t.entries) := by
  have hfresh : ∀ b, (id, b) ∉ t.entries := fun b hb =>
    h (mem_keys_iff.2 ⟨b, get?_eq_some_iff.2 hb⟩)
  refine (List.perm_ext_iff_of_nodup (nodup_entries _)
    (List.nodup_cons.2 ⟨hfresh a, nodup_entries t⟩)).2 ?_
  rintro ⟨k, b⟩
  rw [← get?_eq_some_iff, get?_insert, List.mem_cons, ← get?_eq_some_iff]
  by_cases hk : id = k
  · subst hk
    have hnone : t.get? id = none := get?_eq_none_iff.2 h
    simp [hnone, eq_comm]
  · simp [hk, Ne.symm hk]

theorem total_insert {t : Table α} {id : Id} {a : α} (h : id ∉ t.keys) (f : Id → α → Nat) :
    (t.insert id a).total f = t.total f + f id a := by
  rw [total, ((entries_insert_perm h).map _).sum_nat, List.map_cons, List.sum_cons, Nat.add_comm]
  rfl

/-- Where two numbers differ at one id only, so do the sums. -/
theorem total_change {t : Table α} {id : Id} {a : α} (h : t.get? id = some a)
    {f g : Id → α → Nat} (hfg : ∀ k b, k ≠ id → f k b = g k b) :
    t.total f + g id a = t.total g + f id a := by
  obtain ⟨l, sorted⟩ := t
  rw [get?_eq_some_iff] at h
  simp only [total] at h ⊢
  induction l with
  | nil => cases h
  | cons e rest ih =>
    obtain ⟨before, sorted⟩ := List.pairwise_cons.1 sorted
    simp only [List.map_cons, List.sum_cons]
    rcases List.mem_cons.1 h with rfl | h
    · have hrest : (rest.map fun e => f e.1 e.2) = rest.map fun e => g e.1 e.2 :=
        List.map_congr_left fun e' he' => hfg e'.1 e'.2 fun heq =>
          UInt32.lt_irrefl id (by simpa [heq] using before e' he')
      simp only [hrest]
      omega
    · have hne : e.1 ≠ id := fun heq => UInt32.lt_irrefl id (by simpa [heq] using before _ h)
      have := ih sorted h
      rw [hfg e.1 e.2 hne]
      omega

/-- Changing the value of one id changes a sum by what it changes the number of that id. -/
theorem total_alter (t : Table α) (id : Id) (g : Option α → α) (f : Id → α → Nat) :
    (t.alter id g).total f + ((t.get? id).map (f id)).getD 0 =
      t.total f + f id (g (t.get? id)) := by
  cases h : t.get? id with
  | none =>
    rw [alter, h, total_insert (get?_eq_none_iff.1 h)]
    rfl
  | some a =>
    have hkeys : (t.alter id g).keys = t.keys := by
      refine keys_ext fun k => ?_
      rw [mem_keys_alter, or_iff_left_of_imp]
      rintro rfl
      exact mem_keys_iff.2 ⟨a, h⟩
    -- The sum is that of `t` for numbers that differ at `id` only.
    have hchanged : (t.alter id g).total f =
        t.total fun k x => if k = id then f id (g (some a)) else f k x := by
      rw [total_eq_keys, total_eq_keys, hkeys]
      refine congrArg List.sum (List.map_congr_left fun k _ => ?_)
      rw [get?_alter]
      by_cases hk : id = k
      · subst hk
        simp [h]
      · simp [hk, Ne.symm hk]
    have hchange := total_change (f := fun k x => if k = id then f id (g (some a)) else f k x)
      (g := f) h fun k b hk => if_neg hk
    rw [hchanged]
    simpa using hchange

/-! ### Room for another id -/

/-- The greatest id is free, so that the id behind the greatest one of the table is a new one. -/
def HasRoom (t : Table α) : Prop := (0xFFFFFFFF : Id) ∉ t.keys

theorem le_of_lastKey? {t : Table α} {last id : Id} (h : t.lastKey? = some last)
    (hid : id ∈ t.keys) : id ≤ last := by
  obtain ⟨before, hkeys⟩ := List.getLast?_eq_some_iff.1 h
  have hsorted := sorted_keys t
  rw [hkeys, List.pairwise_append] at hsorted
  rw [hkeys, List.mem_append, List.mem_singleton] at hid
  rcases hid with hid | rfl
  · exact UInt32.le_of_lt (hsorted.2.2 id hid last (List.mem_singleton.2 rfl))
  · exact UInt32.le_refl _

/-- The id behind the greatest one is greater than all of the table. -/
theorem lt_nextId {t : Table α} {id : Id} (h : t.HasRoom) (hid : id ∈ t.keys) : id < t.nextId := by
  rw [nextId]
  cases hlast : t.lastKey? with
  | none =>
    have hnil : t.keys = [] := List.getLast?_eq_none_iff.1 hlast
    simp [hnil] at hid
  | some last =>
    have hle := le_of_lastKey? hlast hid
    have hlast' : last ∈ t.keys := List.mem_of_getLast? hlast
    have hne : last ≠ 0xFFFFFFFF := fun heq => h (heq ▸ hlast')
    have hlt : last.toNat < 2 ^ 32 - 1 := by
      have hbound := last.toNat_lt
      have hnat : last.toNat ≠ 4294967295 := fun heq => hne (UInt32.toNat_inj.1 heq)
      omega
    rw [UInt32.le_iff_toNat_le] at hle
    rw [UInt32.lt_iff_toNat_lt, UInt32.toNat_add, UInt32.toNat_one]
    omega

theorem nextId_not_mem {t : Table α} (h : t.HasRoom) : t.nextId ∉ t.keys := fun hmem =>
  UInt32.lt_irrefl _ (lt_nextId h hmem)

end Coverage.Table
