/-!
# Tables keyed by id

Statements, functions and branches are numbered within their file. A table lists what is known
per number, in increasing order of the number, so that two tables with the same entries are equal
and every listing comes out in numeric order.

The main statements are `get?_insert` (what an insertion does to a look-up) and `keys_map`
(mapping values keeps the ids).
-/

namespace Coverage

/-- The number of a statement, a function or a branch within its file. -/
abbrev Id := UInt32

/-- What is known per id. The entries stand in strictly increasing order of id. -/
structure Table (α : Type) where
  /-- The entries, each id once. -/
  entries : List (Id × α)
  sorted : entries.Pairwise (fun a b => a.1 < b.1)

namespace Table

variable {α β : Type}

@[ext] theorem ext {s t : Table α} (h : s.entries = t.entries) : s = t := by
  cases s; cases t; cases h; rfl

instance [DecidableEq α] : DecidableEq (Table α) := fun s t =>
  decidable_of_iff (s.entries = t.entries) ⟨Table.ext, fun h => h ▸ rfl⟩

/-- The table without entries. -/
def empty : Table α := ⟨[], .nil⟩

instance : EmptyCollection (Table α) := ⟨empty⟩

instance : Inhabited (Table α) := ⟨empty⟩

/-- The ids of a table, in increasing order. -/
def keys (t : Table α) : List Id := t.entries.map (·.1)

/-- The values of a table, in the order of their ids. -/
def values (t : Table α) : List α := t.entries.map (·.2)

/-- How many ids a table has. -/
def size (t : Table α) : Nat := t.entries.length

/-- The first value that a list of entries gives to `id`. -/
def find (id : Id) : List (Id × α) → Option α
  | [] => none
  | (k, a) :: rest => if k = id then some a else find id rest

/-- The value of an id. -/
def get? (t : Table α) (id : Id) : Option α := find id t.entries

/-- Puts `a` at `id` into an ordered list of entries, replacing what stood there. -/
def put (id : Id) (a : α) : List (Id × α) → List (Id × α)
  | [] => [(id, a)]
  | (k, b) :: rest =>
    if id < k then (id, a) :: (k, b) :: rest
    else if k < id then (k, b) :: put id a rest
    else (id, a) :: rest

theorem mem_put {id : Id} {a : α} {l : List (Id × α)} {e : Id × α} (h : e ∈ put id a l) :
    e = (id, a) ∨ e ∈ l := by
  induction l with
  | nil => simpa [put] using h
  | cons hd tl ih =>
    obtain ⟨k, b⟩ := hd
    simp only [put] at h
    split at h
    · simpa using h
    · split at h
      · rcases List.mem_cons.1 h with h | h
        · exact .inr (h ▸ List.mem_cons_self)
        · exact (ih h).imp (fun h => h) (List.mem_cons_of_mem _)
      · rcases List.mem_cons.1 h with h | h
        · exact .inl h
        · exact .inr (List.mem_cons_of_mem _ h)

theorem sorted_put (id : Id) (a : α) {l : List (Id × α)}
    (h : l.Pairwise (fun a b => a.1 < b.1)) :
    (put id a l).Pairwise (fun a b => a.1 < b.1) := by
  induction l with
  | nil => simp [put]
  | cons hd tl ih =>
    obtain ⟨k, b⟩ := hd
    obtain ⟨hk, ht⟩ := List.pairwise_cons.1 h
    simp only [put]
    split
    · rename_i hlt
      refine List.pairwise_cons.2 ⟨fun e he => ?_, h⟩
      rcases List.mem_cons.1 he with rfl | he
      · exact hlt
      · exact UInt32.lt_trans hlt (hk e he)
    · split
      · rename_i hlt
        refine List.pairwise_cons.2 ⟨fun e he => ?_, ih ht⟩
        rcases mem_put he with rfl | he
        · exact hlt
        · exact hk e he
      · rename_i h₁ h₂
        have heq : id = k := UInt32.le_antisymm (UInt32.not_lt.1 h₂) (UInt32.not_lt.1 h₁)
        refine List.pairwise_cons.2 ⟨fun e he => ?_, ht⟩
        exact heq ▸ hk e he

/-- The table with `a` at `id`, whatever stood there before. -/
def insert (t : Table α) (id : Id) (a : α) : Table α :=
  ⟨put id a t.entries, sorted_put id a t.sorted⟩

/-- The table with the value at `id` made from the one that stands there. -/
def alter (t : Table α) (id : Id) (f : Option α → α) : Table α :=
  t.insert id (f (t.get? id))

/-- The table with `a` at `id`, unless the id is taken. -/
def insertIfNew (t : Table α) (id : Id) (a : α) : Table α :=
  t.alter id (·.getD a)

/-- The entries that satisfy `p`. -/
def filter (t : Table α) (p : Id → α → Bool) : Table α :=
  ⟨t.entries.filter (fun e => p e.1 e.2), t.sorted.filter _⟩

/-- The table without `id`. -/
def erase (t : Table α) (id : Id) : Table α :=
  t.filter (fun k _ => k != id)

/-- The table with every value changed by `f`. -/
def map (t : Table α) (f : α → β) : Table β :=
  ⟨t.entries.map (fun e => (e.1, f e.2)), List.pairwise_map.2 t.sorted⟩

/-- The table of a list of entries in any order; of two entries with one id the later counts. -/
def ofList (l : List (Id × α)) : Table α :=
  l.foldl (fun t e => t.insert e.1 e.2) empty

/-- The greatest id of a table. -/
def lastKey? (t : Table α) : Option Id := t.keys.getLast?

/-- The id behind the greatest one. -/
def nextId (t : Table α) : Id :=
  match t.lastKey? with
  | some id => id + 1
  | none => 0

/-- The table with `a` at `id`, where the id is there already. -/
def replace? (t : Table α) (id : Id) (a : α) : Option (Table α) :=
  (t.get? id).map fun _ => t.insert id a

@[simp] theorem entries_empty : (empty : Table α).entries = [] := rfl

theorem find_put (id k : Id) (a : α) (l : List (Id × α)) :
    find k (put id a l) = if id = k then some a else find k l := by
  induction l with
  | nil => rfl
  | cons hd tl ih =>
    obtain ⟨j, b⟩ := hd
    simp only [put]
    split
    · rfl
    · split
      · rename_i hlt
        have hne : j ≠ id := fun h => UInt32.lt_irrefl _ (h ▸ hlt)
        by_cases hjk : j = k
        · subst hjk; simp [find, hne.symm]
        · simp [find, hjk, ih]
      · rename_i h₁ h₂
        have heq : id = j := UInt32.le_antisymm (UInt32.not_lt.1 h₂) (UInt32.not_lt.1 h₁)
        subst heq
        by_cases hk : id = k <;> simp [find, hk]

/-- An insertion changes the look-up of its own id only. -/
theorem get?_insert (t : Table α) (id k : Id) (a : α) :
    (t.insert id a).get? k = if id = k then some a else t.get? k :=
  find_put id k a t.entries

/-- Changing values keeps the ids. -/
@[simp] theorem keys_map (t : Table α) (f : α → β) : (t.map f).keys = t.keys := by
  simp [keys, map]

end Table

end Coverage
