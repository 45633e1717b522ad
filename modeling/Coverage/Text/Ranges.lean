/-!
# Sets of code points

A set of code points is a list of ranges in increasing order, none of which touches the next.

The main statements are `contains_complement` and `contains_union`: what the operations make of
sets has the members that they are named for.
-/

namespace Coverage.Text

/-- A set of code points, as ranges with their first and their last member. -/
abbrev Ranges := List (Nat × Nat)

namespace Ranges

/-- The greatest code point. -/
def maxCode : Nat := 0x10FFFF

/-- Whether a code point is in a set. -/
def contains (s : Ranges) (n : Nat) : Bool := s.any fun r => r.1 ≤ n && n ≤ r.2

/-- Joins each range with those behind it that touch it. -/
def joined (low high : Nat) : Ranges → Ranges
  | [] => [(low, high)]
  | (a, b) :: rest =>
    if low ≤ a && a ≤ high + 1 then joined low (max high b) rest
    else (low, high) :: joined a b rest

/-- The set of some ranges in increasing order, which may touch. -/
def ofOrdered : Ranges → Ranges
  | [] => []
  | (a, b) :: rest => joined a b rest

/-- The set of some code points. -/
def ofList (ns : List Nat) : Ranges :=
  ofOrdered ((ns.mergeSort (· ≤ ·)).map fun n => (n, n))

/-- The code points of one set or the other. -/
def union (s t : Ranges) : Ranges := ofOrdered (s.merge t fun a b => a.1 ≤ b.1)

/-- The code points from `next` up to `last` that are in none of some ranges in increasing order. -/
def gaps (last next : Nat) : Ranges → Ranges
  | [] => if next ≤ last then [(next, last)] else []
  | (a, b) :: rest =>
    if next < a then (next, a - 1) :: gaps last (b + 1) rest else gaps last (max next (b + 1)) rest

/-- The code points up to `last` that are not in a set. -/
def complement (s : Ranges) (last : Nat) : Ranges := gaps last 0 s

/-- The code points of both sets. -/
def inter (s t : Ranges) : Ranges :=
  ((s.complement maxCode).union (t.complement maxCode)).complement maxCode

/-- The code points of the first set that are not in the second. -/
def diff (s t : Ranges) : Ranges := ((s.complement maxCode).union t).complement maxCode

/-- The code points that are in just one of two sets. -/
def symmDiff (s t : Ranges) : Ranges := (s.diff t).union (t.diff s)

/-- The set of which a packed table lists how many code points lie between two ranges, and how far
each range extends. -/
def ofSteps (next : Nat) : List Nat → Ranges
  | gap :: extent :: rest =>
    (next + gap, next + gap + extent) :: ofSteps (next + gap + extent + 1) rest
  | _ => []

/-! ## What the operations mean -/

theorem contains_cons {a b n : Nat} {s : Ranges} :
    contains ((a, b) :: s) n = ((a ≤ n && n ≤ b) || contains s n) := rfl

theorem contains_joined {low high n : Nat} {s : Ranges} (h : low ≤ high) (hs : ∀ r ∈ s, r.1 ≤ r.2) :
    contains (joined low high s) n = ((low ≤ n && n ≤ high) || contains s n) := by
  induction s generalizing low high with
  | nil => rfl
  | cons r rest ih =>
    obtain ⟨a, b⟩ := r
    have hab : a ≤ b := hs _ (List.mem_cons_self ..)
    have hrest : ∀ r ∈ rest, r.1 ≤ r.2 := fun r hr => hs r (List.mem_cons_of_mem _ hr)
    simp only [joined]
    split
    · rename_i ht
      simp only [Bool.and_eq_true, decide_eq_true_eq] at ht
      rw [ih (by omega) hrest, contains_cons, ← Bool.or_assoc]
      congr 1
      rw [Bool.eq_iff_iff]
      simp only [Bool.or_eq_true, Bool.and_eq_true, decide_eq_true_eq]
      omega
    · rw [contains_cons, ih hab hrest, contains_cons]

theorem contains_ofOrdered {n : Nat} {s : Ranges} (hs : ∀ r ∈ s, r.1 ≤ r.2) :
    contains (ofOrdered s) n = contains s n := by
  match s with
  | [] => rfl
  | (a, b) :: rest =>
    exact contains_joined (hs (a, b) (List.mem_cons_self ..))
      fun r hr => hs r (List.mem_cons_of_mem _ hr)

theorem contains_union {n : Nat} {s t : Ranges} (hs : ∀ r ∈ s, r.1 ≤ r.2)
    (ht : ∀ r ∈ t, r.1 ≤ r.2) : contains (union s t) n = (contains s n || contains t n) := by
  have perm : (s.merge t fun a b => decide (a.1 ≤ b.1)).Perm (s ++ t) :=
    List.merge_perm_append _
  rw [union, contains_ofOrdered]
  · rw [Bool.eq_iff_iff]
    simp [contains, List.any_eq_true, perm.mem_iff, or_and_right, exists_or]
  · intro r hr
    rcases List.mem_append.1 (perm.mem_iff.1 hr) with h | h
    · exact hs r h
    · exact ht r h

theorem not_contains_of_lt {n a : Nat} {s : Ranges} (h : ∀ r ∈ s, a ≤ r.1) (hn : n < a) :
    contains s n = false := by
  simp only [contains, List.any_eq_false, Bool.and_eq_true, decide_eq_true_eq, not_and]
  intro r hr
  have := h r hr
  omega

theorem contains_gaps {last next n : Nat} {s : Ranges} (hs : ∀ r ∈ s, r.1 ≤ r.2)
    (ordered : s.Pairwise fun a b => a.1 ≤ b.1) (hn : n ≤ last) :
    contains (gaps last next s) n = (next ≤ n && !contains s n) := by
  induction s generalizing next with
  | nil =>
    simp only [gaps]
    split
    · simp [contains, hn]
    · have : ¬ next ≤ n := by omega
      simp [contains, this]
  | cons r rest ih =>
    obtain ⟨a, b⟩ := r
    have hab : a ≤ b := hs _ (List.mem_cons_self ..)
    have ih (k : Nat) : contains (gaps last k rest) n = (k ≤ n && !contains rest n) :=
      ih (fun r hr => hs r (List.mem_cons_of_mem _ hr)) (List.pairwise_cons.1 ordered).2
    have below (h : n < a) : contains rest n = false :=
      not_contains_of_lt (List.pairwise_cons.1 ordered).1 h
    simp only [gaps]
    split
    · rw [contains_cons, ih, contains_cons, Bool.eq_iff_iff]
      by_cases h : n < a
      · simp [below h]
        omega
      · cases contains rest n <;> (simp; omega)
    · rw [ih, contains_cons, Bool.eq_iff_iff]
      cases contains rest n with
      | true => simp
      | false =>
        simp
        omega

theorem contains_complement {last n : Nat} {s : Ranges} (hs : ∀ r ∈ s, r.1 ≤ r.2)
    (ordered : s.Pairwise fun a b => a.1 ≤ b.1) (hn : n ≤ last) :
    contains (complement s last) n = !contains s n := by
  simp [complement, contains_gaps hs ordered hn]

end Ranges

end Coverage.Text
