import Mathlib.Data.List.Basic

/-!
# Lists

Sorting is stable: it keeps the order of items that may stand in either order. An item that is
changed changes in the list that it stands in, whatever is put behind that list.
-/

namespace Coverage

/-! ### Stable sorting -/

/-- Sorting does not change what a test picks out of a list, where all that it picks may stand in
any order. -/
theorem filter_mergeSort {α : Type} {le : α → α → Bool} {l : List α} {test : α → Bool}
    (trans : ∀ a b c, le a b → le b c → le a c) (total : ∀ a b, le a b || le b a)
    (hle : ∀ a ∈ l, ∀ b ∈ l, test a = true → test b = true → le a b = true) :
    (l.mergeSort le).filter test = l.filter test := by
  have hpicked : (l.filter test).Pairwise fun a b => le a b = true := by
    refine List.pairwise_iff_forall_sublist.2 fun {a b} hab => ?_
    have hmem : ∀ x ∈ [a, b], x ∈ l ∧ test x = true := fun x hx =>
      List.mem_filter.1 (hab.subset hx)
    obtain ⟨ha, hta⟩ := hmem a (by simp)
    obtain ⟨hb, htb⟩ := hmem b (by simp)
    exact hle a ha b hb hta htb
  -- What is picked is in order, so it is a part of the sorted list as it stands.
  have hpart := (List.sublist_mergeSort trans total hpicked List.filter_sublist).filter test
  rw [List.filter_filter] at hpart
  simp only [Bool.and_self] at hpart
  have hperm := (List.mergeSort_perm l le).filter test
  exact (hpart.eq_of_length hperm.length_eq.symm).symm

/-- What holds of items in their order in a list holds of them in the sorted list, where these may
stand in either order. -/
theorem pairwise_mergeSort_stable {α : Type} {le : α → α → Bool} {l : List α} {R : α → α → Prop}
    (trans : ∀ a b c, le a b → le b c → le a c) (total : ∀ a b, le a b || le b a)
    (h : l.Pairwise R) : (l.mergeSort le).Pairwise fun a b => le b a = true → R a b := by
  refine List.pairwise_iff_forall_sublist.2 fun {a b} hab hba => ?_
  have hle : le a b = true :=
    List.pairwise_iff_forall_sublist.1 (List.pairwise_mergeSort trans total l) hab
  have hrefl : le a a = true := trans a b a hle hba
  -- Those that may stand on either side of `a` are in the order that they had before.
  let test : α → Bool := fun x => le a x && le x a
  have hsame : (l.mergeSort le).filter test = l.filter test := by
    refine filter_mergeSort trans total fun x _ y _ hx hy => ?_
    exact trans x a y (Bool.and_eq_true_iff.1 hx).2 (Bool.and_eq_true_iff.1 hy).1
  have htest : [a, b].filter test = [a, b] := by
    simp [test, hrefl, hle, hba]
  have hpart : [a, b].Sublist (l.filter test) := by
    have hpicked := hab.filter test
    rwa [htest, hsame] at hpicked
  exact List.pairwise_iff_forall_sublist.1 (h.filter test) hpart

/-! ### Changed items -/

theorem modify_append {α : Type} {l : List α} {i : Nat} (h : i < l.length) (f : α → α)
    (more : List α) : (l ++ more).modify i f = l.modify i f ++ more := by
  induction l generalizing i with
  | nil => cases h
  | cons a l ih =>
    cases i with
    | zero => rfl
    | succ i =>
      rw [List.cons_append, List.modify_succ_cons, List.modify_succ_cons,
        ih (Nat.lt_of_succ_lt_succ h), List.cons_append]

theorem modify_last {α : Type} (l : List α) (a : α) (f : α → α) :
    (l ++ [a]).modify l.length f = l ++ [f a] := by
  induction l with
  | nil => rfl
  | cons b l ih => rw [List.cons_append, List.length_cons, List.modify_succ_cons, ih]; rfl

end Coverage
