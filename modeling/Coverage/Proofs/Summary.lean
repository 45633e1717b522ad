import Coverage.Summary
import Mathlib.Algebra.BigOperators.Group.List.Basic
import Mathlib.Data.List.Perm.Subperm

/-!
# Tallies and summaries add up

The counts of a tally are added one by one, so tallies and summaries form commutative monoids: what
a list of them comes to depends neither on its order nor on how it is grouped.

The tally of a list of hits counts three kinds of its entries (`ofHits_eq`). Counts are words of 64
bits, so they are those numbers as long as there are fewer entries than that (`toNat_ofHits`).
-/

namespace Coverage

namespace Tally

theorem add_def (a b : Tally) :
    a + b = ⟨a.total + b.total, a.covered + b.covered, a.skipped + b.skipped⟩ := rfl

instance : Zero Tally := ⟨zero⟩

instance : AddCommMonoid Tally where
  add_assoc a b c := by simp only [add_def, UInt64.add_assoc]
  zero_add a := by
    change (⟨0 + a.total, 0 + a.covered, 0 + a.skipped⟩ : Tally) = a
    simp only [UInt64.zero_add]
  add_zero a := by
    change (⟨a.total + 0, a.covered + 0, a.skipped + 0⟩ : Tally) = a
    simp only [UInt64.add_zero]
  add_comm a b := by
    rw [add_def, add_def, UInt64.add_comm a.total, UInt64.add_comm a.covered,
      UInt64.add_comm a.skipped]
  nsmul := nsmulRec

theorem count_eq_add (t : Tally) (hits : UInt64) (skip : Bool) :
    t.count hits skip = t + Tally.zero.count hits skip := by
  rw [count, count, add_def]
  cases skip
  · by_cases hhit : 0 < hits <;> simp [zero, hhit]
  · simp [zero]

/-- Counting entries adds how many are not skipped, how many of them were hit, and how many are
skipped. -/
theorem foldl_count (t : Tally) (entries : List (UInt64 × Bool)) :
    entries.foldl (fun t e => t.count e.1 e.2) t =
      t + ⟨.ofNat (entries.countP fun e => !e.2),
        .ofNat (entries.countP fun e => !e.2 && 0 < e.1), .ofNat (entries.countP fun e => e.2)⟩ := by
  induction entries generalizing t with
  | nil => exact (add_zero t).symm
  | cons e entries ih =>
    rw [List.foldl_cons, ih, count_eq_add, add_assoc]
    congr 1
    simp only [List.countP_cons, UInt64.ofNat_add, add_def, count, zero]
    obtain ⟨hits, skip⟩ := e
    cases skip <;> by_cases hhit : 0 < hits <;> simp [hhit, UInt64.add_comm]

theorem ofHits_eq (entries : List (UInt64 × Bool)) :
    ofHits entries = ⟨.ofNat (entries.countP fun e => !e.2),
      .ofNat (entries.countP fun e => !e.2 && 0 < e.1), .ofNat (entries.countP fun e => e.2)⟩ :=
  (foldl_count zero entries).trans (zero_add _)

theorem toNat_ofHits (entries : List (UInt64 × Bool)) (hlt : entries.length < 2 ^ 64) :
    (ofHits entries).total.toNat = (entries.countP fun e => !e.2) ∧
    (ofHits entries).covered.toNat = (entries.countP fun e => !e.2 && 0 < e.1) ∧
    (ofHits entries).skipped.toNat = (entries.countP fun e => e.2) := by
  have hcount : ∀ p : UInt64 × Bool → Bool,
      (UInt64.ofNat (entries.countP p)).toNat = entries.countP p := fun p =>
    UInt64.toNat_ofNat_of_lt' (Nat.lt_of_le_of_lt List.countP_le_length hlt)
  rw [ofHits_eq]
  exact ⟨hcount _, hcount _, hcount _⟩

theorem covered_le_total {entries : List (UInt64 × Bool)} (hlt : entries.length < 2 ^ 64) :
    (ofHits entries).covered ≤ (ofHits entries).total := by
  obtain ⟨htotal, hcovered, -⟩ := toNat_ofHits entries hlt
  rw [UInt64.le_iff_toNat_le, htotal, hcovered]
  refine List.countP_mono_left fun e _ he => ?_
  exact (Bool.and_eq_true _ _ ▸ he).1

theorem total_add_skipped {entries : List (UInt64 × Bool)} (hlt : entries.length < 2 ^ 64) :
    (ofHits entries).total.toNat + (ofHits entries).skipped.toNat = entries.length := by
  obtain ⟨htotal, -, hskipped⟩ := toNat_ofHits entries hlt
  rw [htotal, hskipped, List.length_eq_countP_add_countP (fun e : UInt64 × Bool => e.2),
    Nat.add_comm]
  congr 2
  funext e
  cases e.2 <;> rfl

/-- More things to cover, of which those that were there are skipped as before and are hit if they
were hit before, have greater tallies. -/
theorem ofHits_mono {ι : Type} {l l' : List ι} (hnodup : l.Nodup) (hsub : l ⊆ l')
    (hlt : l'.length < 2 ^ 64) {hits hits' : ι → UInt64} {skip skip' : ι → Bool}
    (hskip : ∀ i ∈ l, skip' i = skip i) (hhits : ∀ i ∈ l, hits i ≤ hits' i) :
    (ofHits (l.map fun i => (hits i, skip i))).total ≤
        (ofHits (l'.map fun i => (hits' i, skip' i))).total ∧
      (ofHits (l.map fun i => (hits i, skip i))).covered ≤
        (ofHits (l'.map fun i => (hits' i, skip' i))).covered := by
  have hperm := hnodup.subperm hsub
  have hlength : l.length < 2 ^ 64 := Nat.lt_of_le_of_lt hperm.length_le hlt
  obtain ⟨htotal, hcovered, -⟩ := toNat_ofHits (l.map fun i => (hits i, skip i))
    (by rwa [List.length_map])
  obtain ⟨htotal', hcovered', -⟩ := toNat_ofHits (l'.map fun i => (hits' i, skip' i))
    (by rwa [List.length_map])
  rw [UInt64.le_iff_toNat_le, UInt64.le_iff_toNat_le, htotal, htotal', hcovered, hcovered']
  simp only [List.countP_map]
  constructor
  · refine Nat.le_trans (List.countP_mono_left fun i hi hcounted => ?_) (hperm.countP_le _)
    simpa [hskip i hi] using hcounted
  · refine Nat.le_trans (List.countP_mono_left fun i hi hcounted => ?_) (hperm.countP_le _)
    simp only [Function.comp_apply, Bool.and_eq_true, decide_eq_true_eq] at hcounted ⊢
    rw [hskip i hi]
    exact ⟨hcounted.1, UInt64.lt_of_lt_of_le hcounted.2 (hhits i hi)⟩

end Tally

namespace Summary

theorem add_def (a b : Summary) :
    a + b = ⟨a.lines + b.lines, a.statements + b.statements, a.functions + b.functions,
      a.branches + b.branches⟩ := rfl

instance : Zero Summary := ⟨zero⟩

@[simp] theorem zero_def : Summary.zero = 0 := rfl

instance : AddCommMonoid Summary where
  add_assoc a b c := by simp only [add_def, add_assoc]
  zero_add a := by
    change (⟨0 + a.lines, 0 + a.statements, 0 + a.functions, 0 + a.branches⟩ : Summary) = a
    simp only [zero_add]
  add_zero a := by
    change (⟨a.lines + 0, a.statements + 0, a.functions + 0, a.branches + 0⟩ : Summary) = a
    simp only [add_zero]
  add_comm a b := by
    rw [add_def, add_def, add_comm a.lines, add_comm a.statements, add_comm a.functions,
      add_comm a.branches]
  nsmul := nsmulRec

/-- The sum of a list of summaries is its sum in the monoid. -/
theorem sum_eq (l : List Summary) : Summary.sum l = l.sum := List.sum_eq_foldl.symm

theorem sum_perm {l l' : List Summary} (h : l.Perm l') : Summary.sum l = Summary.sum l' := by
  rw [sum_eq, sum_eq, h.sum_eq]

end Summary

end Coverage
