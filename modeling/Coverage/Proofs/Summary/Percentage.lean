import Coverage.Proofs.Decimal.Rounding
import Coverage.Proofs.FileRecord.Merge
import Coverage.Proofs.Report.Tree
import Mathlib.Algebra.BigOperators.Ring.List
import Mathlib.Algebra.Order.BigOperators.Group.List
import Mathlib.Algebra.Order.Ring.Nat
import Mathlib.Algebra.Order.Round

/-!
# Percentages of sums

A percentage is a whole number of hundredths that is cut off, and that of nothing is full. All about
it follows from when it reaches a bound (`le_hundredths_iff`), which the counts of nothing do for
every bound, so that they need no case of their own: if all of some tallies reach a bound, so does
their sum, and if none does, neither does their sum (`Tally.AddUp.exists_hundredths_le_sum`,
`Tally.AddUp.exists_sum_le_hundredths`).

No word of 128 bits overflows on the way (`checkedHundredths_eq`). The percentage as it is written
is so near to the hundredths that they can be read off it (`round_percent`), so percentages are in
the order of their hundredths (`value_percent_le_iff`). The main result is `hundredths_spec`.
-/

namespace Coverage

open Decimal

variable {covered total covered' total' : UInt64}

/-! ### Hundredths -/

/-- The covered share reaches a bound exactly if the counts do. -/
theorem le_hundredths_iff {k : Nat} (hk : k ≤ 10000) :
    k ≤ hundredths covered total ↔ k * total.toNat ≤ covered.toNat * 10000 := by
  rw [hundredths]
  split
  · next hzero => simp [hzero, hk]
  · next hne => exact Nat.le_div_iff_mul_le (Nat.pos_of_ne_zero hne)

theorem hundredths_le (h : covered ≤ total) : hundredths covered total ≤ 10000 := by
  rw [hundredths]
  split
  · exact Nat.le_refl _
  · apply Nat.div_le_of_le_mul
    exact Nat.mul_le_mul_right 10000 (UInt64.le_iff_toNat_le.1 h)

theorem hundredths_eq_iff (h : covered ≤ total) :
    hundredths covered total = 10000 ↔ covered = total := by
  have hreach : 10000 ≤ hundredths covered total ↔ total.toNat ≤ covered.toNat := by
    rw [le_hundredths_iff (Nat.le_refl _)]
    omega
  have hle := hundredths_le h
  rw [UInt64.le_iff_toNat_le] at h
  rw [← UInt64.toNat_inj]
  omega

theorem hundredths_mono (h : covered' ≤ covered) (total : UInt64) :
    hundredths covered' total ≤ hundredths covered total := by
  rw [hundredths, hundredths]
  split
  · exact Nat.le_refl _
  · apply Nat.div_le_div_right
    exact Nat.mul_le_mul_right 10000 (UInt64.le_iff_toNat_le.1 h)

/-! ### Checked words -/

/-- The product of two numbers as a word of 128 bits, unless it is too great. -/
def wideProduct? (a b : Nat) : Option Nat := if a * b < 2 ^ 128 then some (a * b) else none

/-- The quotient of two numbers, unless the divisor is zero. -/
def quotient? (a b : Nat) : Option Nat := if b = 0 then none else some (a / b)

/-- The hundredths in checked words of 128 bits. There is no answer where a word would leave its
range or a divisor is zero. -/
def checkedHundredths (covered total : UInt64) : Option Nat :=
  if total.toNat = 0 then some 10000
  else do quotient? (← wideProduct? covered.toNat 10000) total.toNat

theorem checkedHundredths_eq (covered total : UInt64) :
    checkedHundredths covered total = some (hundredths covered total) := by
  have hfits : covered.toNat * 10000 < 2 ^ 128 := by
    have hword := covered.toNat_lt
    omega
  rw [checkedHundredths, hundredths]
  split
  · rfl
  · next hne =>
    rw [wideProduct?, if_pos hfits, Option.bind_eq_bind, Option.bind_some, quotient?, if_neg hne]

/-! ### Written percentages -/

/-- The percentage is that of the hundredths, up to the rounding of one division. -/
theorem div?_hundredths (h : covered ≤ total) :
    (Binary64.ofNat (hundredths covered total)).div? (.ofNat 100) = some (percent covered total) ∧
      |(percent covered total).value - hundredths covered total / 100| ≤ 2 ^ (-46 : Int) := by
  have hle := hundredths_le h
  have hshare : (Binary64.ofNat (hundredths covered total)).Holds (hundredths covered total) :=
    Binary64.holds_ofNat (.of_lt (by omega)) (by omega)
  have hhundred : (Binary64.ofNat 100).Holds 100 :=
    Binary64.holds_ofNat (.of_lt (by decide)) (by decide)
  obtain ⟨z, hz, hnear⟩ := hshare.exists_div? (k := 7) hhundred (by decide) (by omega) (by decide)
  have hpercent : percent covered total = z := by rw [percent, hz, Option.getD_some]
  rw [hpercent]
  exact ⟨hz, by exact_mod_cast hnear⟩

/-- The hundredths can be read off a percentage. -/
theorem round_percent (h : covered ≤ total) :
    round (100 * (percent covered total).value) = (hundredths covered total : Int) := by
  obtain ⟨hlow, hhigh⟩ := abs_le.1 (div?_hundredths h).2
  have hsmall : 100 * (2 : ℚ) ^ (-46 : Int) < 1 / 2 := by norm_num
  rw [round_eq_iff, Set.mem_Ico, Int.cast_natCast]
  constructor <;> linarith

/-- Percentages are in the order of their hundredths. -/
theorem value_percent_le_iff (h : covered ≤ total) (h' : covered' ≤ total') :
    (percent covered total).value ≤ (percent covered' total').value ↔
      hundredths covered total ≤ hundredths covered' total' := by
  have hread : ∀ {c t c' t' : UInt64}, c ≤ t → c' ≤ t' →
      (percent c t).value ≤ (percent c' t').value → hundredths c t ≤ hundredths c' t' := by
    intro c t c' t' h h' hle
    have hround : round (100 * (percent c t).value) ≤ round (100 * (percent c' t').value) := by
      rw [round_eq, round_eq]
      apply Int.floor_le_floor
      linarith
    rw [round_percent h, round_percent h'] at hround
    exact_mod_cast hround
  refine ⟨hread h h', fun hle => ?_⟩
  rcases le_total (percent covered total).value (percent covered' total').value with hvalue | hvalue
  · exact hvalue
  · -- The same hundredths give the same percentage.
    have hsame := Nat.le_antisymm hle (hread h' h hvalue)
    rw [percent, percent, hsame]

namespace Tally

/-- The covered share in hundredths of a percent. -/
def hundredths (t : Tally) : Nat := Coverage.hundredths t.covered t.total

/-! ### Sums of tallies -/

theorem total_sum (l : List Tally) : l.sum.total = (l.map Tally.total).sum := by
  induction l with
  | nil => rfl
  | cons t l ih => rw [List.sum_cons, List.map_cons, List.sum_cons, add_def, ← ih]

theorem covered_sum (l : List Tally) : l.sum.covered = (l.map Tally.covered).sum := by
  induction l with
  | nil => rfl
  | cons t l ih => rw [List.sum_cons, List.map_cons, List.sum_cons, add_def, ← ih]

/-- Tallies none of which covers more than there is, and which a word can count together. -/
structure AddUp (l : List Tally) : Prop where
  proper : ∀ t ∈ l, t.covered ≤ t.total
  fits : (l.map fun t => t.total.toNat).sum < 2 ^ 64

namespace AddUp

variable {l : List Tally} (h : AddUp l)
include h

theorem toNat_total : l.sum.total.toNat = (l.map fun t => t.total.toNat).sum := by
  have hfits := h.fits
  rw [total_sum, toNat_sum] <;> rw [List.map_map]
  · rfl
  · exact hfits

theorem covered_le : (l.map fun t => t.covered.toNat).sum ≤ (l.map fun t => t.total.toNat).sum := by
  apply List.sum_le_sum
  intro t ht
  exact UInt64.le_iff_toNat_le.1 (h.proper t ht)

theorem toNat_covered : l.sum.covered.toNat = (l.map fun t => t.covered.toNat).sum := by
  have hfits := Nat.lt_of_le_of_lt h.covered_le h.fits
  rw [covered_sum, toNat_sum] <;> rw [List.map_map]
  · rfl
  · exact hfits

theorem covered_le_total_sum : l.sum.covered ≤ l.sum.total := by
  rw [UInt64.le_iff_toNat_le, h.toNat_covered, h.toNat_total]
  exact h.covered_le

/-- The sum of some tallies is no worse than the worst of them. -/
theorem exists_hundredths_le_sum (hne : l ≠ []) : ∃ t ∈ l, t.hundredths ≤ l.sum.hundredths := by
  by_contra hall
  push Not at hall
  -- All of them reach the next bound.
  obtain ⟨t, ht⟩ := List.exists_mem_of_ne_nil l hne
  have hk : l.sum.hundredths + 1 ≤ 10000 :=
    Nat.le_trans (hall t ht) (hundredths_le (h.proper t ht))
  have hreach : ∀ t ∈ l, (l.sum.hundredths + 1) * t.total.toNat ≤ t.covered.toNat * 10000 :=
    fun t ht => (le_hundredths_iff hk).1 (hall t ht)
  have hsum : (l.sum.hundredths + 1) * l.sum.total.toNat ≤ l.sum.covered.toNat * 10000 := by
    rw [h.toNat_total, h.toNat_covered, ← List.sum_map_mul_left, ← List.sum_map_mul_right]
    exact List.sum_le_sum hreach
  exact Nat.lt_irrefl _ ((le_hundredths_iff hk).2 hsum)

/-- The sum of some tallies is no better than the best of them. -/
theorem exists_sum_le_hundredths (hne : l ≠ []) : ∃ t ∈ l, l.sum.hundredths ≤ t.hundredths := by
  by_contra hall
  push Not at hall
  -- None of them reaches the bound that the sum reaches.
  have hk : l.sum.hundredths ≤ 10000 := hundredths_le h.covered_le_total_sum
  have hmiss : ∀ t ∈ l, t.covered.toNat * 10000 < l.sum.hundredths * t.total.toNat := by
    intro t ht
    apply Nat.lt_of_not_le
    intro hreach
    exact Nat.not_lt.2 ((le_hundredths_iff hk).2 hreach) (hall t ht)
  have hsum : l.sum.covered.toNat * 10000 < l.sum.hundredths * l.sum.total.toNat := by
    rw [h.toNat_total, h.toNat_covered, ← List.sum_map_mul_left, ← List.sum_map_mul_right]
    exact List.sum_lt_sum_of_ne_nil hne _ _ hmiss
  exact Nat.not_le.2 hsum ((le_hundredths_iff hk).1 (Nat.le_refl _))

end AddUp

end Tally

/-! ### Sums of summaries -/

/-- The groups of things that are counted apart. -/
inductive Metric where
  | lines
  | statements
  | functions
  | branches
  deriving DecidableEq, Inhabited, Repr

/-- The tally of one group. -/
def Summary.tally (s : Summary) : Metric → Tally
  | .lines => s.lines
  | .statements => s.statements
  | .functions => s.functions
  | .branches => s.branches

theorem Summary.tally_sum (l : List Summary) (m : Metric) :
    l.sum.tally m = (l.map fun s => s.tally m).sum := by
  induction l with
  | nil => cases m <;> rfl
  | cons s l ih =>
    rw [List.sum_cons, List.map_cons, List.sum_cons, ← ih]
    cases m <;> rfl

/-- The tally of a node is the sum of those of its files. -/
theorem Report.Node.tally_summary (n : Report.Node) (m : Metric) :
    n.summary.tally m = (n.records.map fun f => f.summary.tally m).sum := by
  rw [n.summary_eq, Summary.tally_sum, List.map_map]
  rfl

/-- Where no more is covered than there is, the hundredths come without overflow, a percentage is
written with them, they are full exactly if all is covered, and they grow with what is covered. Two
tallies together cover no more than there is, and their percentage lies between the two. So a
directory, which has the sum of the tallies of its files, is reported no worse than its worst file
and no better than its best one. -/
theorem hundredths_spec :
    (∀ covered total : UInt64, covered ≤ total →
      checkedHundredths covered total = some (hundredths covered total) ∧
      (Binary64.ofNat (hundredths covered total)).div? (.ofNat 100) =
        some (percent covered total) ∧
      round (100 * (percent covered total).value) = (hundredths covered total : Int) ∧
      hundredths covered total ≤ 10000 ∧
      (hundredths covered total = 10000 ↔ covered = total) ∧
      ∀ covered' ≤ covered, hundredths covered' total ≤ hundredths covered total) ∧
    (∀ a b : Tally, a.covered ≤ a.total → b.covered ≤ b.total →
      a.total.toNat + b.total.toNat < 2 ^ 64 →
      (a + b).total.toNat = a.total.toNat + b.total.toNat ∧
      (a + b).covered.toNat = a.covered.toNat + b.covered.toNat ∧
      (a + b).covered ≤ (a + b).total ∧
      min a.hundredths b.hundredths ≤ (a + b).hundredths ∧
      (a + b).hundredths ≤ max a.hundredths b.hundredths) ∧
    ∀ (n : Report.Node) (m : Metric), n.records ≠ [] →
      (∀ f ∈ n.records, (f.summary.tally m).covered ≤ (f.summary.tally m).total) →
      (n.records.map fun f => (f.summary.tally m).total.toNat).sum < 2 ^ 64 →
      (n.summary.tally m).covered ≤ (n.summary.tally m).total ∧
      (∃ worst ∈ n.records,
        (worst.summary.tally m).percent.value ≤ (n.summary.tally m).percent.value) ∧
      ∃ best ∈ n.records,
        (n.summary.tally m).percent.value ≤ (best.summary.tally m).percent.value := by
  refine ⟨?_, ?_, ?_⟩
  · intro covered total h
    exact ⟨checkedHundredths_eq covered total, (div?_hundredths h).1, round_percent h,
      hundredths_le h, hundredths_eq_iff h, fun _ hle => hundredths_mono hle total⟩
  · intro a b ha hb hfits
    have hsum : [a, b].sum = a + b := by simp
    have hpair : Tally.AddUp [a, b] := ⟨by simp [ha, hb], by simpa using hfits⟩
    have htotal := hpair.toNat_total
    have hcovered := hpair.toNat_covered
    have hproper := hpair.covered_le_total_sum
    have hworst := hpair.exists_hundredths_le_sum (List.cons_ne_nil _ _)
    have hbest := hpair.exists_sum_le_hundredths (List.cons_ne_nil _ _)
    rw [hsum] at htotal hcovered hproper hworst hbest
    refine ⟨by simpa using htotal, by simpa using hcovered, hproper, ?_, ?_⟩
    · rw [min_le_iff]
      simpa using hworst
    · rw [le_max_iff]
      simpa using hbest
  · intro n m hne hproper hfits
    have hall : Tally.AddUp (n.records.map fun f => f.summary.tally m) := by
      refine ⟨List.forall_mem_map.2 hproper, ?_⟩
      rwa [List.map_map]
    have hmany : (n.records.map fun f => f.summary.tally m) ≠ [] := List.map_eq_nil_iff.not.2 hne
    have hnode := hall.covered_le_total_sum
    obtain ⟨_, hworst, hlow⟩ := hall.exists_hundredths_le_sum hmany
    obtain ⟨_, hbest, hhigh⟩ := hall.exists_sum_le_hundredths hmany
    rw [← n.tally_summary] at hnode hlow hhigh
    obtain ⟨worst, hfile, rfl⟩ := List.mem_map.1 hworst
    obtain ⟨best, hfile', rfl⟩ := List.mem_map.1 hbest
    refine ⟨hnode, ⟨worst, hfile, ?_⟩, best, hfile', ?_⟩
    · exact (value_percent_le_iff (hproper worst hfile) hnode).2 hlow
    · exact (value_percent_le_iff hnode (hproper best hfile')).2 hhigh

/-- A directory of a file of which a third was covered and a file with nothing to cover. -/
def thirdCovered : Report.Node :=
  .directory .root [.file (.parse "a.js") partly, .file (.parse "b.js") (.empty "b.js")]
where
  partly : FileRecord :=
    { FileRecord.empty "a.js" with
      statements := .ofList [(0, default), (1, default), (2, default)]
      statementHits := .ofList [(0, 2), (1, 0), (2, 0)] }

theorem hundredths_spec_thirdCovered :
    (999998 : UInt64) ≤ 999999 ∧ hundredths 999998 999999 = 9999 ∧
      round (100 * (percent 999998 999999).value) = 9999 ∧
      hundredths 5 999999 ≤ hundredths 999998 999999 ∧
      (⟨3, 1, 0⟩ + ⟨0, 0, 2⟩ : Tally) = ⟨3, 1, 2⟩ ∧
      (⟨3, 1, 2⟩ : Tally).hundredths = 3333 ∧
      min (⟨3, 1, 0⟩ : Tally).hundredths (⟨0, 0, 2⟩ : Tally).hundredths ≤ 3333 ∧
      3333 ≤ max (⟨3, 1, 0⟩ : Tally).hundredths (⟨0, 0, 2⟩ : Tally).hundredths ∧
      thirdCovered.summary.tally .statements = ⟨3, 1, 0⟩ ∧
      ∃ best ∈ thirdCovered.records,
        (⟨3, 1, 0⟩ : Tally).percent.value ≤ (best.summary.tally .statements).percent.value := by
  have hle : (999998 : UInt64) ≤ 999999 := by decide
  have hhundredths : hundredths 999998 999999 = 9999 := by decide
  obtain ⟨-, -, hread, -, -, hmono⟩ := hundredths_spec.1 999998 999999 hle
  rw [hhundredths] at hread
  have hpair := hundredths_spec.2.1 ⟨3, 1, 0⟩ ⟨0, 0, 2⟩ (by decide) (by decide) (by decide)
  obtain ⟨-, -, -, hlow, hhigh⟩ := hpair
  have hnode : thirdCovered.summary.tally .statements = ⟨3, 1, 0⟩ := by decide
  obtain ⟨-, -, hbest⟩ :=
    hundredths_spec.2.2 thirdCovered .statements (by decide) (by decide) (by decide)
  rw [hnode] at hbest
  exact ⟨hle, hhundredths, hread, hmono 5 (by decide), by decide, by decide, hlow, hhigh, hnode,
    hbest⟩

end Coverage
