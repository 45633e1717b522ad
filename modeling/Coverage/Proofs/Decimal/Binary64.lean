import Coverage.Decimal.Binary64
import Mathlib.Algebra.Group.Nat.Defs

/-!
# Whole numbers that binary64 values hold exactly

A natural number with at most 53 significant bits is not rounded when it is made into a binary64
value: cut off to a whole number again, the value is the number that it was made from
(`truncate_ofNat`).
-/

namespace Coverage.Decimal

/-- A natural number with at most 53 significant bits. -/
def IsExact (n : Nat) : Prop := ∃ m k, m < 2 ^ 53 ∧ n = m * 2 ^ k

theorem IsExact.of_lt {n : Nat} (h : n < 2 ^ 53) : IsExact n := ⟨n, 0, h, by simp⟩

/-- The bits of an exact number behind its first 53 are zero. -/
theorem IsExact.dvd {n : Nat} (h : IsExact n) (hpos : n ≠ 0) : 2 ^ (n.log2 - 52) ∣ n := by
  obtain ⟨m, k, hm, rfl⟩ := h
  have hlt : m * 2 ^ k < 2 ^ (53 + k) := by
    rw [Nat.pow_add]
    exact Nat.mul_lt_mul_of_pos_right hm (Nat.two_pow_pos k)
  have hlog : (m * 2 ^ k).log2 < 53 + k := (Nat.log2_lt hpos).2 hlt
  exact Nat.dvd_trans (Nat.pow_dvd_pow 2 (by omega)) (Nat.dvd_mul_left _ _)

namespace Binary64

/-- The value that holds a number exactly. -/
structure Holds (x : Binary64) (n : Nat) : Prop where
  positive : x.negative = false
  whole : x.isWhole = true
  value : x.ratio.1 / x.ratio.2 = n

theorem Holds.truncate {x : Binary64} {n : Nat} (h : x.Holds n) : x.truncate = n := by
  rw [Binary64.truncate, h.positive, h.value]
  rfl

theorem Holds.truncate_negate {x : Binary64} {n : Nat} (h : x.Holds n) :
    x.negate.truncate = -n := by
  have hratio : x.negate.ratio = x.ratio := rfl
  rw [Binary64.truncate, hratio, h.value]
  simp [negate, h.positive]

theorem Holds.isWhole_negate {x : Binary64} {n : Nat} (h : x.Holds n) :
    x.negate.isWhole = true := h.whole

theorem holds_of_nonneg {m e n : Nat} (h : n = m * 2 ^ e) : (⟨false, m, e⟩ : Binary64).Holds n := by
  have hratio : (⟨false, m, e⟩ : Binary64).ratio = (m * 2 ^ e, 1) := by
    rw [ratio, if_pos (Int.natCast_nonneg e)]
    rfl
  refine ⟨rfl, ?_, ?_⟩
  · rw [isWhole, hratio]
    exact decide_eq_true (Nat.mod_one _)
  · rw [hratio, h, Nat.div_one]

theorem holds_of_neg {n e : Nat} (he : 0 < e) :
    (⟨false, n * 2 ^ e, -e⟩ : Binary64).Holds n := by
  have hneg : ¬ 0 ≤ -(e : Int) := by omega
  have hratio : (⟨false, n * 2 ^ e, -e⟩ : Binary64).ratio = (n * 2 ^ e, 2 ^ e) := by
    rw [ratio, if_neg hneg]
    simp
  refine ⟨rfl, ?_, ?_⟩
  · rw [isWhole, hratio]
    simp
  · rw [hratio]
    exact Nat.mul_div_cancel n (Nat.two_pow_pos e)

theorem holds_zero : zero.Holds 0 := by
  have h : ∀ e : Nat, 0 < e → (⟨false, 0, -e⟩ : Binary64).Holds 0 := by
    intro e he
    have hneg : (⟨false, 0 * 2 ^ e, -e⟩ : Binary64).Holds 0 := holds_of_neg he
    rwa [Nat.zero_mul] at hneg
  exact h 1074 (by decide)

/-- The exponent is the one that leaves 53 bits to the mantissa. -/
theorem ofRatio?_one {n : Nat} (hn : n ≠ 0) (hsize : n < 2 ^ 64)
    (hm : scaledRound n 1 ((n.log2 : Int) - 52) < 2 ^ 53) :
    ofRatio? n 1 = some ⟨false, scaledRound n 1 ((n.log2 : Int) - 52), (n.log2 : Int) - 52⟩ := by
  have hlog : n.log2 < 64 := (Nat.log2_lt hn).2 hsize
  have hone : Nat.log2 1 = 0 := by decide
  have hguess : (n.log2 : Int) - (0 : Nat) - 52 = (n.log2 : Int) - 52 := by omega
  have hfitted : ratioBelow n 1 ((n.log2 : Int) - 52 + 52) = false := by
    have hself : (n.log2 : Int) - 52 + 52 = (n.log2 : Int) := by omega
    rw [hself, ratioBelow, if_pos (Int.natCast_nonneg _)]
    have hle : 2 ^ n.log2 ≤ n := Nat.log2_self_le hn
    simpa using hle
  have hmax : max minExponent ((n.log2 : Int) - 52) = (n.log2 : Int) - 52 := by
    rw [minExponent]
    omega
  have hne : ¬ scaledRound n 1 ((n.log2 : Int) - 52) = Nat.pow 2 53 := Nat.ne_of_lt hm
  have hrange : ¬ maxExponent < (n.log2 : Int) - 52 := by
    rw [maxExponent]
    omega
  simp only [ofRatio?, if_neg hn, hone, hguess, hfitted, Bool.false_eq_true, if_false, hmax,
    if_neg hne, if_neg hrange]

/-- A number of 64 bits that is exact is held exactly. -/
theorem holds_ofNat {n : Nat} (h : IsExact n) (hsize : n < 2 ^ 64) : (ofNat n).Holds n := by
  by_cases hn : n = 0
  · subst hn
    exact holds_zero
  have hlog : n < 2 ^ (n.log2 + 1) := Nat.lt_log2_self
  rcases Nat.lt_or_ge n.log2 52 with hlt | hge
  · -- The mantissa is the number with zeros behind it.
    have hexp : (n.log2 : Int) - 52 = -((52 - n.log2 : Nat) : Int) := by omega
    have hneg : ¬ 0 ≤ -((52 - n.log2 : Nat) : Int) := by omega
    have hround : scaledRound n 1 ((n.log2 : Int) - 52) = n * 2 ^ (52 - n.log2) := by
      rw [hexp, scaledRound, if_neg hneg, Int.neg_neg, Int.toNat_natCast]
      simpa using roundDiv_mul (n * 2 ^ (52 - n.log2)) 1 (by decide)
    have hm : n * 2 ^ (52 - n.log2) < 2 ^ 53 := by
      have hsplit : 2 ^ 53 = 2 ^ (n.log2 + 1) * 2 ^ (52 - n.log2) := by
        rw [← Nat.pow_add]
        congr 1
        omega
      rw [hsplit]
      exact Nat.mul_lt_mul_of_pos_right hlog (Nat.two_pow_pos _)
    rw [ofNat, ofRatio?_one hn hsize (hround ▸ hm), Option.getD_some, hround, hexp]
    exact holds_of_neg (by omega)
  · -- The bits behind the mantissa are zero.
    have hexp : (n.log2 : Int) - 52 = ((n.log2 - 52 : Nat) : Int) := by omega
    obtain ⟨q, hq⟩ := h.dvd hn
    rw [Nat.mul_comm] at hq
    have hround : scaledRound n 1 ((n.log2 : Int) - 52) = q := by
      rw [hexp, scaledRound, if_pos (Int.natCast_nonneg _), Int.toNat_natCast, Nat.one_mul]
      conv => lhs; arg 1; rw [hq]
      exact roundDiv_mul q _ (Nat.two_pow_pos _)
    have hm : q < 2 ^ 53 := by
      have hsplit : 2 ^ (n.log2 + 1) = 2 ^ 53 * 2 ^ (n.log2 - 52) := by
        rw [← Nat.pow_add]
        congr 1
        omega
      rw [hsplit] at hlog
      refine Nat.lt_of_mul_lt_mul_right (a := 2 ^ (n.log2 - 52)) ?_
      exact hq ▸ hlog
    rw [ofNat, ofRatio?_one hn hsize (hround ▸ hm), Option.getD_some, hround, hexp]
    exact holds_of_nonneg hq

end Binary64

end Coverage.Decimal
