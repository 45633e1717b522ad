import Coverage.Proofs.Decimal.Binary64
import Mathlib.Algebra.Order.Field.Power
import Mathlib.Data.Rat.Floor
import Mathlib.Tactic.FieldSimp
import Mathlib.Tactic.Linarith

/-!
# Rounding to 53 bits

Every operation on binary64 values leaves at most 53 bits in the mantissa (`mantissa_ofRatio?`), and
so does reading a decimal number (`mantissa_ofDecimal?`). Cut off to a whole number, such a value is
therefore one that a binary64 value holds exactly (`isExact_truncate`).

A quotient of natural numbers is rounded once, to a value that is off by at most half a unit in its
last place (`exists_ofRatio?`). The last place of a quotient below `2 ^ k` is no greater than
`2 ^ (k - 52)`, and a quotient that is not too great always has a value. The same holds of two
values that hold whole numbers exactly (`Holds.exists_div?`).
-/

namespace Coverage.Decimal

theorem roundDiv_le {n d k : Nat} (h : n < k * d) : roundDiv n d ≤ k := by
  have hd : 0 < d := Nat.pos_of_ne_zero fun hd => by simp [hd] at h
  have hq : n / d < k := (Nat.div_lt_iff_lt_mul hd).2 h
  have hup : roundDiv n d ≤ n / d + 1 := by
    rw [roundDiv]
    split
    · omega
    · split <;> omega
  omega

theorem roundDiv_cases (n d : Nat) :
    roundDiv n d = n / d ∧ 2 * (n % d) ≤ d ∨ roundDiv n d = n / d + 1 ∧ d ≤ 2 * (n % d) := by
  rw [roundDiv]
  have hparity := Nat.mod_two_eq_zero_or_one (n / d)
  split
  · omega
  · split
    · omega
    · omega

/-- Rounding to a whole number is off by at most a half. -/
theorem abs_roundDiv_sub_le (n : Nat) {d : Nat} (hd : 0 < d) :
    |(roundDiv n d : ℚ) - n / d| ≤ 1 / 2 := by
  have hpos : (0 : ℚ) < d := by exact_mod_cast hd
  have hsplit : (n : ℚ) / d = (n / d : ℕ) + ((n % d : ℕ) : ℚ) / d := by
    rw [div_eq_iff (ne_of_gt hpos), add_mul, div_mul_cancel₀ _ (ne_of_gt hpos)]
    exact_mod_cast (Nat.div_add_mod' n d).symm
  have hrest : ((n % d : ℕ) : ℚ) / d < 1 := by
    rw [div_lt_one hpos]
    exact_mod_cast Nat.mod_lt n hd
  have hnonneg : 0 ≤ ((n % d : ℕ) : ℚ) / d := by positivity
  rw [hsplit, abs_le]
  obtain ⟨hround, hle⟩ | ⟨hround, hle⟩ := roundDiv_cases n d
  · have hhalf : ((n % d : ℕ) : ℚ) / d ≤ 1 / 2 := by
      rw [div_le_iff₀ hpos]
      have hcast : (2 : ℚ) * (n % d : ℕ) ≤ d := by exact_mod_cast hle
      linarith
    rw [hround]
    constructor <;> linarith
  · have hhalf : 1 / 2 ≤ ((n % d : ℕ) : ℚ) / d := by
      rw [le_div_iff₀ hpos]
      have hcast : (d : ℚ) ≤ 2 * (n % d : ℕ) := by exact_mod_cast hle
      linarith
    rw [hround, Nat.cast_add, Nat.cast_one]
    constructor <;> linarith

namespace Binary64

/-! ### Quotients and powers of two -/

theorem scaledRound_eq (n d : Nat) (e : Int) :
    scaledRound n d e = roundDiv (n * 2 ^ (-e).toNat) (d * 2 ^ e.toNat) := by
  rw [scaledRound]
  split
  · have hzero : (-e).toNat = 0 := by omega
    rw [hzero, Nat.pow_zero, Nat.mul_one]
    rfl
  · have hzero : e.toNat = 0 := by omega
    rw [hzero, Nat.pow_zero, Nat.mul_one]
    rfl

theorem ratioBelow_iff {n d : Nat} {e : Int} :
    ratioBelow n d e = true ↔ n * 2 ^ (-e).toNat < d * 2 ^ e.toNat := by
  rw [ratioBelow]
  split
  · have hzero : (-e).toNat = 0 := by omega
    rw [hzero, Nat.pow_zero, Nat.mul_one]
    exact decide_eq_true_iff
  · have hzero : e.toNat = 0 := by omega
    rw [hzero, Nat.pow_zero, Nat.mul_one]
    exact decide_eq_true_iff

/-- A quotient below one power of two is below a greater one, too. -/
theorem lt_mul_two_pow {n d a b c e : Nat} (h : n * 2 ^ b < d * 2 ^ a) (hle : a + e ≤ c + b) :
    n * 2 ^ e < d * 2 ^ c := by
  refine Nat.lt_of_mul_lt_mul_right (a := 2 ^ b) ?_
  calc n * 2 ^ e * 2 ^ b = n * 2 ^ b * 2 ^ e := Nat.mul_right_comm ..
    _ < d * 2 ^ a * 2 ^ e := Nat.mul_lt_mul_of_pos_right h (Nat.two_pow_pos e)
    _ = d * 2 ^ (a + e) := by rw [Nat.mul_assoc, ← Nat.pow_add]
    _ ≤ d * 2 ^ (c + b) := Nat.mul_le_mul_left d (Nat.pow_le_pow_right (by decide) hle)
    _ = d * 2 ^ c * 2 ^ b := by rw [Nat.pow_add, Nat.mul_assoc]

/-- The binary logarithms of numerator and denominator bound their quotient. -/
theorem mul_two_pow_log2_lt {n d : Nat} (hd : d ≠ 0) :
    n * 2 ^ d.log2 < d * 2 ^ (n.log2 + 1) :=
  calc n * 2 ^ d.log2 < 2 ^ (n.log2 + 1) * 2 ^ d.log2 :=
      Nat.mul_lt_mul_of_pos_right Nat.lt_log2_self (Nat.two_pow_pos _)
    _ ≤ 2 ^ (n.log2 + 1) * d := Nat.mul_le_mul_left _ (Nat.log2_self_le hd)
    _ = d * 2 ^ (n.log2 + 1) := Nat.mul_comm ..

/-! ### The size of the mantissa -/

variable {x y z : Binary64}

theorem mantissa_ofRatio? {n d : Nat} (hd : d ≠ 0) (h : ofRatio? n d = some x) :
    x.mantissa < 2 ^ 53 := by
  rw [ofRatio?] at h
  split at h
  · cases h
    decide
  dsimp only at h
  generalize hfitted : (if ratioBelow n d ((n.log2 : Int) - (d.log2 : Int) - 52 + 52) = true then
      (n.log2 : Int) - (d.log2 : Int) - 52 - 1
    else (n.log2 : Int) - (d.log2 : Int) - 52) = fitted at h
  -- The quotient is below `2 ^ (fitted + 53)`, whichever way the exponent was found.
  have hbelow : ∃ a b : Nat, n * 2 ^ b < d * 2 ^ a ∧ (a : Int) - b ≤ fitted + 53 := by
    split at hfitted
    · next hratio =>
      refine ⟨_, _, ratioBelow_iff.1 hratio, ?_⟩
      omega
    · refine ⟨_, _, mul_two_pow_log2_lt hd, ?_⟩
      omega
  obtain ⟨a, b, hlt, hab⟩ := hbelow
  have hle : scaledRound n d (max minExponent fitted) ≤ 2 ^ 53 := by
    rw [scaledRound_eq]
    refine roundDiv_le ?_
    rw [Nat.mul_left_comm, ← Nat.pow_add]
    refine lt_mul_two_pow hlt ?_
    omega
  by_cases htop : scaledRound n d (max minExponent fitted) = Nat.pow 2 53
  · rw [if_pos htop] at h
    dsimp only at h
    split at h
    · cases h
    · cases h
      exact Nat.pow_lt_pow_right (by decide) (by decide)
  · rw [if_neg htop] at h
    dsimp only at h
    split at h
    · cases h
    · cases h
      exact Nat.lt_of_le_of_ne hle htop

theorem mantissa_ofNat (n : Nat) : (ofNat n).mantissa < 2 ^ 53 := by
  rw [ofNat]
  cases h : ofRatio? n 1 with
  | none => decide
  | some x => exact mantissa_ofRatio? Nat.one_ne_zero h

theorem ratio_ne_zero (x : Binary64) : x.ratio.2 ≠ 0 := by
  rw [ratio]
  split
  · exact Nat.one_ne_zero
  · exact Nat.ne_of_gt (Nat.two_pow_pos _)

theorem mantissa_mul? (h : x.mul? y = some z) : z.mantissa < 2 ^ 53 :=
  mantissa_ofRatio? (Nat.mul_ne_zero x.ratio_ne_zero y.ratio_ne_zero) h

theorem mantissa_div? (h : x.div? y = some z) : z.mantissa < 2 ^ 53 := by
  rw [div?] at h
  dsimp only at h
  split at h
  · cases h
  · next hne => exact mantissa_ofRatio? (Nat.mul_ne_zero x.ratio_ne_zero hne) h

theorem mantissa_scaleByTen? {fuel : Nat} {e : Int} (hx : x.mantissa < 2 ^ 53)
    (h : scaleByTen? fuel x e = some z) : z.mantissa < 2 ^ 53 := by
  induction fuel generalizing x e with
  | zero =>
    cases h
    exact hx
  | succ fuel ih =>
    rw [scaleByTen?] at h
    split at h
    · split at h
      · exact mantissa_mul? h
      · exact mantissa_div? h
    split at h
    · cases h
      exact hx
    split at h
    · cases h
    · obtain ⟨y, hy, h⟩ := Option.bind_eq_some_iff.1 h
      exact ih (mantissa_div? hy) h

/-- A decimal number is read as a value whose mantissa has at most 53 bits. -/
theorem mantissa_ofDecimal? {n : Nat} {e : Int} (h : ofDecimal? n e = some x) :
    x.mantissa < 2 ^ 53 :=
  mantissa_scaleByTen? (mantissa_ofNat n) h

/-- What is left of a value that is cut off to a whole number is held exactly. -/
theorem isExact_truncate (hm : x.mantissa < 2 ^ 53) : IsExact x.truncate.natAbs := by
  have habs : x.truncate.natAbs = x.ratio.1 / x.ratio.2 := by
    rw [truncate]
    split
    · rw [Int.natAbs_neg, Int.natAbs_natCast]
    · rw [Int.natAbs_natCast]
  rw [habs]
  by_cases he : 0 ≤ x.exponent
  · rw [ratio, if_pos he, Nat.div_one]
    exact ⟨x.mantissa, x.exponent.toNat, hm, rfl⟩
  · rw [ratio, if_neg he]
    exact .of_lt (Nat.lt_of_le_of_lt (Nat.div_le_self ..) hm)

/-! ### How far a value is off -/

/-- The number that a value stands for. -/
def value (x : Binary64) : ℚ :=
  if x.negative then -(x.ratio.1 / x.ratio.2) else x.ratio.1 / x.ratio.2

/-- A power of two as the quotient that a value is kept by. -/
theorem two_zpow_eq (e : Int) : (2 : ℚ) ^ e = 2 ^ e.toNat / 2 ^ (-e).toNat := by
  have hsplit : e = (e.toNat : Int) - ((-e).toNat : Int) := by omega
  conv_lhs => rw [hsplit, zpow_sub₀ two_ne_zero, zpow_natCast, zpow_natCast]

theorem value_mk (m : Nat) (e : Int) : (⟨false, m, e⟩ : Binary64).value = m * 2 ^ e := by
  rw [value, if_neg Bool.false_ne_true, two_zpow_eq]
  by_cases he : 0 ≤ e
  · have hratio : (⟨false, m, e⟩ : Binary64).ratio = (m * 2 ^ e.toNat, 1) := if_pos he
    have hzero : (-e).toNat = 0 := by omega
    simp [hratio, hzero]
  · have hratio : (⟨false, m, e⟩ : Binary64).ratio = (m, 2 ^ (-e).toNat) := if_neg he
    have hzero : e.toNat = 0 := by omega
    simp [hratio, hzero, div_eq_mul_inv]

/-- Rounding to a multiple of a power of two is off by at most half of it. -/
theorem abs_scaledRound_sub_le (n : Nat) {d : Nat} (hd : 0 < d) (e : Int) :
    |(scaledRound n d e : ℚ) * 2 ^ e - n / d| ≤ 2 ^ e / 2 := by
  have hpos : (0 : ℚ) < 2 ^ e := by positivity
  have hscaled : ((n * 2 ^ (-e).toNat : ℕ) : ℚ) / (d * 2 ^ e.toNat : ℕ) = n / d / 2 ^ e := by
    rw [two_zpow_eq]
    push_cast
    field_simp
  have hnear := abs_roundDiv_sub_le (n * 2 ^ (-e).toNat)
    (Nat.mul_pos hd (Nat.two_pow_pos e.toNat))
  rw [hscaled, ← scaledRound_eq] at hnear
  calc |(scaledRound n d e : ℚ) * 2 ^ e - n / d|
      = |(scaledRound n d e : ℚ) - n / d / 2 ^ e| * 2 ^ e := by
        rw [← abs_of_pos hpos, ← abs_mul, abs_of_pos hpos, sub_mul,
          div_mul_cancel₀ _ (ne_of_gt hpos)]
    _ ≤ 1 / 2 * 2 ^ e := mul_le_mul_of_nonneg_right hnear (le_of_lt hpos)
    _ = 2 ^ e / 2 := by ring

/-- A quotient that is not too great has a value, which is off by at most half a unit in the last
place. -/
theorem exists_ofRatio? {n d k : Nat} (hd : 0 < d) (h : n < d * 2 ^ k) (hk : k ≤ 1000) :
    ∃ x, ofRatio? n d = some x ∧ |x.value - n / d| ≤ 2 ^ ((k : Int) - 53) := by
  by_cases hn : n = 0
  · refine ⟨zero, by rw [ofRatio?, if_pos hn], ?_⟩
    rw [zero, value_mk, hn]
    simp only [Nat.cast_zero, zero_mul, zero_div, sub_zero, abs_zero]
    positivity
  have hlog : n.log2 ≤ d.log2 + k := by
    have hlt : n < 2 ^ (d.log2 + 1 + k) := by
      calc n < d * 2 ^ k := h
        _ ≤ 2 ^ (d.log2 + 1) * 2 ^ k := Nat.mul_le_mul_right _ (Nat.le_of_lt Nat.lt_log2_self)
        _ = 2 ^ (d.log2 + 1 + k) := (Nat.pow_add ..).symm
    have hbits := (Nat.log2_lt hn).2 hlt
    omega
  rw [ofRatio?, if_neg hn]
  dsimp only
  generalize hfitted : (if ratioBelow n d ((n.log2 : Int) - (d.log2 : Int) - 52 + 52) = true then
      (n.log2 : Int) - (d.log2 : Int) - 52 - 1
    else (n.log2 : Int) - (d.log2 : Int) - 52) = fitted
  have hle : max minExponent fitted ≤ (k : Int) - 52 := by
    rw [minExponent]
    split at hfitted <;> omega
  generalize max minExponent fitted = e at hle
  have hnear := abs_scaledRound_sub_le n hd e
  have hhalf : (2 : ℚ) ^ e / 2 ≤ 2 ^ ((k : Int) - 53) := by
    have hshift : (2 : ℚ) ^ e / 2 = 2 ^ (e - 1) := by
      rw [zpow_sub_one₀ two_ne_zero, div_eq_mul_inv]
    rw [hshift]
    exact zpow_le_zpow_right₀ one_le_two (by omega)
  by_cases htop : scaledRound n d e = Nat.pow 2 53
  · have hrange : ¬ maxExponent < e + 1 := by
      rw [maxExponent]
      omega
    refine ⟨⟨false, Nat.pow 2 52, e + 1⟩, by simp only [if_pos htop, if_neg hrange], ?_⟩
    have hsame : ((Nat.pow 2 52 : ℕ) : ℚ) * 2 ^ (e + 1) = (scaledRound n d e : ℚ) * 2 ^ e := by
      rw [htop, zpow_add_one₀ two_ne_zero]
      norm_num
      ring
    rw [value_mk, hsame]
    exact le_trans hnear hhalf
  · have hrange : ¬ maxExponent < e := by
      rw [maxExponent]
      omega
    refine ⟨⟨false, scaledRound n d e, e⟩, by simp only [if_neg htop, if_neg hrange], ?_⟩
    rw [value_mk]
    exact le_trans hnear hhalf

theorem Holds.ratio_eq {x : Binary64} {n : Nat} (h : x.Holds n) :
    x.ratio.1 = n * x.ratio.2 := by
  have hwhole : x.ratio.1 % x.ratio.2 = 0 := of_decide_eq_true h.whole
  have hsplit := Nat.div_add_mod x.ratio.1 x.ratio.2
  rw [h.value, hwhole, Nat.add_zero, Nat.mul_comm] at hsplit
  exact hsplit.symm

/-- The quotient of two values that hold whole numbers is as near as that of the numbers. -/
theorem Holds.exists_div? {x y : Binary64} {n d k : Nat} (hx : x.Holds n) (hy : y.Holds d)
    (hd : 0 < d) (h : n < d * 2 ^ k) (hk : k ≤ 1000) :
    ∃ z, x.div? y = some z ∧ |z.value - n / d| ≤ 2 ^ ((k : Int) - 53) := by
  have hxpos : 0 < x.ratio.2 := Nat.pos_of_ne_zero x.ratio_ne_zero
  have hypos : 0 < y.ratio.2 := Nat.pos_of_ne_zero y.ratio_ne_zero
  have hdivisor : 0 < d * y.ratio.2 := Nat.mul_pos hd hypos
  have hbound : n * x.ratio.2 * y.ratio.2 < x.ratio.2 * (d * y.ratio.2) * 2 ^ k := by
    have hscale := Nat.mul_lt_mul_of_pos_right h (Nat.mul_pos hxpos hypos)
    calc n * x.ratio.2 * y.ratio.2 = n * (x.ratio.2 * y.ratio.2) := Nat.mul_assoc ..
      _ < d * 2 ^ k * (x.ratio.2 * y.ratio.2) := hscale
      _ = x.ratio.2 * (d * y.ratio.2) * 2 ^ k := by ring
  obtain ⟨z, hz, hnear⟩ := exists_ofRatio? (Nat.mul_pos hxpos hdivisor) hbound hk
  refine ⟨z, ?_, ?_⟩
  · rw [div?]
    dsimp only
    rw [hx.ratio_eq, hy.ratio_eq, if_neg (Nat.ne_of_gt hdivisor)]
    exact hz
  · have hcancel : ((n * x.ratio.2 * y.ratio.2 : ℕ) : ℚ) / (x.ratio.2 * (d * y.ratio.2) : ℕ) =
        n / d := by
      have hxne : (x.ratio.2 : ℚ) ≠ 0 := Nat.cast_ne_zero.2 (Nat.ne_of_gt hxpos)
      have hyne : (y.ratio.2 : ℚ) ≠ 0 := Nat.cast_ne_zero.2 (Nat.ne_of_gt hypos)
      have hdne : (d : ℚ) ≠ 0 := Nat.cast_ne_zero.2 (Nat.ne_of_gt hd)
      push_cast
      field_simp
    rwa [hcancel] at hnear

end Binary64

end Coverage.Decimal
