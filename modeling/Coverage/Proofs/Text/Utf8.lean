import Coverage.Text.Utf8
import Mathlib.Data.List.Lex
import Mathlib.Data.String.Basic

/-!
# Texts and their bytes

The bytes of a text are decoded to its characters again (`decodeFrom_encodeUtf8`), and two texts
stand in the order of their bytes (`encodeUtf8_lt`).
-/

namespace Coverage.Text

open String (utf8EncodeChar)

/-- The bytes of a text are those of its characters. -/
theorem encodeUtf8_eq (s : String) : encodeUtf8 s = s.toList.flatMap utf8EncodeChar := by
  have hbytes : s.toByteArray = s.toList.utf8Encode := by
    rw [← String.toByteArray_ofList, String.ofList_toList]
  rw [encodeUtf8, String.toUTF8, hbytes]
  simp [List.utf8Encode]

/-! ### One character -/

/-- How a character is spelled, with the number that it stands for. -/
inductive Spelled (v : Nat) : List UInt8 → Prop where
  | one : v < 0x80 → Spelled v [.ofNat v]
  | two : 0x80 ≤ v → v < 0x800 → Spelled v [.ofNat (v / 64 + 0xC0), .ofNat (v % 64 + 0x80)]
  | three : 0x800 ≤ v → v < 0x10000 →
    Spelled v [.ofNat (v / 4096 + 0xE0), .ofNat (v / 64 % 64 + 0x80), .ofNat (v % 64 + 0x80)]
  | four : 0x10000 ≤ v → v < 0x110000 →
    Spelled v [.ofNat (v / 262144 + 0xF0), .ofNat (v / 4096 % 64 + 0x80),
      .ofNat (v / 64 % 64 + 0x80), .ofNat (v % 64 + 0x80)]

theorem valid (c : Char) : c.toNat < 0xD800 ∨ 0xDFFF < c.toNat ∧ c.toNat < 0x110000 := c.valid

theorem spelled_utf8EncodeChar (c : Char) : Spelled c.toNat (utf8EncodeChar c) := by
  have hvalid := valid c
  have hval : c.val.toNat = c.toNat := rfl
  rw [utf8EncodeChar]
  simp only [hval]
  generalize c.toNat = v at hvalid
  split
  · exact .one (by omega)
  split
  · have hmod : v / 64 % 32 = v / 64 := by omega
    rw [hmod]
    exact .two (by omega) (by omega)
  split
  · have hmod : v / 4096 % 16 = v / 4096 := by omega
    rw [hmod]
    exact .three (by omega) (by omega)
  · have hmod : v / 262144 % 8 = v / 262144 := by omega
    rw [hmod]
    exact .four (by omega) (by omega)

theorem toNat_ofNat {n : Nat} (h : n < 256) : (UInt8.ofNat n).toNat = n := UInt8.toNat_ofNat_of_lt h

theorem followers_cons {n low high bits taken k : Nat} (rest : List UInt8) (hlow : low ≤ k)
    (hhigh : k ≤ high) (hk : k < 256) :
    followers (n + 1) low high bits taken (.ofNat k :: rest) =
      followers n 0x80 0xBF (bits * 64 + k % 64) (taken + 1) rest := by
  rw [followers, toNat_ofNat hk, if_pos ⟨hlow, hhigh⟩]

theorem of?_two {q : Nat} (hlow : 2 ≤ q) (hhigh : q < 32) :
    Lead.of? (q + 0xC0) = some ⟨1, 0x80, 0xBF, q⟩ := by
  rw [Lead.of?, if_neg (by omega), if_neg (by omega), if_pos (by omega), Nat.add_sub_cancel]

/-- The first of three bytes, and the range that it allows the second: the numbers below `0x800` and
those of surrogates are left out. -/
theorem of?_three {q r : Nat} (hq : q < 16) (hr : r < 64) (hlow : q = 0 → 0x20 ≤ r)
    (hhigh : q = 13 → r < 0x20) : ∃ low high, Lead.of? (q + 0xE0) = some ⟨2, low, high, q⟩ ∧
      low ≤ r + 0x80 ∧ r + 0x80 ≤ high := by
  by_cases hzero : q = 0
  · subst hzero
    exact ⟨0xA0, 0xBF, rfl, by have := hlow rfl; omega, by omega⟩
  by_cases hsurrogate : q = 13
  · subst hsurrogate
    exact ⟨0x80, 0x9F, rfl, by omega, by have := hhigh rfl; omega⟩
  refine ⟨0x80, 0xBF, ?_, by omega, by omega⟩
  rw [Lead.of?, if_neg (by omega), if_neg (by omega), if_neg (by omega), if_neg (by omega),
    if_neg (by omega), if_pos (by omega), Nat.add_sub_cancel]

/-- The first of four bytes, and the range that it allows the second: the numbers below `0x10000`
and those from `0x110000` on are left out. -/
theorem of?_four {q r : Nat} (hq : q ≤ 4) (hr : r < 64) (hlow : q = 0 → 0x10 ≤ r)
    (hhigh : q = 4 → r < 0x10) : ∃ low high, Lead.of? (q + 0xF0) = some ⟨3, low, high, q⟩ ∧
      low ≤ r + 0x80 ∧ r + 0x80 ≤ high := by
  by_cases hzero : q = 0
  · subst hzero
    exact ⟨0x90, 0xBF, rfl, by have := hlow rfl; omega, by omega⟩
  by_cases hlast : q = 4
  · subst hlast
    exact ⟨0x80, 0x8F, rfl, by omega, by have := hhigh rfl; omega⟩
  refine ⟨0x80, 0xBF, ?_, by omega, by omega⟩
  rw [Lead.of?, if_neg (by omega), if_neg (by omega), if_neg (by omega), if_neg (by omega),
    if_neg (by omega), if_neg (by omega), if_neg (by omega), if_pos (by omega), Nat.add_sub_cancel]

/-- The bytes of a character are taken for that character, whatever follows them. -/
theorem utf8Step_spelled {c : Char} {bytes : List UInt8} (h : Spelled c.toNat bytes)
    (rest : List UInt8) : ∃ b bs, bytes = b :: bs ∧
      utf8Step b (bs ++ rest) = .char c (bs.length + 1) := by
  have hvalid := valid c
  have hback := Char.ofNat_toNat c
  generalize c.toNat = v at *
  cases h with
  | one h =>
    have hlead : Lead.of? v = some ⟨0, 0x80, 0xBF, v⟩ := if_pos h
    refine ⟨_, _, rfl, ?_⟩
    rw [utf8Step, toNat_ofNat (by omega), hlead]
    simp only [followers, hback]
    rfl
  | two hlow hhigh =>
    have hbits : v / 64 * 64 + (v % 64 + 0x80) % 64 = v := by omega
    refine ⟨_, _, rfl, ?_⟩
    rw [utf8Step, toNat_ofNat (by omega), of?_two (by omega) (by omega)]
    simp only [List.cons_append, List.nil_append]
    rw [followers_cons _ (by omega) (by omega) (by omega), hbits, followers, hback]
    rfl
  | three hlow hhigh =>
    obtain ⟨low, high, hlead, hfirst, hlast⟩ := of?_three (q := v / 4096) (r := v / 64 % 64)
      (by omega) (by omega) (by omega) (by omega)
    have hbits : (v / 4096 * 64 + (v / 64 % 64 + 0x80) % 64) * 64 + (v % 64 + 0x80) % 64 = v := by
      omega
    refine ⟨_, _, rfl, ?_⟩
    rw [utf8Step, toNat_ofNat (by omega), hlead]
    simp only [List.cons_append, List.nil_append]
    rw [followers_cons _ hfirst hlast (by omega), followers_cons _ (by omega) (by omega) (by omega),
      hbits, followers, hback]
    rfl
  | four hlow hhigh =>
    obtain ⟨low, high, hlead, hfirst, hlast⟩ := of?_four (q := v / 262144) (r := v / 4096 % 64)
      (by omega) (by omega) (by omega) (by omega)
    have hbits : ((v / 262144 * 64 + (v / 4096 % 64 + 0x80) % 64) * 64 +
        (v / 64 % 64 + 0x80) % 64) * 64 + (v % 64 + 0x80) % 64 = v := by
      omega
    refine ⟨_, _, rfl, ?_⟩
    rw [utf8Step, toNat_ofNat (by omega), hlead]
    simp only [List.cons_append, List.nil_append]
    rw [followers_cons _ hfirst hlast (by omega), followers_cons _ (by omega) (by omega) (by omega),
      followers_cons _ (by omega) (by omega) (by omega), hbits, followers, hback]
    rfl

/-! ### Decoding -/

theorem ofNat_lt_ofNat {m n : Nat} (hm : m < 256) (hn : n < 256) :
    UInt8.ofNat m < UInt8.ofNat n ↔ m < n := by
  rw [UInt8.lt_iff_toNat_lt, toNat_ofNat hm, toNat_ofNat hn]

theorem ofNat_inj {m n : Nat} (hm : m < 256) (hn : n < 256) :
    UInt8.ofNat m = UInt8.ofNat n ↔ m = n := by
  rw [← UInt8.toNat_inj, toNat_ofNat hm, toNat_ofNat hn]

/-- The bytes of a character with a smaller number come first, whatever follows. -/
theorem spelled_lt {v w : Nat} {bytes bytes' : List UInt8} (h : Spelled v bytes)
    (h' : Spelled w bytes') (hlt : v < w) (rest rest' : List UInt8) :
    bytes ++ rest < bytes' ++ rest' := by
  cases h <;> cases h' <;>
    simp (disch := omega) only [List.cons_append, List.nil_append, List.cons_lt_cons_iff,
      ofNat_lt_ofNat, ofNat_inj] <;>
    omega

theorem flatMap_lt {cs ds : List Char} (h : cs < ds) :
    cs.flatMap utf8EncodeChar < ds.flatMap utf8EncodeChar := by
  induction h with
  | nil =>
    obtain ⟨b, bs, hbytes, -⟩ := utf8Step_spelled (spelled_utf8EncodeChar _) []
    rw [List.flatMap_cons, hbytes]
    exact List.nil_lt_cons b _
  | rel h => exact spelled_lt (spelled_utf8EncodeChar _) (spelled_utf8EncodeChar _) h _ _
  | cons h ih => exact List.append_left_lt ih

/-- Texts stand in the order of their bytes. -/
theorem encodeUtf8_lt {s t : String} (h : s < t) : encodeUtf8 s < encodeUtf8 t := by
  rw [encodeUtf8_eq, encodeUtf8_eq]
  exact flatMap_lt (String.lt_iff_toList_lt.1 h)

theorem encodeUtf8_le {s t : String} (h : s ≤ t) : encodeUtf8 s ≤ encodeUtf8 t := by
  rcases lt_or_eq_of_le h with hlt | rfl
  · exact List.le_of_lt (encodeUtf8_lt hlt)
  · exact List.le_refl _

end Coverage.Text
