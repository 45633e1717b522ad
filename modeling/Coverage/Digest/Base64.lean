/-!
# Base 64

The alphabet of base 64, shared by the mappings of source maps, and the decoding of whole texts
in groups of four digits with the last group filled up by equals signs.
-/

namespace Coverage.Digest

/-- The value of a base 64 digit. -/
def base64Digit? (c : Char) : Option Nat :=
  if 'A' ≤ c ∧ c ≤ 'Z' then some (c.toNat - 65)
  else if 'a' ≤ c ∧ c ≤ 'z' then some (c.toNat - 71)
  else if '0' ≤ c ∧ c ≤ '9' then some (c.toNat + 4)
  else if c = '+' then some 62
  else if c = '/' then some 63
  else none

theorem base64Digit?_lt {c : Char} {n : Nat} (h : base64Digit? c = some n) : n < 64 := by
  simp only [base64Digit?, Char.le_def, UInt32.le_iff_toNat_le] at h
  have : ∀ d : Char, d.val.toNat = d.toNat := fun _ => rfl
  simp only [this] at h
  split at h
  · rename_i hc; have := hc.2; cases h; change c.toNat ≤ 90 at this; omega
  · split at h
    · rename_i hc; have := hc.2; cases h; change c.toNat ≤ 122 at this; omega
    · split at h
      · rename_i hc; have := hc.2; cases h; change c.toNat ≤ 57 at this; omega
      · split at h
        · cases h; omega
        · split at h
          · cases h; omega
          · cases h

/-- The bytes of one group of digits; a group is filled up at the end of the text only, and the
bits that it does not need are zero. -/
def base64Decode : List Char → Option (List UInt8)
  | [] => some []
  | [a, b, '=', '='] => do
    let a ← base64Digit? a
    let b ← base64Digit? b
    if b % 16 ≠ 0 then none
    else return [UInt8.ofNat (a * 4 + b / 16)]
  | [a, b, c, '='] => do
    let a ← base64Digit? a
    let b ← base64Digit? b
    let c ← base64Digit? c
    if c % 4 ≠ 0 then none
    else return [UInt8.ofNat (a * 4 + b / 16), UInt8.ofNat (b % 16 * 16 + c / 4)]
  | a :: b :: c :: d :: rest => do
    let a ← base64Digit? a
    let b ← base64Digit? b
    let c ← base64Digit? c
    let d ← base64Digit? d
    let tail ← base64Decode rest
    return UInt8.ofNat (a * 4 + b / 16) :: UInt8.ofNat (b % 16 * 16 + c / 4) ::
      UInt8.ofNat (c % 4 * 64 + d) :: tail
  | _ => none

end Coverage.Digest
