import Coverage.Proofs.Json.Yielding
import Coverage.SourceMap.Vlq
import Mathlib.Data.List.Forall2
import Mathlib.Tactic.Ring

/-!
# Groups of digits and the fields they write

A segment can be read exactly if it is a row of groups, and every group is one field
(`fields_eq_ok_iff`). The digits of a group write a number, the payload, and up to 63 bits of it
fit into the word that they are collected in (`toInt_field`); what thirteen digits have beyond 64
bits is lost. The word never leaves its range while a segment is read: arithmetic that gives up
where a sum or a negation is no word reads the same (`checkedFields_eq`). The shortest groups for
numbers of up to 62 bits read back as these numbers (`fields_encode`).

The main result is `fields_groups`, for all of this.
-/

namespace Coverage.SourceMap

open Digest (base64Digit?)
open Json (exists_of_bind_eq_ok)

/-! ### Groups -/

/-- A digit that announces another one. -/
def Continues (c : Char) : Prop := ∃ digit, base64Digit? c = some digit ∧ 32 ≤ digit

/-- A digit that announces no other one. -/
def Ends (c : Char) : Prop := ∃ digit, base64Digit? c = some digit ∧ digit < 32

/-- All digits but the last one announce another one. -/
inductive Digits : List Char → Prop
  | last {c : Char} (hc : Ends c) : Digits [c]
  | more {c : Char} {g : List Char} (hc : Continues c) (hg : Digits g) : Digits (c :: g)

/-- The digits of a field. -/
structure IsGroup (g : List Char) : Prop where
  digits : Digits g
  length_le : g.length ≤ 13

/-- The number that digits write, five bits each and the lowest ones first. -/
def payload : List Char → Nat
  | [] => 0
  | c :: cs => (base64Digit? c).getD 0 % 32 + 32 * payload cs

/-- The integer that a payload stands for: its lowest bit is the sign. -/
def denoted (n : Nat) : Int := if n % 2 = 1 then -(n / 2 : Nat) else (n / 2 : Nat)

theorem Digits.ne_nil {g : List Char} (h : Digits g) : g ≠ [] := by
  cases h <;> exact List.cons_ne_nil _ _

/-! ### The word that a group is collected in -/

/-- The word `value` with the bits of all digits added, those of the first one `shift` bits up. -/
def gathered (value : Int64) (shift : Nat) : List Char → Int64
  | [] => value
  | c :: cs => gathered (addDigit value ((base64Digit? c).getD 0) shift) (shift + 5) cs

theorem toNat_smod_ofNat :
    ∀ shift ≤ maxShift, ((Int64.ofNat shift).toBitVec.smod 64).toNat = shift := by
  decide

theorem ofNat_shiftLeft {shift : Nat} (hshift : shift ≤ maxShift) (bits : Nat) :
    Int64.ofNat bits <<< Int64.ofNat shift = Int64.ofNat (bits * 2 ^ shift) := by
  apply Int64.toBitVec_inj.1
  rw [Int64.toBitVec_shiftLeft, BitVec.shiftLeft_eq', toNat_smod_ofNat shift hshift]
  apply BitVec.eq_of_toNat_eq
  simp [Nat.shiftLeft_eq]

/-- The word is the payload, as far as there is room for it. -/
theorem gathered_eq {g : List Char} {shift : Nat} (h : shift + 5 * g.length ≤ maxShift + 5)
    (value : Int64) : gathered value shift g = value + Int64.ofNat (payload g * 2 ^ shift) := by
  induction g generalizing value shift with
  | nil => simp [gathered, payload]
  | cons c cs ih =>
    rw [List.length_cons] at h
    have hpow : 2 ^ (shift + 5) = 32 * 2 ^ shift := by rw [Nat.pow_add, Nat.mul_comm]
    rw [gathered, ih (by omega), addDigit, ofNat_shiftLeft (by omega), payload, hpow,
      Int64.add_assoc, ← Int64.ofNat_add]
    congr 2
    ring

theorem and_one_eq_iff (v : Int64) : v &&& 1 = 1 ↔ v.toInt % 2 = 1 := by
  have hodd : v.toInt % 2 = (v.toBitVec.toNat % 2 : Nat) := by
    show v.toBitVec.toInt % 2 = _
    rw [BitVec.toInt_eq_toNat_bmod, Int.bmod]
    omega
  rw [← Int64.toBitVec_inj, Int64.toBitVec_and, hodd, ← BitVec.toNat_inj]
  simp
  omega

theorem toInt_shiftRight_one (v : Int64) : (v >>> 1).toInt = v.toInt / 2 := by
  show (v >>> 1).toBitVec.toInt = v.toBitVec.toInt / 2
  have hone : (1 : Int64).toBitVec.smod 64 = 1#64 := rfl
  rw [Int64.toBitVec_shiftRight, hone, BitVec.sshiftRight_eq', BitVec.toInt_sshiftRight]
  exact Int.shiftRight_eq_div_pow _ 1

/-- The number that the bits of a field stand for, of any field. -/
theorem toInt_signed (v : Int64) :
    (signed v).toInt = if v.toInt % 2 = 1 then -(v.toInt / 2) else v.toInt / 2 := by
  have hmin : -2 ^ 63 ≤ v.toInt := v.le_toInt
  have hmax : v.toInt ≤ 2 ^ 63 - 1 := v.toInt_le
  simp only [signed, and_one_eq_iff]
  split
  · rw [Int64.toInt_neg, toInt_shiftRight_one]
    exact Int.bmod_eq_of_le (by omega) (by omega)
  · exact toInt_shiftRight_one v

theorem IsGroup.room {g : List Char} (hg : IsGroup g) : 0 + 5 * g.length ≤ maxShift + 5 := by
  have hle := hg.length_le
  rw [maxShift]
  omega

/-- A field that fits into its word is what its payload stands for. -/
theorem toInt_field {g : List Char} (hg : IsGroup g) (h : payload g < 2 ^ 63) :
    (signed (gathered 0 0 g)).toInt = denoted (payload g) := by
  have hword : (gathered 0 0 g).toInt = payload g := by
    rw [gathered_eq hg.room, Int64.zero_add, Nat.pow_zero, Nat.mul_one]
    exact Int64.toInt_ofNat_of_lt h
  rw [toInt_signed, hword, denoted]
  omega

/-! ### Reading the groups of a segment -/

variable {segment cs g : List Char} {value : Int64} {shift : Nat} {fs : List Int64}

/-- The digits of a field are read as one field. -/
theorem fieldsFrom_digits (hg : Digits g) (h : shift + 5 * g.length ≤ maxShift + 5)
    (segment : List Char) (value : Int64) (rest : List Char) :
    fieldsFrom segment value shift (g ++ rest) =
      (signed (gathered value shift g) :: ·) <$> fieldsFrom segment 0 0 rest := by
  induction hg generalizing value shift with
  | last hc =>
    obtain ⟨digit, hdigit, hlast⟩ := hc
    rw [List.length_singleton] at h
    simp only [List.singleton_append, fieldsFrom, hdigit, gathered, Option.getD_some]
    rw [if_neg (by omega), if_neg (by omega)]
    rfl
  | more hc _ ih =>
    obtain ⟨digit, hdigit, hmore⟩ := hc
    rw [List.length_cons] at h
    simp only [List.cons_append, fieldsFrom, hdigit, gathered, Option.getD_some]
    rw [if_neg (by omega), if_pos hmore]
    exact ih (by omega) _

/-- What can be read starts with the digits of a field, or is at its end. -/
theorem digits_of_fieldsFrom (h : fieldsFrom segment value shift cs = .ok fs) :
    (shift = 0 ∧ cs = [] ∧ fs = []) ∨
      ∃ g rest fs', cs = g ++ rest ∧ Digits g ∧ shift + 5 * g.length ≤ maxShift + 5 ∧
        fieldsFrom segment 0 0 rest = .ok fs' ∧ fs = signed (gathered value shift g) :: fs' := by
  induction cs generalizing value shift with
  | nil =>
    rw [fieldsFrom] at h
    split at h
    · next hshift =>
      cases h
      exact .inl ⟨hshift, rfl, rfl⟩
    · cases h
  | cons c cs ih =>
    right
    rw [fieldsFrom] at h
    split at h
    · cases h
    next digit hdigit =>
    split at h
    · cases h
    next hroom =>
    have hread : (base64Digit? c).getD 0 = digit := by rw [hdigit, Option.getD_some]
    dsimp only at h
    split at h
    · next hmore =>
      rcases ih h with ⟨hzero, -, -⟩ | ⟨g, rest, fs', rfl, hg, hlength, hrest, hfs⟩
      · omega
      · refine ⟨c :: g, rest, fs', rfl, .more ⟨digit, hdigit, hmore⟩ hg, ?_, hrest, ?_⟩
        · rw [List.length_cons]
          omega
        · rw [hfs, gathered, hread]
    · next hlast =>
      obtain ⟨fs', hrest, h⟩ := exists_of_bind_eq_ok h
      cases h
      refine ⟨[c], cs, fs', rfl, .last ⟨digit, hdigit, by omega⟩, ?_, hrest, ?_⟩
      · rw [List.length_singleton]
        omega
      · rw [gathered, gathered, hread]

theorem fieldsFrom_flatten (segment : List Char) {groups : List (List Char)}
    (h : ∀ g ∈ groups, IsGroup g) :
    fieldsFrom segment 0 0 groups.flatten = .ok (groups.map fun g => signed (gathered 0 0 g)) := by
  induction groups with
  | nil => rfl
  | cons g groups ih =>
    obtain ⟨hg, hgroups⟩ := List.forall_mem_cons.1 h
    rw [List.flatten_cons, fieldsFrom_digits hg.digits hg.room, ih hgroups]
    rfl

theorem groups_of_fieldsFrom (h : fieldsFrom segment 0 0 cs = .ok fs) :
    ∃ groups : List (List Char), (∀ g ∈ groups, IsGroup g) ∧ groups.flatten = cs := by
  induction hn : cs.length using Nat.strong_induction_on generalizing cs fs with
  | h n ih =>
    rcases digits_of_fieldsFrom h with ⟨-, rfl, -⟩ | ⟨g, rest, fs', rfl, hg, hroom, hrest, -⟩
    · exact ⟨[], nofun, rfl⟩
    · have hpos := List.length_pos_iff.2 hg.ne_nil
      rw [List.length_append] at hn
      obtain ⟨groups, hgroups, rfl⟩ := ih rest.length (by omega) hrest rfl
      have hgroup : IsGroup g := ⟨hg, by rw [maxShift] at hroom; omega⟩
      exact ⟨g :: groups, List.forall_mem_cons.2 ⟨hgroup, hgroups⟩, rfl⟩

/-- Exactly the rows of groups can be read, one field for each group. -/
theorem fields_eq_ok_iff : fields segment = .ok fs ↔
    ∃ groups : List (List Char), (∀ g ∈ groups, IsGroup g) ∧ groups.flatten = segment ∧
      fs = groups.map fun g => signed (gathered 0 0 g) := by
  constructor
  · intro h
    obtain ⟨groups, hgroups, hflatten⟩ := groups_of_fieldsFrom h
    refine ⟨groups, hgroups, hflatten, ?_⟩
    have hread := fieldsFrom_flatten segment hgroups
    rw [hflatten] at hread
    exact Except.ok.inj (h.symm.trans hread)
  · rintro ⟨groups, hgroups, rfl, rfl⟩
    exact fieldsFrom_flatten _ hgroups

/-! ### Arithmetic that gives up -/

/-- The sum of two words, where it is one. -/
def sum? (a b : Int64) : Option Int64 :=
  let sum := a.toInt + b.toInt
  if Int64.minValue.toInt ≤ sum ∧ sum ≤ Int64.maxValue.toInt then some (Int64.ofInt sum) else none

/-- The negation of a word, where it is one. -/
def negation? (a : Int64) : Option Int64 :=
  if -a.toInt ≤ Int64.maxValue.toInt then some (Int64.ofInt (-a.toInt)) else none

/-- Adds a digit to a word, unless the sum is none. -/
def addDigit? (value : Int64) (digit shift : Nat) : Option Int64 :=
  sum? value (Int64.ofNat (digit % 32) <<< Int64.ofNat shift)

/-- The number that the bits of a field stand for, unless its negation is no word. -/
def signed? (value : Int64) : Option Int64 :=
  let magnitude := value >>> 1
  if value &&& 1 = 1 then negation? magnitude else some magnitude

/-- Reads the rest of a segment like `fieldsFrom` and gives up where a sum or a negation is no
word. -/
def checkedFrom (segment : List Char) (value : Int64) (shift : Nat) :
    List Char → Option (Except Error (List Int64))
  | [] => some (if shift = 0 then .ok [] else .error (.truncatedSegment (String.ofList segment)))
  | c :: cs =>
    match base64Digit? c with
    | none => some (.error (.badDigit (firstByte c)))
    | some digit =>
      if maxShift < shift then some (.error .digitOverflow)
      else do
        let value ← addDigit? value digit shift
        if 32 ≤ digit then checkedFrom segment value (shift + 5) cs
        else do
          let field ← signed? value
          return (field :: ·) <$> (← checkedFrom segment 0 0 cs)

/-- Reads the fields of a segment and gives up where a sum or a negation is no word. -/
def checkedFields (segment : List Char) : Option (Except Error (List Int64)) :=
  checkedFrom segment 0 0 segment

theorem toInt_add_eq {a b : Int64} (hmin : -2 ^ 63 ≤ a.toInt + b.toInt)
    (hmax : a.toInt + b.toInt < 2 ^ 63) : (a + b).toInt = a.toInt + b.toInt := by
  rw [Int64.toInt_add]
  exact Int.bmod_eq_of_le (by omega) (by omega)

theorem sum?_eq {a b : Int64} (hmin : -2 ^ 63 ≤ a.toInt + b.toInt)
    (hmax : a.toInt + b.toInt < 2 ^ 63) : sum? a b = some (a + b) := by
  have hsum : Int64.ofInt (a.toInt + b.toInt) = a + b := by
    rw [Int64.ofInt_add, Int64.ofInt_toInt, Int64.ofInt_toInt]
  have hrange : Int64.minValue.toInt ≤ a.toInt + b.toInt ∧
      a.toInt + b.toInt ≤ Int64.maxValue.toInt := ⟨hmin, Int.le_sub_one_of_lt hmax⟩
  rw [sum?, if_pos hrange, hsum]

theorem signed?_eq (v : Int64) : signed? v = some (signed v) := by
  have hmin : -2 ^ 63 ≤ v.toInt := v.le_toInt
  have hfits : -(v >>> 1).toInt ≤ Int64.maxValue.toInt := by
    have hmax : Int64.maxValue.toInt = 2 ^ 63 - 1 := rfl
    rw [toInt_shiftRight_one, hmax]
    omega
  simp only [signed?, signed, negation?, if_pos hfits, Int64.ofInt_neg, Int64.ofInt_toInt]
  split <;> rfl

/-- The bits of the next digit are higher than those of the word, if there is room for it. -/
def Below (value : Int64) (shift : Nat) : Prop :=
  shift ≤ maxShift → 0 ≤ value.toInt ∧ value.toInt < 2 ^ shift

theorem below_zero : Below 0 0 := fun _ => ⟨Int.le_refl 0, Int.zero_lt_one⟩

/-- Adding a digit is no overflow. -/
theorem addDigit?_eq {value : Int64} {shift : Nat} (hfive : 5 ∣ shift) (hshift : shift ≤ maxShift)
    (hbelow : Below value shift) (digit : Nat) :
    addDigit? value digit shift = some (addDigit value digit shift) ∧
      Below (addDigit value digit shift) (shift + 5) := by
  obtain ⟨hnonneg, hlt⟩ := hbelow hshift
  rw [addDigit?, addDigit, ofNat_shiftLeft hshift]
  rw [maxShift] at hshift
  rcases Nat.lt_or_ge 55 shift with hlast | hroom
  · -- The thirteenth digit has its highest bit cut off, and its next one is the sign.
    obtain rfl : shift = 60 := by omega
    have hbits : (Int64.ofNat (digit % 32 * 2 ^ 60)).toInt =
        ((digit % 32 * 2 ^ 60 : Nat) : Int).bmod (2 ^ 64) := Int64.toInt_ofNat'
    rw [Int.bmod] at hbits
    refine ⟨sum?_eq (by omega) (by omega), fun hnext => ?_⟩
    rw [maxShift] at hnext
    omega
  · have hpow : (2 : Nat) ^ shift ≤ 2 ^ 55 := Nat.pow_le_pow_right (by omega) hroom
    have hdigit : digit % 32 * 2 ^ shift ≤ 31 * 2 ^ shift := Nat.mul_le_mul_right _ (by omega)
    have hbits : (Int64.ofNat (digit % 32 * 2 ^ shift)).toInt = (digit % 32 * 2 ^ shift : Nat) :=
      Int64.toInt_ofNat_of_lt (by omega)
    have hlt' : value.toInt < (2 ^ shift : Nat) := by simpa using hlt
    refine ⟨sum?_eq (by omega) (by omega), fun _ => ?_⟩
    have hnext : (2 : Int) ^ (shift + 5) = 32 * (2 ^ shift : Nat) := by
      rw [pow_add, Nat.cast_pow, Nat.cast_ofNat, mul_comm]
      norm_num
    rw [toInt_add_eq (by omega) (by omega), hnext]
    omega

/-- No sum and no negation leaves the range of words, whatever is read. -/
theorem checkedFrom_eq (segment : List Char) {value : Int64} {shift : Nat} (hfive : 5 ∣ shift)
    (hbelow : Below value shift) (cs : List Char) :
    checkedFrom segment value shift cs = some (fieldsFrom segment value shift cs) := by
  induction cs generalizing value shift with
  | nil => rfl
  | cons c cs ih =>
    rw [checkedFrom, fieldsFrom]
    cases base64Digit? c with
    | none => rfl
    | some digit =>
      dsimp only
      split
      · rfl
      next hroom =>
      obtain ⟨hadd, hnext⟩ := addDigit?_eq hfive (by omega) hbelow digit
      rw [hadd, Option.bind_eq_bind, Option.bind_some]
      split
      · exact ih (Nat.dvd_add hfive (Nat.dvd_refl 5)) hnext
      · rw [signed?_eq, ih (Nat.dvd_zero 5) below_zero]
        rfl

theorem checkedFields_eq (segment : List Char) :
    checkedFields segment = some (fields segment) :=
  checkedFrom_eq segment (Nat.dvd_zero 5) below_zero segment

/-! ### The shortest groups -/

/-- The digit of base 64 that has a value. -/
def base64Char (n : Nat) : Char :=
  if n < 26 then Char.ofNat (n + 65)
  else if n < 52 then Char.ofNat (n + 71)
  else if n < 62 then Char.ofNat (n - 4)
  else if n = 62 then '+'
  else '/'

/-- The shortest digits that write a number. -/
def digitsOf (n : Nat) : List Char :=
  if n < 32 then [base64Char n] else base64Char (32 + n % 32) :: digitsOf (n / 32)
termination_by n
decreasing_by omega

/-- The payload that stands for an integer. -/
def coded (n : Int) : Nat := 2 * n.natAbs + if n < 0 then 1 else 0

/-- The shortest groups that write some integers. -/
def encode (ns : List Int) : List Char := ns.flatMap fun n => digitsOf (coded n)

theorem base64Digit?_base64Char : ∀ n < 64, base64Digit? (base64Char n) = some n := by
  decide

theorem denoted_coded (n : Int) : denoted (coded n) = n := by
  rw [denoted, coded]
  split_ifs <;> omega

theorem digits_digitsOf (n : Nat) : Digits (digitsOf n) := by
  induction n using Nat.strong_induction_on with
  | h n ih =>
    rw [digitsOf]
    split
    · next hlast => exact .last ⟨n, base64Digit?_base64Char n (by omega), hlast⟩
    · next hmore =>
      refine .more ⟨32 + n % 32, base64Digit?_base64Char _ (by omega), by omega⟩ ?_
      exact ih (n / 32) (by omega)

theorem payload_digitsOf (n : Nat) : payload (digitsOf n) = n := by
  induction n using Nat.strong_induction_on with
  | h n ih =>
    rw [digitsOf]
    split
    · next hlast =>
      rw [payload, payload, base64Digit?_base64Char n (by omega), Option.getD_some]
      omega
    · next hmore =>
      rw [payload, ih (n / 32) (by omega), base64Digit?_base64Char _ (by omega), Option.getD_some]
      omega

theorem length_digitsOf_le {k n : Nat} (h : n < 32 ^ (k + 1)) : (digitsOf n).length ≤ k + 1 := by
  induction k generalizing n with
  | zero =>
    rw [digitsOf, if_pos (by omega)]
    exact Nat.le_refl 1
  | succ k ih =>
    rw [digitsOf]
    split
    · exact Nat.succ_le_succ (Nat.zero_le _)
    · have hlt : n / 32 < 32 ^ (k + 1) := by
        rw [Nat.pow_succ] at h
        omega
      exact Nat.succ_le_succ (ih hlt)

theorem isGroup_digitsOf {n : Nat} (h : n < 2 ^ 63) : IsGroup (digitsOf n) :=
  ⟨digits_digitsOf n, length_digitsOf_le (k := 12) (by omega)⟩

/-- Integers of up to 62 bits are read back from the shortest groups that write them. -/
theorem fields_encode {ns : List Int} (h : ∀ n ∈ ns, n.natAbs < 2 ^ 62) :
    ∃ fs, fields (encode ns) = .ok fs ∧ fs.map Int64.toInt = ns := by
  have hlt : ∀ n ∈ ns, coded n < 2 ^ 63 := by
    intro n hn
    have habs := h n hn
    rw [coded]
    split <;> omega
  have hgroups : ∀ g ∈ ns.map fun n => digitsOf (coded n), IsGroup g :=
    List.forall_mem_map.2 fun n hn => isGroup_digitsOf (hlt n hn)
  refine ⟨_, fields_eq_ok_iff.2 ⟨_, hgroups, List.flatMap_def.symm, rfl⟩, ?_⟩
  rw [List.map_map, List.map_map]
  calc ns.map _ = ns.map id := by
        refine List.map_congr_left fun n hn => ?_
        have hpayload := payload_digitsOf (coded n)
        have hread := toInt_field (isGroup_digitsOf (hlt n hn)) (hpayload.symm ▸ hlt n hn)
        rwa [hpayload, denoted_coded] at hread
    _ = ns := List.map_id ns

/-! ### All of it -/

/-- A segment can be read exactly if it is a row of groups: digits that announce another one and
then one that does not, thirteen at most. It then has one field for each group, which is the integer
that the payload of the group stands for if that has at most 63 bits. So the shortest groups of any
integers of up to 62 bits are read as these integers. No sum and no negation leaves the range of
words, whether the segment can be read or not, and a segment that is not empty has a field. -/
theorem fields_groups (segment : List Char) :
    ((∃ fs, fields segment = .ok fs) ↔
      ∃ groups : List (List Char), (∀ g ∈ groups, IsGroup g) ∧ groups.flatten = segment) ∧
    (∀ groups : List (List Char), (∀ g ∈ groups, IsGroup g) → groups.flatten = segment →
      ∃ fs, fields segment = .ok fs ∧
        List.Forall₂ (fun g f => payload g < 2 ^ 63 → f.toInt = denoted (payload g)) groups fs) ∧
    (∀ ns : List Int, (∀ n ∈ ns, n.natAbs < 2 ^ 62) → segment = encode ns →
      ∃ fs, fields segment = .ok fs ∧ fs.map Int64.toInt = ns) ∧
    checkedFields segment = some (fields segment) ∧
    (segment ≠ [] → ∀ fs, fields segment = .ok fs → fs ≠ []) := by
  refine ⟨⟨?_, ?_⟩, ?_, ?_, checkedFields_eq segment, ?_⟩
  · rintro ⟨fs, h⟩
    obtain ⟨groups, hgroups, hflatten, -⟩ := fields_eq_ok_iff.1 h
    exact ⟨groups, hgroups, hflatten⟩
  · rintro ⟨groups, hgroups, hflatten⟩
    exact ⟨_, fields_eq_ok_iff.2 ⟨groups, hgroups, hflatten, rfl⟩⟩
  · intro groups hgroups hflatten
    refine ⟨_, fields_eq_ok_iff.2 ⟨groups, hgroups, hflatten, rfl⟩, ?_⟩
    rw [List.forall₂_map_right_iff, List.forall₂_same]
    exact fun g hg hfits => toInt_field (hgroups g hg) hfits
  · rintro ns hns rfl
    exact fields_encode hns
  · rintro hne fs h rfl
    obtain ⟨groups, -, rfl, hnil⟩ := fields_eq_ok_iff.1 h
    rw [List.map_eq_nil_iff.1 hnil.symm] at hne
    exact hne rfl

/-- A short group, and one of thirteen digits that all have their bits set but for the last one. -/
def shortAndLong : List (List Char) := [['g', 'B'], List.replicate 12 '/' ++ ['H']]

theorem isGroup_shortAndLong : ∀ g ∈ shortAndLong, IsGroup g := by
  have hslash : Continues '/' := ⟨63, rfl, by decide⟩
  have hdigits : ∀ n, Digits (List.replicate n '/' ++ ['H']) := by
    intro n
    induction n with
    | zero => exact .last ⟨7, rfl, by decide⟩
    | succ n ih => exact .more hslash ih
  refine List.forall_mem_cons.2 ⟨⟨?_, by decide⟩, List.forall_mem_singleton.2 ⟨hdigits 12, by decide⟩⟩
  exact .more ⟨32, rfl, by decide⟩ (.last ⟨1, rfl, by decide⟩)

theorem fields_groups_shortAndLong :
    (∀ g ∈ shortAndLong, IsGroup g) ∧
      ∃ fs, fields "gB////////////H".toList = .ok fs ∧ fs.map Int64.toInt = [16, -(2 ^ 62 - 1)] := by
  refine ⟨isGroup_shortAndLong, ?_⟩
  obtain ⟨fs, hread, hfields⟩ :=
    (fields_groups "gB////////////H".toList).2.1 shortAndLong isGroup_shortAndLong (by decide)
  refine ⟨fs, hread, ?_⟩
  cases hfields with
  | cons hshort hfields =>
    cases hfields with
    | cons hlong hnil =>
      cases hnil
      rw [List.map_cons, List.map_singleton, hshort (by decide), hlong (by decide)]
      decide

end Coverage.SourceMap
