import Coverage.Proofs.Json.Fields
import Mathlib.Data.List.Forall2

/-!
# What decoders read

`Reads item n v a` says that the decoder `item` makes `a` of the value `v`, whether it meets `v` in
a text or as a value, where `n` more levels may be opened. Every way to put decoders together has a
rule, so that what a record is read from follows from what its fields are read from.
-/

namespace Coverage.Json.Decoder

open Doc (spelled spelledItems spelledFields keyFrom text_keyFrom)

variable {α : Type}

/-- From a document of the value, a decoder reads `a`, where `n` more levels may be opened. -/
def Reads (item : Decoder α) (n : Nat) (v : Value) (a : α) : Prop :=
  ∀ c : Context, c.Room n → item c (spelled c.origin v) = .ok a

theorem Reads.mono {item : Decoder α} {n m : Nat} {v : Value} {a : α} (h : Reads item n v a)
    (hle : n ≤ m) : Reads item m v a :=
  fun c hc => h c (hc.imp_right (Nat.le_trans hle))

theorem Reads.ofValue {item : Decoder α} {n : Nat} {v : Value} {a : α} (h : Reads item n v a) :
    item.ofValue v = .ok a := by
  rw [Decoder.ofValue, Doc.ofValue_eq]
  exact h .ofValue (Context.room_ofValue n)

/-! ### Single values -/

theorem toNat_ofNat_word32 (n : UInt32) : (UInt64.ofNat n.toNat).toNat = n.toNat :=
  UInt64.toNat_ofNat_of_lt (Nat.lt_trans n.toNat_lt (by decide))

theorem below_word32 (n : UInt32) :
    below UInt32.size "u32" (.natural (UInt64.ofNat n.toNat)) = .ok n.toNat := by
  rw [below, toNat_ofNat_word32, if_pos n.toNat_lt]

theorem reads_word32 (n : UInt32) : Reads word32 0 (.ofNat n.toNat) n := by
  intro c _
  simp only [Value.ofNat, spelled, word32, below_word32, bind, Except.bind, pure, Except.pure,
    UInt32.ofNat_toNat]

theorem reads_word64 (n : UInt64) : Reads word64 0 (.number (.natural n)) n := by
  intro c _
  simp only [spelled, word64, below, n.toNat_lt, if_true, bind, Except.bind, pure, Except.pure,
    UInt64.ofNat_toNat]

theorem reads_option {item : Decoder α} {n : Nat} {v : Value} {a : α} (h : Reads item n v a)
    (hv : v ≠ .null) : Reads (option item) n v (some a) := by
  intro c hc
  have hread := h c hc
  cases v with
  | null => exact absurd rfl hv
  | _ =>
    simp only [spelled] at hread ⊢
    simp only [option, hread]
    rfl

theorem reads_enumeration {known : List (String × α)} {name : String} {a : α}
    (h : known.lookup name = some a) : Reads (enumeration known) 0 (.string name) a := by
  intro c _
  simp only [spelled, enumeration, variant, h, bind, Except.bind]

theorem reads_value {n : Nat} {v : Value} (hv : v.Fits n) : Reads value n v v :=
  fun _ hc => hv.value_spelled hc

/-! ### Lists and tables -/

theorem reads_list {item : Decoder α} {n : Nat} {vs : List Value} {as : List α}
    (h : List.Forall₂ (Reads item n) vs as) : Reads (list item) (n + 1) (.array vs) as := by
  intro c hc
  obtain ⟨c', hc', horigin, hroom⟩ := Context.enter_of_room hc (Nat.succ_pos n)
  have hitems : items item c' none (spelledItems c'.origin vs) = .ok as := by
    clear hc'
    induction h with
    | nil => rfl
    | cons hread _ ih =>
      simp only [spelledItems, items, hread c' hroom, ih, bind, Except.bind, pure, Except.pure]
  rw [horigin] at hitems
  simp only [spelled, list, hc', hitems, bind, Except.bind]

/-- Digits are written as they are. -/
theorem escaped_toDigits (n : Nat) : escaped (Nat.toDigits 10 n) = Nat.toDigits 10 n := by
  have hdigits := NumberText.isDigit_toDigits n
  generalize Nat.toDigits 10 n = ds at hdigits
  induction ds with
  | nil => rfl
  | cons c ds ih =>
    have hc : escapeChar c = [c] := by
      have hdigit : 48 ≤ c.toNat := by
        have h := hdigits c List.mem_cons_self
        simp only [Char.isDigit, Bool.and_eq_true, decide_eq_true_eq] at h
        exact h.1
      have hne : ∀ d : Char, d.toNat < 48 ∨ d = '\\' → c.isDigit = true → c ≠ d := by
        rintro d (hd | rfl) hc rfl
        · omega
        · revert hc
          decide
      have hcdigit := hdigits c List.mem_cons_self
      have hcontrol : ¬ c.toNat < 32 := by omega
      rw [escapeChar, if_neg (hne _ (.inl (by decide)) hcdigit),
        if_neg (hne _ (.inr rfl) hcdigit), if_neg (hne _ (.inl (by decide)) hcdigit),
        if_neg (hne _ (.inl (by decide)) hcdigit), if_neg (hne _ (.inl (by decide)) hcdigit),
        if_neg (hne _ (.inl (by decide)) hcdigit), if_neg (hne _ (.inl (by decide)) hcdigit),
        if_neg hcontrol]
    rw [escaped_cons, hc, ih fun d hd => hdigits d (List.mem_cons_of_mem _ hd)]
    rfl

/-- What stands behind the number in a key. -/
def keyEnd : Origin → List Char
  | .text => ['"']
  | .value => []

theorem endsNumber_keyEnd (origin : Origin) : EndsNumber (keyEnd origin) := by
  intro c hc
  cases origin with
  | text =>
    cases hc
    decide
  | value => cases hc

/-- What the key of a number holds: its digits, and in a text the quote behind them. -/
theorem written_keyFrom (origin : Origin) (n : Nat) :
    (keyFrom origin (toString n)).written = Nat.toDigits 10 n ++ keyEnd origin := by
  have htext : (toString n).toList = Nat.toDigits 10 n := by
    rw [Nat.toString_eq_repr, Nat.toList_repr]
  cases origin with
  | text => rw [keyFrom, Doc.keyOf, htext, escaped_toDigits, keyEnd]
  | value => rw [keyFrom, htext, keyEnd, List.append_nil]

theorem numericKey_keyFrom (origin : Origin) (n : UInt32) :
    numericKey origin (keyFrom origin (toString n.toNat)) = .ok n := by
  have hscan := NumberText.scan_natural n.toNat (endsNumber_keyEnd origin)
  have hvalue : (NumberText.ofWhole false n.toNat).value =
      .ok (.natural (UInt64.ofNat n.toNat)) := by
    have h := NumberText.value_natural (UInt64.ofNat n.toNat)
    rwa [toNat_ofNat_word32] at h
  cases hdigits : Nat.toDigits 10 n.toNat with
  | nil => exact absurd hdigits Nat.toDigits_ne_nil
  | cons c ds =>
    have hc : c.isDigit = true :=
      NumberText.isDigit_toDigits n.toNat c (hdigits ▸ List.mem_cons_self)
    have hstart : ¬ (c ≠ '-' ∧ (!c.isDigit) = true) := by simp [hc]
    rw [hdigits, List.cons_append] at hscan
    rw [numericKey, written_keyFrom, hdigits, List.cons_append]
    simp only [if_neg hstart, hscan, hvalue, below_word32, bind, Except.bind, pure, Except.pure]
    cases origin <;> simp [keyEnd]

/-- Fields are read one by one, in the order in which they stand. -/
theorem fields_spelled {κ : Type} {key : Key → Except Error κ} {item : Decoder α} {n : Nat}
    {c : Context} (hc : c.Room n) {es : List (String × Value)} {entries : List (κ × α)}
    (h : List.Forall₂ (fun e a => key (keyFrom c.origin e.1) = .ok a.1 ∧ Reads item n e.2 a.2) es
      entries) : fields key item c none (spelledFields c.origin es) = .ok entries := by
  induction h with
  | nil => rfl
  | cons hentry _ ih =>
    obtain ⟨hkey, hread⟩ := hentry
    simp only [spelledFields, fields, hkey, hread c hc, ih, bind, Except.bind, pure, Except.pure]

/-- The fields of a table, in any order, are read as its entries in that order. -/
theorem reads_numbered {item : Decoder α} {n : Nat} {es : List (String × Value)}
    {entries : List (UInt32 × α)}
    (h : List.Forall₂ (fun e a => e.1 = toString a.1.toNat ∧ Reads item n e.2 a.2) es entries) :
    Reads (numbered item) (n + 1) (.object es) entries := by
  intro c hc
  obtain ⟨c', hc', horigin, hroom⟩ := Context.enter_of_room hc (Nat.succ_pos n)
  have hfields := fields_spelled hroom (h.imp fun _ a he =>
    ⟨he.1 ▸ numericKey_keyFrom c'.origin a.1, he.2⟩)
  rw [horigin] at hfields
  simp only [spelled, numbered, hc', hfields, bind, Except.bind]

/-- An object is read as the list of its fields. -/
theorem reads_assoc {item : Decoder α} {n : Nat} {es : List (String × Value)}
    {entries : List (String × α)}
    (h : List.Forall₂ (fun e a => e.1 = a.1 ∧ Reads item n e.2 a.2) es entries) :
    Reads (assoc item) (n + 1) (.object es) entries := by
  intro c hc
  obtain ⟨c', hc', horigin, hroom⟩ := Context.enter_of_room hc (Nat.succ_pos n)
  have hkeys : List.Forall₂ (fun e (a : String × α) =>
      (fun k => k.text) (keyFrom c'.origin e.1) = .ok a.1 ∧ Reads item n e.2 a.2) es entries :=
    h.imp fun e _ he => ⟨he.1 ▸ text_keyFrom c'.origin e.1, he.2⟩
  have hfields := fields_spelled hroom hkeys
  rw [horigin] at hfields
  simp only [spelled, assoc, hc', hfields, bind, Except.bind]

/-! ### Fields that a record does not know -/

mutual

/-- What was read from a value is skipped without a fault. -/
theorem skipFault?_spelled (origin : Origin) : ∀ v : Value, (spelled origin v).skipFault? = none
  | .null | .bool _ | .number _ | .string _ => rfl
  | .array vs => by rw [spelled, Doc.skipFault?, skipItems?_spelled origin vs]; rfl
  | .object es => by rw [spelled, Doc.skipFault?, skipFields?_spelled origin es]; rfl

theorem skipItems?_spelled (origin : Origin) :
    ∀ vs : List Value, Doc.skipItems? (spelledItems origin vs) = none
  | [] => rfl
  | v :: vs => by
    rw [spelledItems, Doc.skipItems?, skipFault?_spelled origin v, skipItems?_spelled origin vs]
    rfl

theorem skipFields?_spelled (origin : Origin) :
    ∀ es : List (String × Value), Doc.skipFields? (spelledFields origin es) = none
  | [] => rfl
  | (_, v) :: es => by
    rw [spelledFields, Doc.skipFields?, skipFault?_spelled origin v, skipFields?_spelled origin es]
    rfl

end

variable {σ : Type}

theorem Record.ofFields_known (r : Record σ) (c : Context) (origin : Origin)
    (es : List (String × Value)) (s : σ) :
    r.ofFields c none (spelledFields origin es) s =
      r.ofFields c none (spelledFields origin (es.filter fun e => (r.read e.1).isSome)) s := by
  induction es generalizing s with
  | nil => rfl
  | cons e es ih =>
    rw [spelledFields, Record.ofFields, text_keyFrom]
    cases hread : r.read e.1 with
    | none =>
      rw [List.filter_cons_of_neg (by simp [hread])]
      simp only [hread, skipFault?_spelled, bind, Except.bind, ih]
    | some field =>
      rw [List.filter_cons_of_pos (by simp [hread]), spelledFields, Record.ofFields, text_keyFrom]
      simp only [hread, bind, Except.bind, ih]

/-- A record is read from an object as from the fields of it that the record knows. -/
theorem Record.decode_known (r : Record σ) (s : σ) (c : Context) (origin : Origin)
    (es : List (String × Value)) :
    r.decode s c (spelled origin (.object es)) =
      r.decode s c (spelled origin (.object (es.filter fun e => (r.read e.1).isSome))) := by
  simp only [spelled, Record.decode, ← r.ofFields_known]

end Coverage.Json.Decoder
