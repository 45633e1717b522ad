import Coverage.Json.Document
import Coverage.Json.Writer

/-!
# Strings and whole numbers read back

What is written for a string between its quotes is read as that string, whatever follows the quote
that closes it (`readString_escaped`). The digits of a whole number of 64 bits are read as that
number, unless the text behind them goes on as a number does (`numberDoc_text`).
-/

namespace Coverage.Json

/-! ### Strings -/

/-- What is written for the characters of a string. -/
def escaped (s : List Char) : List Char := s.flatMap escapeChar

@[simp] theorem escaped_nil : escaped [] = [] := rfl

theorem escaped_cons (c : Char) (s : List Char) : escaped (c :: s) = escapeChar c ++ escaped s :=
  List.flatMap_cons

/-- The ways in which a character is written: by a letter for it, by its number, or as itself. -/
inductive Escape (c : Char) : List Char → Prop where
  | short {e : Char} (hletter : e ≠ 'u') (h : Doc.shortEscape? e = some c) : Escape c ['\\', e]
  | control (h : c.toNat < 32) :
      Escape c ['\\', 'u', '0', '0', hexDigit (c.toNat / 16), hexDigit (c.toNat % 16)]
  | itself (hquote : c ≠ '"') (hback : c ≠ '\\') (hcontrol : ¬ c.toNat < 32) : Escape c [c]

theorem escape_escapeChar (c : Char) : Escape c (escapeChar c) := by
  rw [escapeChar]
  iterate 7
    split
    · next h =>
      subst h
      exact .short (by decide) (by decide)
  split
  · next hcontrol => exact .control hcontrol
  · next hquote hback _ _ _ _ _ hcontrol => exact .itself hquote hback hcontrol

theorem toList_quote (s : String) : (quote s).toList = '"' :: (escaped s.toList ++ ['"']) := by
  rw [quote, String.toList_ofList]
  rfl

namespace Doc

theorem hexValue?_hexDigit : ∀ n < 16, hexValue? (hexDigit n) = some n := by decide

theorem utf8Size_hexDigit : ∀ n < 16, (hexDigit n).utf8Size = 1 := by decide

/-- The escape of a control character by its number. -/
theorem hexEscape_control {n : Nat} (hn : n < 32) (rest : List Char) :
    hexEscape none ('0' :: '0' :: hexDigit (n / 16) :: hexDigit (n % 16) :: rest) =
      .ok (n, rest) := by
  have hhigh : n / 16 < 16 := by omega
  have hlow : n % 16 < 16 := by omega
  have hzero : hexValue? '0' = some 0 := by decide
  have hsize : '0'.utf8Size = 1 := by decide
  have hbytes : bytesIn none ['0', '0', hexDigit (n / 16), hexDigit (n % 16)] = 4 := by
    simp [bytesIn, hsize, utf8Size_hexDigit _ hhigh, utf8Size_hexDigit _ hlow]
  have hvalue : ((0 * 16 + 0) * 16 + n / 16) * 16 + n % 16 = n := by omega
  rw [hexEscape]
  simp only [List.take_succ_cons, List.take_zero, hbytes, Nat.lt_irrefl, if_false, hzero,
    hexValue?_hexDigit _ hhigh, hexValue?_hexDigit _ hlow, hvalue]

theorem unicodeEscape_control {n : Nat} (hn : n < 32) (rest : List Char) :
    unicodeEscape none ('0' :: '0' :: hexDigit (n / 16) :: hexDigit (n % 16) :: rest) =
      .ok (Char.ofNat n, rest) := by
  have hlow : ¬ (0xDC00 ≤ n ∧ n ≤ 0xDFFF) := by omega
  have hplain : n < 0xD800 ∨ 0xDBFF < n := by omega
  rw [unicodeEscape, hexEscape_control hn]
  simp only [bind, Except.bind, if_neg hlow, if_pos hplain, pure, Except.pure]

/-- One step of the reader takes what is written for one character. -/
theorem stringText_escapeChar (c : Char) (fuel : Nat) (cs : List Char) :
    stringText none (fuel + 1) (escapeChar c ++ cs) =
      (stringText none fuel cs).map (c :: ·) := by
  have hc := escape_escapeChar c
  generalize escapeChar c = written at hc ⊢
  cases hc with
  | short hletter h =>
    simp only [List.cons_append, List.nil_append, stringText, if_neg hletter, h, Char.reduceEq,
      if_false, if_true]
    rfl
  | control h =>
    simp only [List.cons_append, List.nil_append, stringText, unicodeEscape_control h,
      Char.reduceEq, if_false, if_true, Char.ofNat_toNat]
    rfl
  | itself hquote hback hcontrol =>
    simp only [List.singleton_append, stringText, if_neg hquote, if_neg hback, if_neg hcontrol]
    rfl

theorem stringText_escaped {s : List Char} {fuel : Nat} (h : s.length < fuel) (rest : List Char) :
    stringText none fuel (escaped s ++ '"' :: rest) = .ok s := by
  induction s generalizing fuel with
  | nil =>
    obtain ⟨fuel, rfl⟩ : ∃ k, fuel = k + 1 := ⟨fuel - 1, by simp at h; omega⟩
    simp [stringText]
  | cons c s ih =>
    obtain ⟨fuel, rfl⟩ : ∃ k, fuel = k + 1 := ⟨fuel - 1, by simp at h; omega⟩
    rw [escaped_cons, List.append_assoc, stringText_escapeChar, ih (by simpa using h)]
    rfl

/-- One step of the scanner takes what is written for one character. -/
theorem stringExtent_escapeChar (c : Char) (fuel : Nat) (cs : List Char) :
    stringExtent none (fuel + 1) (escapeChar c ++ cs) =
      (escapeChar c ++ (stringExtent none fuel cs).1, (stringExtent none fuel cs).2) := by
  have hc := escape_escapeChar c
  generalize escapeChar c = written at hc ⊢
  cases hc with
  | short hletter h =>
    simp only [List.cons_append, List.nil_append, stringExtent, if_neg hletter, h, Char.reduceEq,
      if_false, if_true]
  | control h =>
    simp only [List.cons_append, List.nil_append, stringExtent, hexEscape_control h,
      Char.reduceEq, if_false, if_true, List.take_succ_cons, List.take_zero]
  | itself hquote hback hcontrol =>
    simp only [List.singleton_append, stringExtent, if_neg hquote, if_neg hback, if_neg hcontrol]

theorem stringExtent_escaped {s : List Char} {fuel : Nat} (h : s.length < fuel)
    (rest : List Char) :
    stringExtent none fuel (escaped s ++ '"' :: rest) = (escaped s ++ ['"'], .ok rest) := by
  induction s generalizing fuel with
  | nil =>
    obtain ⟨fuel, rfl⟩ : ∃ k, fuel = k + 1 := ⟨fuel - 1, by simp at h; omega⟩
    simp [stringExtent]
  | cons c s ih =>
    obtain ⟨fuel, rfl⟩ : ∃ k, fuel = k + 1 := ⟨fuel - 1, by simp at h; omega⟩
    rw [escaped_cons, List.append_assoc, stringExtent_escapeChar, ih (by simpa using h),
      List.append_assoc]

theorem length_le_escaped (s : List Char) : s.length ≤ (escaped s).length := by
  induction s with
  | nil => exact Nat.le_refl _
  | cons c s ih =>
    have hpos : 0 < (escapeChar c).length := by
      have hc := escape_escapeChar c
      generalize escapeChar c = written at hc ⊢
      cases hc <;> exact Nat.succ_pos _
    rw [escaped_cons, List.length_append, List.length_cons]
    omega

/-- The key that a text has for a name, as it is written up to the quote that closes it. -/
def keyOf (s : List Char) : Key := ⟨escaped s ++ ['"'], .ok (String.ofList s)⟩

/-- What is written for a string is read as that string. -/
theorem readString_escaped (s rest : List Char) :
    readString none (escaped s ++ '"' :: rest) = (keyOf s, .ok rest) := by
  have hfuel : s.length < (escaped s ++ '"' :: rest).length + 1 := by
    have hle := length_le_escaped s
    rw [List.length_append]
    omega
  rw [readString, stringExtent_escaped hfuel, stringText_escaped hfuel]
  rfl

end Doc

/-! ### Whole numbers -/

/-- A text that does not go on with what could belong to a number. -/
def EndsNumber (cs : List Char) : Prop :=
  ∀ c, cs.head? = some c → c.isDigit = false ∧ c ≠ '.' ∧ c ≠ 'e' ∧ c ≠ 'E'

namespace NumberText

theorem isDigit_toDigits (n : Nat) : ∀ c ∈ Nat.toDigits 10 n, c.isDigit = true :=
  fun _ h => Nat.isDigit_of_mem_toDigits (by decide) (by decide) h

theorem takeWhile_digits {ds cs : List Char} (hds : ∀ c ∈ ds, c.isDigit = true)
    (hcs : EndsNumber cs) : (ds ++ cs).takeWhile Char.isDigit = ds := by
  rw [List.takeWhile_append_of_pos hds]
  cases cs with
  | nil => simp
  | cons c cs => simp [(hcs c rfl).1]

theorem dropWhile_digits {ds cs : List Char} (hds : ∀ c ∈ ds, c.isDigit = true)
    (hcs : EndsNumber cs) : (ds ++ cs).dropWhile Char.isDigit = cs := by
  rw [List.dropWhile_append_of_pos hds]
  cases cs with
  | nil => rfl
  | cons c cs => simp [(hcs c rfl).1]

/-- Only zero is written with a leading zero. -/
theorem head_toDigits {n : Nat} (hn : n ≠ 0) :
    ∃ c ds, Nat.toDigits 10 n = c :: ds ∧ c ≠ '0' := by
  induction n using Nat.strongRecOn with
  | ind n ih =>
    rcases Nat.lt_or_ge n 10 with hlt | hge
    · refine ⟨Nat.digitChar n, [], Nat.toDigits_of_lt_base hlt, ?_⟩
      exact (by decide : ∀ m < 10, m ≠ 0 → Nat.digitChar m ≠ '0') n hlt hn
    · obtain ⟨c, ds, heq, hc⟩ := ih (n / 10) (by omega) (by omega)
      refine ⟨c, ds ++ [Nat.digitChar (n % 10)], ?_, hc⟩
      rw [Nat.toDigits_of_base_le (by decide) hge, heq]
      rfl

theorem scanWhole_toDigits (n : Nat) {cs : List Char} (hcs : EndsNumber cs) :
    scanWhole (Nat.toDigits 10 n ++ cs) = .ok (Nat.toDigits 10 n, cs) := by
  by_cases hn : n = 0
  · subst hn
    have hzero : Nat.toDigits 10 0 = ['0'] := by decide
    rw [hzero]
    cases cs with
    | nil => rfl
    | cons c cs => simp [scanWhole, (hcs c rfl).1]
  · obtain ⟨c, ds, heq, hc⟩ := head_toDigits hn
    have hdigits := isDigit_toDigits n
    have hstart : c.isDigit = true := hdigits c (heq ▸ List.mem_cons_self)
    have htake := takeWhile_digits hdigits hcs
    have hdrop := dropWhile_digits hdigits hcs
    rw [heq] at htake hdrop ⊢
    rw [List.cons_append] at htake hdrop ⊢
    rw [scanWhole.eq_def]
    split
    · next h => cases h
    · next h => exact absurd (List.cons.inj h).1 hc
    · next h =>
      obtain ⟨rfl, rfl⟩ := List.cons.inj h
      rw [if_pos hstart, htake, hdrop]

theorem scanFraction?_of_ends {cs : List Char} (hcs : EndsNumber cs) :
    scanFraction? cs = .ok (none, cs) := by
  rw [scanFraction?.eq_def]
  split
  · exact absurd rfl (hcs '.' rfl).2.1
  · rfl

theorem scanExponent?_of_ends {cs : List Char} (hcs : EndsNumber cs) :
    scanExponent? cs = .ok (none, cs) := by
  rw [scanExponent?.eq_def]
  split
  · exact absurd rfl (hcs 'e' rfl).2.2.1
  · exact absurd rfl (hcs 'E' rfl).2.2.2
  · rfl

/-- The text of a whole number, with or without a minus. -/
def ofWhole (negative : Bool) (n : Nat) : NumberText :=
  ⟨negative, Nat.toDigits 10 n, none, none⟩

theorem scan_natural (n : Nat) {cs : List Char} (hcs : EndsNumber cs) :
    scan (Nat.toDigits 10 n ++ cs) = .ok (ofWhole false n, cs) := by
  have hsign : ∀ rest, Nat.toDigits 10 n ++ cs ≠ '-' :: rest := by
    intro rest h
    cases hdigits : Nat.toDigits 10 n with
    | nil => exact Nat.toDigits_ne_nil hdigits
    | cons c ds =>
      rw [hdigits] at h
      obtain ⟨rfl, -⟩ := List.cons.inj h
      have hdigit := isDigit_toDigits n '-' (hdigits ▸ List.mem_cons_self)
      revert hdigit
      decide
  rw [scan]
  · simp only [scanWhole_toDigits n hcs, scanFraction?_of_ends hcs, scanExponent?_of_ends hcs,
      bind, Except.bind, pure, Except.pure, ofWhole]
  · exact hsign

theorem scan_negative (n : Nat) {cs : List Char} (hcs : EndsNumber cs) :
    scan ('-' :: (Nat.toDigits 10 n ++ cs)) = .ok (ofWhole true n, cs) := by
  simp only [scan, scanWhole_toDigits n hcs, scanFraction?_of_ends hcs,
    scanExponent?_of_ends hcs, bind, Except.bind, pure, Except.pure, ofWhole]

theorem accumulate_eq {n : Nat} {ds : List Char} (h : Nat.ofDigitChars 10 ds n < UInt64.size) :
    accumulate n ds = (Nat.ofDigitChars 10 ds n, []) := by
  induction ds generalizing n with
  | nil => rw [accumulate, Nat.ofDigitChars_nil]
  | cons c ds ih =>
    rw [Nat.ofDigitChars_cons] at h ⊢
    have hle : ∀ (ds : List Char) (m : Nat), m ≤ Nat.ofDigitChars 10 ds m := by
      intro ds
      induction ds with
      | nil => exact fun m => Nat.ofDigitChars_nil ▸ Nat.le_refl m
      | cons d ds ih =>
        intro m
        rw [Nat.ofDigitChars_cons]
        exact Nat.le_trans (by omega) (ih _)
    have hfits : 10 * n + digit c < UInt64.size := Nat.lt_of_le_of_lt (hle ds _) h
    rw [accumulate, if_pos hfits]
    exact ih h

theorem accumulate_toDigits {n : Nat} (h : n < UInt64.size) :
    accumulate 0 (Nat.toDigits 10 n) = (n, []) := by
  have hvalue : Nat.ofDigitChars 10 (Nat.toDigits 10 n) 0 = n := Nat.ofDigitChars_ten_toDigits
  rw [accumulate_eq (by rwa [hvalue]), hvalue]

theorem value_natural (n : UInt64) : (ofWhole false n.toNat).value = .ok (.natural n) := by
  simp [value, ofWhole, accumulate_toDigits n.toNat_lt]

theorem value_negative {n : Int64} (h : n.toInt < 0) :
    (ofWhole true n.toInt.natAbs).value = .ok (.negative n) := by
  have hmin : -2 ^ 63 ≤ n.toInt := n.le_toInt
  have hsize : n.toInt.natAbs < UInt64.size := by
    rw [UInt64.size]
    omega
  have hback : -(n.toInt.natAbs : Int) = n.toInt := by omega
  have hrange : (n.toInt.natAbs = 0 || Int64.minValue.toInt.natAbs < n.toInt.natAbs) = false := by
    have hle : Int64.minValue.toInt.natAbs = 2 ^ 63 := by decide
    rw [hle, Bool.or_eq_false_iff]
    exact ⟨decide_eq_false (by omega), decide_eq_false (by omega)⟩
  simp only [value, ofWhole, accumulate_toDigits hsize, hrange, hback, Option.isSome_none,
    List.isEmpty_nil, Bool.not_true, Bool.or_false, Bool.false_eq_true, if_false,
    Int64.ofInt_toInt]

end NumberText

/-- A number that documents keep as it is. -/
def Number.IsInteger : Number → Prop
  | .natural _ => True
  | .negative n => n.toInt < 0
  | .real _ => False

theorem toList_toString_of_neg {n : Int} (h : n < 0) :
    (toString n).toList = '-' :: Nat.toDigits 10 n.natAbs := by
  cases n with
  | ofNat m => exact absurd h (Int.not_lt.2 (Int.natCast_nonneg m))
  | negSucc m =>
    have htext : toString (Int.negSucc m) = "-" ++ toString (m + 1) := rfl
    rw [htext, String.toList_append, Nat.toString_eq_repr, Nat.toList_repr]
    rfl

/-- What is written for a whole number is read as that number. -/
theorem numberDoc_text {k : Number} (hk : k.IsInteger) {cs : List Char} (hcs : EndsNumber cs) :
    Doc.numberDoc (k.text.toList ++ cs) = (.number (.ok k), some cs) := by
  cases k with
  | natural n =>
    rw [Number.text, Nat.toString_eq_repr, Nat.toList_repr, Doc.numberDoc,
      NumberText.scan_natural _ hcs]
    simp only [NumberText.value_natural]
  | negative n =>
    rw [Number.text, toList_toString_of_neg hk, List.cons_append, Doc.numberDoc,
      NumberText.scan_negative _ hcs]
    simp only [NumberText.value_negative hk]
  | real x => exact hk.elim

/-- The text of a whole number starts with a minus or with a digit. -/
theorem head_numberText {k : Number} (hk : k.IsInteger) :
    ∃ c cs, k.text.toList = c :: cs ∧ (c = '-' ∨ c.isDigit = true) := by
  cases k with
  | natural n =>
    rw [Number.text, Nat.toString_eq_repr, Nat.toList_repr]
    cases hdigits : Nat.toDigits 10 n.toNat with
    | nil => exact absurd hdigits Nat.toDigits_ne_nil
    | cons c cs =>
      exact ⟨c, cs, rfl, .inr (NumberText.isDigit_toDigits _ c (hdigits ▸ List.mem_cons_self))⟩
  | negative n => exact ⟨'-', _, toList_toString_of_neg hk, .inl rfl⟩
  | real x => exact hk.elim

end Coverage.Json
