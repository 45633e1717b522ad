import Coverage.Json.Decode
import Coverage.Proofs.Json.Lexeme
import Mathlib.Data.String.Basic

/-!
# Values read back from their texts

The two forms in which values are written differ in the blanks only, so both are spellings of one
kind (`Value.spell`). Any spelling is read as the document that it was made from, whatever follows
it (`read_spell`), and the value that this document stands for is the one that was written, the
fields of its objects put in order, if it does not nest too deeply (`value_spelled`).
-/

namespace Coverage.Json

/-! ### Spellings -/

/-- The blanks of a way to write values. -/
structure Layout where
  /-- What stands in front of what is at a level. -/
  gap : Nat → List Char
  /-- What stands between a colon and a value. -/
  lead : List Char

/-- There are blanks only. -/
structure Layout.IsBlank (l : Layout) : Prop where
  gap : ∀ n, ∀ c ∈ l.gap n, Doc.isBlank c = true
  lead : ∀ c ∈ l.lead, Doc.isBlank c = true

namespace Layout

/-- No blanks at all. -/
def compact : Layout := ⟨fun _ => [], []⟩

@[simp] theorem gap_compact (n : Nat) : compact.gap n = [] := rfl

@[simp] theorem lead_compact : compact.lead = [] := rfl

theorem isBlank_compact : compact.IsBlank := ⟨fun _ _ h => (nomatch h), fun _ h => (nomatch h)⟩

/-- A line for each item and each field. -/
def pretty : Layout := ⟨fun n => (Value.newline n).toList, [' ']⟩

@[simp] theorem gap_pretty (n : Nat) : pretty.gap n = (Value.newline n).toList := rfl

@[simp] theorem lead_pretty : pretty.lead = [' '] := rfl

theorem isBlank_pretty : pretty.IsBlank := by
  refine ⟨fun n c h => ?_, fun c h => ?_⟩
  · rw [gap_pretty, Value.newline, String.toList_ofList] at h
    rcases List.mem_cons.1 h with rfl | h
    · decide
    · rw [(List.mem_replicate.1 h).2]
      decide
  · rw [List.mem_singleton.1 h]
    decide

end Layout

namespace Value

mutual

/-- The text of a value at a level. -/
def spell (l : Layout) (n : Nat) : Value → List Char
  | .null => "null".toList
  | .bool true => "true".toList
  | .bool false => "false".toList
  | .number k => k.text.toList
  | .string s => '"' :: (escaped s.toList ++ ['"'])
  | .array [] => ['[', ']']
  | .array (v :: vs) => '[' :: (l.gap (n + 1) ++ (spell l (n + 1) v ++ spellItems l n vs))
  | .object [] => ['\x7b', '\x7d']
  | .object ((k, v) :: es) =>
    '\x7b' :: (l.gap (n + 1) ++ '"' :: (escaped k.toList ++ '"' :: ':' ::
      (l.lead ++ (spell l (n + 1) v ++ spellFields l n es))))

/-- The text of the items behind an item, up to the end of the array. -/
def spellItems (l : Layout) (n : Nat) : List Value → List Char
  | [] => l.gap n ++ [']']
  | v :: vs => ',' :: (l.gap (n + 1) ++ (spell l (n + 1) v ++ spellItems l n vs))

/-- The text of the fields behind a field, up to the end of the object. -/
def spellFields (l : Layout) (n : Nat) : List (String × Value) → List Char
  | [] => l.gap n ++ ['\x7d']
  | (k, v) :: es =>
    ',' :: (l.gap (n + 1) ++ '"' :: (escaped k.toList ++ '"' :: ':' ::
      (l.lead ++ (spell l (n + 1) v ++ spellFields l n es))))

end

mutual

theorem spell_compact (n : Nat) : ∀ v : Value, spell .compact n v = v.compact.toList
  | .null | .bool true | .bool false | .number _ => by rw [spell, compact]
  | .string s => by rw [spell, compact, toList_quote]
  | .array [] => by simp [spell, compact, compactItems]
  | .array (v :: vs) => by simp [spell, compact, spellItems_compact n v vs]
  | .object [] => by simp [spell, compact, compactFields]
  | .object ((k, v) :: es) => by simp [spell, compact, spellFields_compact n k v es]
termination_by v => sizeOf v
decreasing_by all_goals grind

theorem spellItems_compact (n : Nat) (v : Value) : ∀ vs : List Value,
    spell .compact (n + 1) v ++ spellItems .compact n vs = (compactItems (v :: vs)).toList ++ [']']
  | [] => by simp [spellItems, compactItems, spell_compact (n + 1) v]
  | w :: vs => by
    simp [spellItems, compactItems, spell_compact (n + 1) v, spellItems_compact n w vs]
termination_by vs => sizeOf v + sizeOf vs + 1
decreasing_by all_goals grind

theorem spellFields_compact (n : Nat) (k : String) (v : Value) : ∀ es : List (String × Value),
    '"' :: (escaped k.toList ++ '"' :: ':' ::
      (spell .compact (n + 1) v ++ spellFields .compact n es)) =
      (compactFields ((k, v) :: es)).toList ++ ['\x7d']
  | [] => by simp [spellFields, compactFields, spell_compact (n + 1) v, toList_quote]
  | (k', w) :: es => by
    simp [spellFields, compactFields, spell_compact (n + 1) v, spellFields_compact n k' w es,
      toList_quote]
termination_by es => sizeOf v + sizeOf es + 1
decreasing_by all_goals grind

end

mutual

theorem spell_pretty (n : Nat) : ∀ v : Value, spell .pretty n v = (v.prettyAt n).toList
  | .null | .bool true | .bool false | .number _ => by rw [spell, prettyAt]
  | .string s => by rw [spell, prettyAt, toList_quote]
  | .array [] => by simp [spell, prettyAt]
  | .array (v :: vs) => by simp [spell, prettyAt, spellItems_pretty n v vs]
  | .object [] => by simp [spell, prettyAt]
  | .object ((k, v) :: es) => by simp [spell, prettyAt, spellFields_pretty n k v es]
termination_by v => sizeOf v
decreasing_by all_goals grind

theorem spellItems_pretty (n : Nat) (v : Value) : ∀ vs : List Value,
    (newline (n + 1)).toList ++ (spell .pretty (n + 1) v ++ spellItems .pretty n vs) =
      (prettyItems (n + 1) (v :: vs)).toList ++ ((newline n).toList ++ [']'])
  | [] => by simp [spellItems, prettyItems, spell_pretty (n + 1) v]
  | w :: vs => by
    simp [spellItems, prettyItems, spell_pretty (n + 1) v, spellItems_pretty n w vs]
termination_by vs => sizeOf v + sizeOf vs + 1
decreasing_by all_goals grind

theorem spellFields_pretty (n : Nat) (k : String) (v : Value) : ∀ es : List (String × Value),
    (newline (n + 1)).toList ++ '"' :: (escaped k.toList ++ '"' :: ':' :: ' ' ::
      (spell .pretty (n + 1) v ++ spellFields .pretty n es)) =
      (prettyFields (n + 1) ((k, v) :: es)).toList ++ ((newline n).toList ++ ['\x7d'])
  | [] => by simp [spellFields, prettyFields, spell_pretty (n + 1) v, toList_quote]
  | (k', w) :: es => by
    simp [spellFields, prettyFields, spell_pretty (n + 1) v, spellFields_pretty n k' w es,
      toList_quote]
termination_by es => sizeOf v + sizeOf es + 1
decreasing_by all_goals grind

end

/-! ### What is read from a spelling -/

mutual

/-- The numbers in a value. -/
def numbers : Value → List Number
  | .number k => [k]
  | .array vs => numbersItems vs
  | .object es => numbersFields es
  | _ => []

/-- The numbers in the items of an array. -/
def numbersItems : List Value → List Number
  | [] => []
  | v :: vs => numbers v ++ numbersItems vs

/-- The numbers in the fields of an object. -/
def numbersFields : List (String × Value) → List Number
  | [] => []
  | (_, v) :: es => numbers v ++ numbersFields es

end

mutual

/-- How many levels of arrays and objects a value has. -/
def depth : Value → Nat
  | .array vs => depthItems vs + 1
  | .object es => depthFields es + 1
  | _ => 0

/-- The levels of the items of an array. -/
def depthItems : List Value → Nat
  | [] => 0
  | v :: vs => max (depth v) (depthItems vs)

/-- The levels of the values of an object. -/
def depthFields : List (String × Value) → Nat
  | [] => 0
  | (_, v) :: es => max (depth v) (depthFields es)

end

/-- A value whose numbers are whole. -/
def Whole (v : Value) : Prop := ∀ k ∈ v.numbers, k.IsInteger

mutual

/-- A value whose numbers are whole, with the fields of its objects in the order of their names, in
at most `n` levels. -/
def Fits (n : Nat) : Value → Prop
  | .number k => k.IsInteger
  | .array vs => 0 < n ∧ FitsItems (n - 1) vs
  | .object es => 0 < n ∧ es.Pairwise (fun a b => a.1 < b.1) ∧ FitsFields (n - 1) es
  | _ => True

/-- `Fits` for the items of an array. -/
def FitsItems (n : Nat) : List Value → Prop
  | [] => True
  | v :: vs => Fits n v ∧ FitsItems n vs

/-- `Fits` for the values of an object. -/
def FitsFields (n : Nat) : List (String × Value) → Prop
  | [] => True
  | (_, v) :: es => Fits n v ∧ FitsFields n es

end

mutual

theorem Fits.whole {n : Nat} : ∀ {v : Value}, v.Fits n → v.Whole
  | .null, _ | .bool _, _ | .string _, _ => nofun
  | .number _, h => fun _ hk => List.mem_singleton.1 hk ▸ h
  | .array _, h => FitsItems.whole h.2
  | .object _, h => FitsFields.whole h.2.2

theorem FitsItems.whole {n : Nat} :
    ∀ {vs : List Value}, FitsItems n vs → ∀ k ∈ numbersItems vs, k.IsInteger
  | [], _ => nofun
  | _ :: _, h => List.forall_mem_append.2 ⟨Fits.whole h.1, FitsItems.whole h.2⟩

theorem FitsFields.whole {n : Nat} :
    ∀ {es : List (String × Value)}, FitsFields n es → ∀ k ∈ numbersFields es, k.IsInteger
  | [], _ => nofun
  | _ :: _, h => List.forall_mem_append.2 ⟨Fits.whole h.1, FitsFields.whole h.2⟩

end

end Value

namespace Doc

/-- The key that a name has in a document. -/
def keyFrom (origin : Origin) (name : String) : Key :=
  match origin with
  | .text => keyOf name.toList
  | .value => ⟨name.toList, .ok name⟩

theorem text_keyFrom (origin : Origin) (name : String) :
    (keyFrom origin name).text = .ok name := by
  cases origin with
  | text => exact congrArg Except.ok String.ofList_toList
  | value => rfl

mutual

/-- The document that a value is read as, from a text or as a value. -/
def spelled (origin : Origin) : Value → Doc
  | .null => .null
  | .bool b => .bool b
  | .number n => .number (.ok n)
  | .string s => .string (.ok s)
  | .array vs => .array (spelledItems origin vs) none
  | .object es => .object (spelledFields origin es) none

/-- `spelled` on the items of an array. -/
def spelledItems (origin : Origin) : List Value → List Doc
  | [] => []
  | v :: vs => spelled origin v :: spelledItems origin vs

/-- `spelled` on the fields of an object. -/
def spelledFields (origin : Origin) : List (String × Value) → List (Key × Doc)
  | [] => []
  | (k, v) :: es => (keyFrom origin k, spelled origin v) :: spelledFields origin es

end

mutual

theorem ofValue_eq : ∀ v : Value, ofValue v = spelled .value v
  | .null | .bool _ | .number _ | .string _ => rfl
  | .array vs => by rw [ofValue, spelled, ofItems_eq vs]
  | .object es => by rw [ofValue, spelled, ofFields_eq es]

theorem ofItems_eq : ∀ vs : List Value, ofItems vs = spelledItems .value vs
  | [] => rfl
  | v :: vs => by rw [ofItems, spelledItems, ofValue_eq v, ofItems_eq vs]

theorem ofFields_eq : ∀ es : List (String × Value), ofFields es = spelledFields .value es
  | [] => rfl
  | (k, v) :: es => by rw [ofFields, spelledFields, ofValue_eq v, ofFields_eq es, keyFrom]

end

/-! ### Reading a spelling -/

theorem isBlank_nil : ∀ c ∈ ([] : List Char), isBlank c = true := fun _ h => (nomatch h)

theorem skipBlanks_append {ws : List Char} (h : ∀ c ∈ ws, isBlank c = true) {c : Char}
    (hc : isBlank c = false) (cs : List Char) : skipBlanks (ws ++ c :: cs) = c :: cs := by
  rw [skipBlanks, List.dropWhile_append_of_pos h]
  simp [hc]

theorem skipBlanks_cons {c : Char} (hc : isBlank c = false) (cs : List Char) :
    skipBlanks (c :: cs) = c :: cs := by
  simp [skipBlanks, hc]

/-- How the spelling of a value starts. -/
structure StartsValue (c : Char) : Prop where
  blank : isBlank c = false
  close : c ≠ ']'

theorem startsValue_of_isDigit {c : Char} (h : c.isDigit = true) : StartsValue c := by
  constructor
  · rw [isBlank]
    simp only [Bool.or_eq_false_iff, decide_eq_false_iff_not]
    refine ⟨⟨⟨?_, ?_⟩, ?_⟩, ?_⟩ <;> rintro rfl <;> revert h <;> decide
  · rintro rfl
    revert h
    decide

theorem head_spell (l : Layout) (n : Nat) {v : Value} (hv : v.Whole) :
    ∃ c cs, v.spell l n = c :: cs ∧ StartsValue c := by
  cases v with
  | null => exact ⟨'n', _, rfl, by decide, by decide⟩
  | bool b => cases b <;> exact ⟨_, _, rfl, by decide, by decide⟩
  | number k =>
    obtain ⟨c, cs, heq, hc⟩ := head_numberText (hv k (List.mem_singleton_self k))
    refine ⟨c, cs, heq, ?_⟩
    rcases hc with rfl | hc
    · exact ⟨by decide, by decide⟩
    · exact startsValue_of_isDigit hc
  | string s => exact ⟨'"', _, rfl, by decide, by decide⟩
  | array vs => cases vs <;> exact ⟨'[', _, rfl, by decide, by decide⟩
  | object es => cases es <;> exact ⟨'\x7b', _, rfl, by decide, by decide⟩

theorem endsNumber_cons {c : Char} (h : isBlank c = true ∨ c = ',' ∨ c = ']' ∨ c = '\x7d')
    (cs : List Char) : EndsNumber (c :: cs) := by
  intro d hd
  cases hd
  rcases h with h | rfl | rfl | rfl
  · simp only [isBlank, Bool.or_eq_true, decide_eq_true_eq] at h
    rcases h with ((rfl | rfl) | rfl) | rfl <;> decide
  · decide
  · decide
  · decide

theorem endsNumber_gap {l : Layout} (hl : l.IsBlank) (n : Nat) {c : Char}
    (hc : c = ',' ∨ c = ']' ∨ c = '\x7d') (cs : List Char) : EndsNumber (l.gap n ++ c :: cs) := by
  cases hgap : l.gap n with
  | nil => exact endsNumber_cons (.inr hc) cs
  | cons b bs => exact endsNumber_cons (.inl (hl.gap n b (hgap ▸ List.mem_cons_self))) _

theorem endsNumber_spellItems {l : Layout} (hl : l.IsBlank) (n : Nat) (vs : List Value)
    (rest : List Char) : EndsNumber (Value.spellItems l n vs ++ rest) := by
  cases vs with
  | nil =>
    rw [Value.spellItems, List.append_assoc]
    exact endsNumber_gap hl n (.inr (.inl rfl)) _
  | cons v vs => exact endsNumber_cons (.inr (.inl rfl)) _

theorem endsNumber_spellFields {l : Layout} (hl : l.IsBlank) (n : Nat)
    (es : List (String × Value)) (rest : List Char) :
    EndsNumber (Value.spellFields l n es ++ rest) := by
  cases es with
  | nil =>
    rw [Value.spellFields, List.append_assoc]
    exact endsNumber_gap hl n (.inr (.inr rfl)) _
  | cons e es => exact endsNumber_cons (.inr (.inl rfl)) _

/-- The first item of an array is read, then those behind it. -/
theorem readItems_first {fuel : Nat} {ws cs rest : List Char} {c : Char} {d : Doc}
    (hws : ∀ c ∈ ws, isBlank c = true) (hc : StartsValue c)
    (hread : read none fuel (c :: cs) = (d, some rest)) :
    readItems none (fuel + 2) true (ws ++ c :: cs) =
      (d :: (readItems none fuel false rest).1, (readItems none fuel false rest).2) := by
  have hitem : readItem none (fuel + 1) (c :: cs) =
      (d :: (readItems none fuel false rest).1, (readItems none fuel false rest).2) := by
    rw [readItem, hread]
  rw [readItems, skipBlanks_append hws hc.blank]
  split
  · next h => cases h
  · next h => exact absurd (List.cons.inj h).1 hc.close
  · next h =>
    obtain ⟨rfl, rfl⟩ := List.cons.inj h
    exact hitem

/-- An item behind a comma is read, then those behind it. -/
theorem readItems_next {fuel : Nat} {ws cs rest : List Char} {c : Char} {d : Doc}
    (hws : ∀ c ∈ ws, isBlank c = true) (hc : StartsValue c)
    (hread : read none fuel (c :: cs) = (d, some rest)) :
    readItems none (fuel + 2) false (',' :: (ws ++ c :: cs)) =
      (d :: (readItems none fuel false rest).1, (readItems none fuel false rest).2) := by
  have hitem : readItem none (fuel + 1) (c :: cs) =
      (d :: (readItems none fuel false rest).1, (readItems none fuel false rest).2) := by
    rw [readItem, hread]
  have hcomma : skipBlanks (',' :: (ws ++ c :: cs)) = ',' :: (ws ++ c :: cs) :=
    skipBlanks_cons (by decide) _
  have hskip := skipBlanks_append hws hc.blank cs
  rw [readItems, hcomma]
  split
  · next h => cases h
  · next h => exact absurd (List.cons.inj h).1 (by decide)
  · next h =>
    obtain ⟨rfl, rfl⟩ := List.cons.inj h
    rw [if_neg Bool.false_ne_true, if_pos rfl, hskip]
    split
    · next h => cases h
    · next h => exact absurd (List.cons.inj h).1 hc.close
    · exact hitem

theorem readItems_close {ws : List Char} (hws : ∀ c ∈ ws, isBlank c = true) (fuel : Nat)
    (first : Bool) (rest : List Char) :
    readItems none (fuel + 1) first (ws ++ ']' :: rest) = ([], none, some rest) := by
  rw [readItems, skipBlanks_append hws (by decide)]
  rfl

theorem readFields_close {ws : List Char} (hws : ∀ c ∈ ws, isBlank c = true) (fuel : Nat)
    (first : Bool) (rest : List Char) :
    readFields none (fuel + 1) first (ws ++ '\x7d' :: rest) = ([], none, some rest) := by
  rw [readFields, skipBlanks_append hws (by decide)]
  rfl

/-- A field behind the quote of its key is read, then those behind it. -/
theorem readField_spell {fuel : Nat} {k : String} {ws cs rest : List Char} {d : Doc}
    (hread : read none fuel (ws ++ cs) = (d, some rest)) :
    readField none (fuel + 1) (escaped k.toList ++ '"' :: ':' :: (ws ++ cs)) =
      ((keyFrom .text k, d) :: (readFields none fuel false rest).1,
        (readFields none fuel false rest).2) := by
  have hcolon : skipBlanks (':' :: (ws ++ cs)) = ':' :: (ws ++ cs) :=
    skipBlanks_cons (by decide) _
  simp only [readField, readString_escaped, hcolon, hread]
  rfl

theorem length_spellItems_pos (l : Layout) (n : Nat) (vs : List Value) :
    0 < (Value.spellItems l n vs).length := by
  cases vs <;> simp [Value.spellItems]

theorem length_spellFields_pos (l : Layout) (n : Nat) (es : List (String × Value)) :
    0 < (Value.spellFields l n es).length := by
  cases es <;> simp [Value.spellFields]

/-- A bracket and the items behind it. -/
theorem read_array {fuel : Nat} {ws cs rest : List Char} {ds : List Doc}
    (hws : ∀ c ∈ ws, isBlank c = true)
    (hread : readItems none fuel true cs = (ds, none, some rest)) :
    read none (fuel + 1) (ws ++ '[' :: cs) = (.array ds none, some rest) := by
  have hstart : read none (fuel + 1) (ws ++ '[' :: cs) =
      (.array (readItems none fuel true cs).1 (readItems none fuel true cs).2.1,
        (readItems none fuel true cs).2.2) := by
    rw [read, skipBlanks_append hws (by decide)]
    rfl
  rw [hstart, hread]

/-- A brace and the fields behind it. -/
theorem read_object {fuel : Nat} {ws cs rest : List Char} {ds : List (Key × Doc)}
    (hws : ∀ c ∈ ws, isBlank c = true)
    (hread : readFields none fuel true cs = (ds, none, some rest)) :
    read none (fuel + 1) (ws ++ '\x7b' :: cs) = (.object ds none, some rest) := by
  have hstart : read none (fuel + 1) (ws ++ '\x7b' :: cs) =
      (.object (readFields none fuel true cs).1 (readFields none fuel true cs).2.1,
        (readFields none fuel true cs).2.2) := by
    rw [read, skipBlanks_append hws (by decide)]
    rfl
  rw [hstart, hread]

/-- The first field of an object, and one behind a comma, start with a quote. -/
theorem readFields_quote {fuel : Nat} {ws cs : List Char} (hws : ∀ c ∈ ws, isBlank c = true) :
    readFields none (fuel + 1) true (ws ++ '"' :: cs) = readField none fuel cs ∧
      readFields none (fuel + 1) false (',' :: (ws ++ '"' :: cs)) = readField none fuel cs := by
  have hskip : skipBlanks (ws ++ '"' :: cs) = '"' :: cs := skipBlanks_append hws (by decide) cs
  constructor
  · rw [readFields, hskip]
    rfl
  · rw [readFields, skipBlanks_cons (by decide)]
    split
    · next h => cases h
    · next h => exact absurd (List.cons.inj h).1 (by decide)
    · next h =>
      obtain ⟨rfl, rfl⟩ := List.cons.inj h
      rw [if_neg Bool.false_ne_true, if_pos rfl, hskip]
      rfl

theorem read_number {k : Number} (hk : k.IsInteger) {fuel : Nat} {ws rest : List Char}
    (hws : ∀ c ∈ ws, isBlank c = true) (hrest : EndsNumber rest) :
    read none (fuel + 1) (ws ++ (k.text.toList ++ rest)) = (.number (.ok k), some rest) := by
  obtain ⟨c, cs, heq, hc⟩ := head_numberText hk
  have hnumber := numberDoc_text hk hrest
  have hstart : isBlank c = false ∧ c ≠ 'n' ∧ c ≠ 't' ∧ c ≠ 'f' := by
    rcases hc with rfl | hc
    · decide
    · refine ⟨(startsValue_of_isDigit hc).blank, ?_, ?_, ?_⟩ <;> rintro rfl <;> revert hc <;> decide
  rw [heq, List.cons_append] at hnumber ⊢
  rw [read, skipBlanks_append hws hstart.1]
  simp only [if_neg hstart.2.1, if_neg hstart.2.2.1, if_neg hstart.2.2.2, if_pos hc, hnumber]

theorem read_string (s : List Char) (fuel : Nat) {ws : List Char}
    (hws : ∀ c ∈ ws, isBlank c = true) (rest : List Char) :
    read none (fuel + 1) (ws ++ '"' :: (escaped s ++ '"' :: rest)) =
      (.string (.ok (String.ofList s)), some rest) := by
  have hstart : read none (fuel + 1) (ws ++ '"' :: (escaped s ++ '"' :: rest)) =
      stringDoc none (escaped s ++ '"' :: rest) := by
    rw [read, skipBlanks_append hws (by decide)]
    rfl
  rw [hstart, stringDoc, readString_escaped]
  rfl

theorem read_word {v : Value} (hv : v = .null ∨ ∃ b, v = .bool b) {l : Layout} {n fuel : Nat}
    {ws : List Char} (hws : ∀ c ∈ ws, isBlank c = true) (rest : List Char) :
    read none (fuel + 1) (ws ++ (v.spell l n ++ rest)) = (spelled .text v, some rest) := by
  have hblank : isBlank 'n' = false ∧ isBlank 't' = false ∧ isBlank 'f' = false := by decide
  rcases hv with rfl | ⟨b, rfl⟩
  · have htext : Value.spell l n .null ++ rest = 'n' :: ("ull".toList ++ rest) := rfl
    rw [htext, read, skipBlanks_append hws hblank.1]
    rfl
  · cases b with
    | true =>
      have htext : Value.spell l n (.bool true) ++ rest = 't' :: ("rue".toList ++ rest) := rfl
      rw [htext, read, skipBlanks_append hws hblank.2.1]
      rfl
    | false =>
      have htext : Value.spell l n (.bool false) ++ rest = 'f' :: ("alse".toList ++ rest) := rfl
      rw [htext, read, skipBlanks_append hws hblank.2.2]
      rfl

mutual

/-- Any spelling of a value is read as its document, whatever follows it. -/
theorem read_spell {l : Layout} (hl : l.IsBlank) (n : Nat) : ∀ v : Value, v.Whole →
    ∀ ws : List Char, (∀ c ∈ ws, isBlank c = true) →
    ∀ (fuel : Nat) (rest : List Char), 2 * (v.spell l n).length ≤ fuel → EndsNumber rest →
    read none fuel (ws ++ (v.spell l n ++ rest)) = (spelled .text v, some rest)
  | v, hv, ws, hws, 0, rest, hfuel, _ => by
    obtain ⟨c, cs, heq, -⟩ := head_spell l n hv
    rw [heq, List.length_cons] at hfuel
    omega
  | .null, _, _, hws, fuel + 1, rest, _, _ => read_word (.inl rfl) hws rest
  | .bool b, _, _, hws, fuel + 1, rest, _, _ => read_word (.inr ⟨b, rfl⟩) hws rest
  | .number k, hk, _, hws, fuel + 1, rest, _, hrest =>
    read_number (hk k (List.mem_singleton_self k)) hws hrest
  | .string s, _, ws, hws, fuel + 1, rest, _, _ => by
    have hstring := read_string s.toList fuel hws rest
    rw [String.ofList_toList] at hstring
    rw [Value.spell, List.cons_append, List.append_assoc]
    exact hstring
  | .array [], _, ws, hws, fuel + 1, rest, hfuel, _ => by
    obtain ⟨fuel, rfl⟩ : ∃ k, fuel = k + 1 := ⟨fuel - 1, by simp [Value.spell] at hfuel; omega⟩
    exact read_array hws (readItems_close isBlank_nil fuel true rest)
  | .array (v :: vs), hv, ws, hws, fuel + 1, rest, hfuel, _ => by
    obtain ⟨hitem, hitems⟩ := List.forall_mem_append.1 hv
    obtain ⟨c, cs, heq, hc⟩ := head_spell l (n + 1) hitem
    have hlength : 0 < (v.spell l (n + 1)).length := by simp [heq]
    have hpos := length_spellItems_pos l n vs
    simp only [Value.spell, List.length_cons, List.length_append] at hfuel
    obtain ⟨fuel, rfl⟩ : ∃ k, fuel = k + 2 := ⟨fuel - 2, by omega⟩
    have hread := read_spell hl (n + 1) v hitem [] isBlank_nil fuel
      (Value.spellItems l n vs ++ rest) (by omega) (endsNumber_spellItems hl n vs rest)
    have hrest := readItems_spell hl n vs hitems fuel rest (by omega)
    rw [List.nil_append, heq, List.cons_append] at hread
    have hfirst := readItems_first (hl.gap (n + 1)) hc hread
    rw [hrest] at hfirst
    have htext : Value.spell l n (.array (v :: vs)) ++ rest =
        '[' :: (l.gap (n + 1) ++ c :: (cs ++ (Value.spellItems l n vs ++ rest))) := by
      simp [Value.spell, heq]
    rw [htext]
    exact read_array hws hfirst
  | .object [], _, ws, hws, fuel + 1, rest, hfuel, _ => by
    obtain ⟨fuel, rfl⟩ : ∃ k, fuel = k + 1 := ⟨fuel - 1, by simp [Value.spell] at hfuel; omega⟩
    exact read_object hws (readFields_close isBlank_nil fuel true rest)
  | .object ((k, v) :: es), hv, ws, hws, fuel + 1, rest, hfuel, _ => by
    obtain ⟨hfield, hfields⟩ := List.forall_mem_append.1 hv
    have hpos := length_spellFields_pos l n es
    simp only [Value.spell, List.length_cons, List.length_append] at hfuel
    obtain ⟨fuel, rfl⟩ : ∃ k, fuel = k + 2 := ⟨fuel - 2, by omega⟩
    have hread := read_spell hl (n + 1) v hfield l.lead hl.lead fuel
      (Value.spellFields l n es ++ rest) (by omega) (endsNumber_spellFields hl n es rest)
    have hrest := readFields_spell hl n es hfields fuel rest (by omega)
    have hfirst := (readFields_quote (hl.gap (n + 1))).1.trans (readField_spell (k := k) hread)
    rw [hrest] at hfirst
    have htext : Value.spell l n (.object ((k, v) :: es)) ++ rest =
        '\x7b' :: (l.gap (n + 1) ++ '"' :: (escaped k.toList ++ '"' :: ':' ::
          (l.lead ++ (v.spell l (n + 1) ++ (Value.spellFields l n es ++ rest))))) := by
      simp [Value.spell]
    rw [htext]
    exact read_object hws hfirst
termination_by v => sizeOf v

theorem readItems_spell {l : Layout} (hl : l.IsBlank) (n : Nat) : ∀ vs : List Value,
    (∀ k ∈ Value.numbersItems vs, k.IsInteger) →
    ∀ (fuel : Nat) (rest : List Char), 2 * (Value.spellItems l n vs).length ≤ fuel →
    readItems none fuel false (Value.spellItems l n vs ++ rest) =
      (spelledItems .text vs, none, some rest)
  | [], _, fuel, rest, hfuel => by
    simp only [Value.spellItems, List.length_append, List.length_cons] at hfuel
    obtain ⟨fuel, rfl⟩ : ∃ k, fuel = k + 1 := ⟨fuel - 1, by omega⟩
    rw [Value.spellItems, List.append_assoc]
    exact readItems_close (hl.gap n) fuel false rest
  | v :: vs, hvs, fuel, rest, hfuel => by
    obtain ⟨hitem, hitems⟩ := List.forall_mem_append.1 hvs
    obtain ⟨c, cs, heq, hc⟩ := head_spell l (n + 1) hitem
    have hlength : 0 < (v.spell l (n + 1)).length := by simp [heq]
    have hpos := length_spellItems_pos l n vs
    simp only [Value.spellItems, List.length_cons, List.length_append] at hfuel
    obtain ⟨fuel, rfl⟩ : ∃ k, fuel = k + 2 := ⟨fuel - 2, by omega⟩
    have hread := read_spell hl (n + 1) v hitem [] isBlank_nil fuel
      (Value.spellItems l n vs ++ rest) (by omega) (endsNumber_spellItems hl n vs rest)
    have hrest := readItems_spell hl n vs hitems fuel rest (by omega)
    rw [List.nil_append, heq, List.cons_append] at hread
    have hnext := readItems_next (hl.gap (n + 1)) hc hread
    rw [hrest] at hnext
    have htext : Value.spellItems l n (v :: vs) ++ rest =
        ',' :: (l.gap (n + 1) ++ c :: (cs ++ (Value.spellItems l n vs ++ rest))) := by
      simp [Value.spellItems, heq]
    rw [htext]
    exact hnext
termination_by vs => sizeOf vs

theorem readFields_spell {l : Layout} (hl : l.IsBlank) (n : Nat) :
    ∀ es : List (String × Value), (∀ k ∈ Value.numbersFields es, k.IsInteger) →
    ∀ (fuel : Nat) (rest : List Char), 2 * (Value.spellFields l n es).length ≤ fuel →
    readFields none fuel false (Value.spellFields l n es ++ rest) =
      (spelledFields .text es, none, some rest)
  | [], _, fuel, rest, hfuel => by
    simp only [Value.spellFields, List.length_append, List.length_cons] at hfuel
    obtain ⟨fuel, rfl⟩ : ∃ k, fuel = k + 1 := ⟨fuel - 1, by omega⟩
    rw [Value.spellFields, List.append_assoc]
    exact readFields_close (hl.gap n) fuel false rest
  | (k, v) :: es, hes, fuel, rest, hfuel => by
    obtain ⟨hfield, hfields⟩ := List.forall_mem_append.1 hes
    have hpos := length_spellFields_pos l n es
    simp only [Value.spellFields, List.length_cons, List.length_append] at hfuel
    obtain ⟨fuel, rfl⟩ : ∃ k, fuel = k + 2 := ⟨fuel - 2, by omega⟩
    have hread := read_spell hl (n + 1) v hfield l.lead hl.lead fuel
      (Value.spellFields l n es ++ rest) (by omega) (endsNumber_spellFields hl n es rest)
    have hrest := readFields_spell hl n es hfields fuel rest (by omega)
    have hnext := (readFields_quote (hl.gap (n + 1))).2.trans (readField_spell (k := k) hread)
    rw [hrest] at hnext
    have htext : Value.spellFields l n ((k, v) :: es) ++ rest =
        ',' :: (l.gap (n + 1) ++ '"' :: (escaped k.toList ++ '"' :: ':' ::
          (l.lead ++ (v.spell l (n + 1) ++ (Value.spellFields l n es ++ rest))))) := by
      simp [Value.spellFields]
    rw [htext]
    exact hnext
termination_by es => sizeOf es

end

end Doc

/-! ### The value of a document -/

/-- At this place `n` more levels may be opened. -/
def Context.Room (c : Context) (n : Nat) : Prop := c.origin = .value ∨ n ≤ c.depth

theorem Context.enter_of_room {c : Context} {n : Nat} (h : c.Room n) (hn : 0 < n) :
    ∃ c', c.enter = .ok c' ∧ c'.origin = c.origin ∧ c'.Room (n - 1) := by
  obtain ⟨origin, depth⟩ := c
  cases origin with
  | value => exact ⟨⟨.value, depth⟩, rfl, rfl, .inl rfl⟩
  | text =>
    rcases h with h | h
    · cases h
    · obtain ⟨depth, rfl⟩ : ∃ k, depth = k + 1 := ⟨depth - 1, by simp at h; omega⟩
      exact ⟨⟨.text, depth⟩, rfl, rfl, .inr (by simp at h ⊢; omega)⟩

theorem Context.room_ofText : Context.ofText.Room 127 := .inr (Nat.le_refl _)

theorem Context.room_ofValue (n : Nat) : Context.ofValue.Room n := .inl rfl

namespace Decoder

open Doc (spelled spelledItems spelledFields)

mutual

/-- A document of a value stands for that value, its fields put in order. -/
theorem value_spelled {c : Context} {n : Nat} (hc : c.Room n) : ∀ v : Value, v.depth ≤ n →
    value c (spelled c.origin v) = .ok v.sortFields
  | .null, _ | .bool _, _ | .number _, _ | .string _, _ => by rw [spelled, value]; rfl
  | .array vs, hv => by
    have hn : 0 < n := Nat.lt_of_lt_of_le (Nat.succ_pos _) hv
    obtain ⟨c', hc', horigin, hroom⟩ := Context.enter_of_room hc hn
    have hitems := valueItems_spelled hroom vs (Nat.le_sub_one_of_lt hv)
    rw [horigin] at hitems
    simp only [spelled, value, hc', hitems, bind, Except.bind, pure, Except.pure, Value.sortFields]
  | .object es, hv => by
    have hn : 0 < n := Nat.lt_of_lt_of_le (Nat.succ_pos _) hv
    obtain ⟨c', hc', horigin, hroom⟩ := Context.enter_of_room hc hn
    have hfields := valueFields_spelled hroom es (Nat.le_sub_one_of_lt hv) []
    rw [horigin] at hfields
    simp only [spelled, value, hc', hfields, bind, Except.bind, pure, Except.pure, Value.sortFields]

theorem valueItems_spelled {c : Context} {n : Nat} (hc : c.Room n) : ∀ vs : List Value,
    Value.depthItems vs ≤ n →
    valueItems c (spelledItems c.origin vs) = .ok (Value.sortFieldsItems vs)
  | [], _ => rfl
  | v :: vs, hvs => by
    have hitem := value_spelled hc v (Nat.le_trans (Nat.le_max_left ..) hvs)
    have hitems := valueItems_spelled hc vs (Nat.le_trans (Nat.le_max_right ..) hvs)
    simp only [spelledItems, valueItems, hitem, hitems, bind, Except.bind, pure, Except.pure,
      Value.sortFieldsItems]

theorem valueFields_spelled {c : Context} {n : Nat} (hc : c.Room n) :
    ∀ es : List (String × Value), Value.depthFields es ≤ n → ∀ before : List (String × Value),
    valueFields c (spelledFields c.origin es) before =
      .ok ((Value.sortFieldsFields es).foldl (fun l e => Value.putField e.1 e.2 l) before)
  | [], _, _ => rfl
  | (k, v) :: es, hes, before => by
    have hfield := value_spelled hc v (Nat.le_trans (Nat.le_max_left ..) hes)
    have hfields := valueFields_spelled hc es (Nat.le_trans (Nat.le_max_right ..) hes)
    simp only [spelledFields, valueFields, Doc.text_keyFrom, hfield, hfields, bind, Except.bind,
      Value.sortFieldsFields, List.foldl_cons]

end

/-- What a decoder makes of the document of a value, it makes of any spelling of the value. -/
theorem run_spell {α : Type} {item : Decoder α} {l : Layout} (hl : l.IsBlank) {v : Value}
    (hv : v.Whole) {a : α} (h : item .ofText (spelled .text v) = .ok a) :
    item.ofText (String.ofList (v.spell l 0)) = .ok a := by
  have hfuel : 2 * (v.spell l 0).length ≤ Doc.readFuel (v.spell l 0) := by
    rw [Doc.readFuel]
    omega
  have hread := Doc.read_spell hl 0 v hv [] Doc.isBlank_nil (Doc.readFuel (v.spell l 0)) [] hfuel
    (fun c hc => nomatch hc)
  rw [List.append_nil, List.nil_append] at hread
  simp only [ofText, run, Doc.ofText, String.toList_ofList, hread, h, bind, Except.bind]
  rfl

theorem ofText_compact {α : Type} {item : Decoder α} {v : Value} (hv : v.Whole) {a : α}
    (h : item .ofText (spelled .text v) = .ok a) : item.ofText v.compact = .ok a := by
  have hrun := run_spell Layout.isBlank_compact hv h
  rwa [Value.spell_compact, String.ofList_toList] at hrun

theorem ofText_pretty {α : Type} {item : Decoder α} {v : Value} (hv : v.Whole) {a : α}
    (h : item .ofText (spelled .text v) = .ok a) : item.ofText v.pretty = .ok a := by
  have hrun := run_spell Layout.isBlank_pretty hv h
  rwa [Value.spell_pretty, String.ofList_toList] at hrun

end Decoder

end Coverage.Json
