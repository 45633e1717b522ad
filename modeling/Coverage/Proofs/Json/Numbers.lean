import Coverage.Json.Decode
import Coverage.Proofs.Decimal.Rounding
import Coverage.Proofs.Json.RoundTrip

/-!
# The numbers of a document

What a text spells as a number is a natural number of 64 bits, a negative one, or a value with at
most 53 bits in its mantissa, whatever else is in the text (`proper_ofText`).
-/

namespace Coverage.Json

open Coverage.Decimal (Binary64)

/-- A number as documents spell it. -/
def Number.Proper : Number → Prop
  | .natural _ => True
  | .negative n => n.toInt < 0
  | .real x => x.mantissa < 2 ^ 53

/-- A value is free of real numbers. -/
def Value.NoReals (v : Value) : Prop := ∀ x, Number.real x ∉ v.numbers

theorem Value.NoReals.whole {v : Value} (h : v.NoReals) (hproper : ∀ k ∈ v.numbers, k.Proper) :
    v.Whole := by
  intro k hk
  have hkind := hproper k hk
  cases k with
  | natural n => trivial
  | negative n => exact hkind
  | real x => exact absurd hk (h x)

namespace NumberText

variable {t : NumberText} {k : Number}

theorem proper_realOf {negative : Bool} {significand : Nat} {e : Int}
    (h : realOf negative significand e = .ok k) : k.Proper := by
  rw [realOf] at h
  split at h
  · next x hx =>
    cases h
    have hm := Binary64.mantissa_ofDecimal? hx
    cases negative <;> exact hm
  · cases h

theorem proper_withExponent {significand : Nat} {e : Int}
    (h : t.withExponent significand e = .ok k) : k.Proper := by
  rw [withExponent] at h
  split at h
  · exact proper_realOf h
  dsimp only at h
  split at h
  · split at h
    · cases h
    · cases h
      have hzero : Binary64.zero.mantissa < 2 ^ 53 := by decide
      cases t.negative <;> exact hzero
  · exact proper_realOf h

theorem proper_value (h : t.value = .ok k) : k.Proper := by
  rw [value] at h
  dsimp only at h
  split at h
  · exact proper_withExponent h
  split at h
  · exact proper_withExponent h
  split at h
  · cases h
    trivial
  split at h
  · cases h
    exact Binary64.mantissa_ofNat _
  · next hn =>
    cases h
    simp only [Bool.or_eq_true, decide_eq_true_eq, not_or, Nat.not_lt] at hn
    have hmin : Int64.minValue.toInt = -2 ^ 63 := by decide
    have hback : (Int64.ofInt (-((accumulate 0 t.whole).1 : Int))).toInt =
        -((accumulate 0 t.whole).1 : Int) := Int64.toInt_ofInt_of_le (by omega) (by omega)
    rw [Number.Proper, hback]
    omega

end NumberText

namespace Doc

mutual

/-- The numbers in a document, up to its first fault. -/
def numbers : Doc → List Number
  | .number (.ok k) => [k]
  | .array ds _ => numbersItems ds
  | .object fs _ => numbersFields fs
  | _ => []

/-- The numbers in the items of an array. -/
def numbersItems : List Doc → List Number
  | [] => []
  | d :: ds => numbers d ++ numbersItems ds

/-- The numbers in the fields of an object. -/
def numbersFields : List (Key × Doc) → List Number
  | [] => []
  | (_, d) :: fs => numbers d ++ numbersFields fs

end

/-- A document whose numbers are as texts spell them. -/
def Proper (d : Doc) : Prop := ∀ k ∈ d.numbers, k.Proper

theorem proper_number {n : Except Error Number} (h : ∀ k, n = .ok k → k.Proper) :
    (Doc.number n).Proper := by
  cases n with
  | error e => exact nofun
  | ok k => exact fun k' hk' => h k' (congrArg _ (List.mem_singleton.1 hk').symm)

theorem proper_numberDoc (cs : List Char) : (numberDoc cs).1.Proper := by
  rw [numberDoc]
  split
  · exact proper_number fun k hk => NumberText.proper_value hk
  · exact List.forall_mem_nil _

theorem proper_word {d : Doc} (hd : d.Proper) (ws cs : List Char) : (word d ws cs).1.Proper := by
  induction ws generalizing cs with
  | nil => exact hd
  | cons w ws ih =>
    cases cs with
    | nil => exact nofun
    | cons c cs =>
      rw [word]
      split
      · exact ih cs
      · exact nofun

theorem proper_stringDoc (mark : Option Char) (cs : List Char) : (stringDoc mark cs).1.Proper := by
  rw [stringDoc]
  split <;> exact List.forall_mem_nil _

mutual

theorem proper_read (mark : Option Char) : ∀ (fuel : Nat) (cs : List Char),
    (read mark fuel cs).1.Proper
  | 0, _ => nofun
  | fuel + 1, cs => by
    have hnull : Doc.null.Proper := nofun
    have hbool : ∀ b, (Doc.bool b).Proper := fun _ => nofun
    rw [read]
    split
    · exact nofun
    split
    · exact proper_word hnull _ _
    split
    · exact proper_word (hbool true) _ _
    split
    · exact proper_word (hbool false) _ _
    split
    · exact proper_numberDoc _
    split
    · exact proper_stringDoc mark _
    split
    · exact proper_readItems mark fuel true _
    split
    · exact proper_readFields mark fuel true _
    · exact nofun

theorem proper_readItems (mark : Option Char) : ∀ (fuel : Nat) (first : Bool) (cs : List Char),
    ∀ k ∈ numbersItems (readItems mark fuel first cs).1, k.Proper
  | 0, _, _ => nofun
  | fuel + 1, first, cs => by
    rw [readItems]
    split
    · exact nofun
    · exact nofun
    split
    · exact proper_readItem mark fuel _
    split
    · split
      · exact nofun
      · exact nofun
      · exact proper_readItem mark fuel _
    · exact nofun

theorem proper_readItem (mark : Option Char) : ∀ (fuel : Nat) (cs : List Char),
    ∀ k ∈ numbersItems (readItem mark fuel cs).1, k.Proper
  | 0, _ => nofun
  | fuel + 1, cs => by
    have hitem := proper_read mark fuel cs
    rw [readItem]
    split
    · next heq =>
      rw [heq] at hitem
      exact List.forall_mem_append.2 ⟨hitem, nofun⟩
    · next heq =>
      rw [heq] at hitem
      exact List.forall_mem_append.2 ⟨hitem, proper_readItems mark fuel false _⟩

theorem proper_readFields (mark : Option Char) : ∀ (fuel : Nat) (first : Bool) (cs : List Char),
    ∀ k ∈ numbersFields (readFields mark fuel first cs).1, k.Proper
  | 0, _, _ => nofun
  | fuel + 1, first, cs => by
    rw [readFields]
    split
    · exact nofun
    · exact nofun
    split
    · split
      · exact proper_readField mark fuel _
      · exact nofun
    split
    · split
      · exact proper_readField mark fuel _
      · exact nofun
    · exact nofun

theorem proper_readField (mark : Option Char) : ∀ (fuel : Nat) (cs : List Char),
    ∀ k ∈ numbersFields (readField mark fuel cs).1, k.Proper
  | 0, _ => nofun
  | fuel + 1, cs => by
    rw [readField]
    split
    · exact nofun
    split
    · exact nofun
    · next rest _ =>
      have hvalue := proper_read mark fuel rest
      split
      · next heq =>
        rw [heq] at hvalue
        exact List.forall_mem_append.2 ⟨hvalue, nofun⟩
      · next heq =>
        rw [heq] at hvalue
        exact List.forall_mem_append.2 ⟨hvalue, proper_readFields mark fuel false _⟩
    · exact nofun

end

/-- The numbers of a text are spelled as numbers are. -/
theorem proper_ofText (cs : List Char) : (ofText cs).1.Proper := proper_read none _ cs

end Doc

end Coverage.Json
