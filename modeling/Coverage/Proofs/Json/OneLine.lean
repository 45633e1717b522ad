import Coverage.Proofs.Json.Lexeme
import Mathlib.Tactic.SplitIfs

/-!
# Texts in one line

Compact JSON takes one line (`Value.oneLine_compact`): line feeds in strings and keys are escaped,
and nothing else that is written holds one.
-/

namespace Coverage

namespace Text

/-- A text without line feeds. -/
def OneLine (s : String) : Prop := '\n' ∉ s.toList

instance (s : String) : Decidable (OneLine s) := inferInstanceAs (Decidable (_ ∉ _))

@[simp] theorem oneLine_empty : OneLine "" := by decide

@[simp] theorem oneLine_append {s t : String} : OneLine (s ++ t) ↔ OneLine s ∧ OneLine t := by
  rw [OneLine, String.toList_append, List.mem_append, not_or]
  rfl

namespace OneLine

variable {s t : String} {cs : List Char}

theorem ite {c : Prop} [Decidable c] (hs : OneLine s) (ht : OneLine t) :
    OneLine (if c then s else t) := by
  split
  · exact hs
  · exact ht

theorem ofList (h : '\n' ∉ cs) : OneLine (String.ofList cs) := by
  rwa [OneLine, String.toList_ofList]

/-- A part of a text in one line is in one line. -/
theorem of_subset (h : OneLine s) (hsub : cs ⊆ s.toList) : OneLine (String.ofList cs) :=
  .ofList fun hmem => h (hsub hmem)

end OneLine

end Text

open Text (OneLine)

/-! ### Numbers -/

namespace Decimal

@[simp] theorem oneLine_repr (n : Nat) : OneLine n.repr := by
  rw [OneLine, Nat.toList_repr]
  intro hmem
  cases Json.NumberText.isDigit_toDigits n _ hmem

theorem oneLine_int (n : Int) : OneLine (toString n) := by
  cases n with
  | ofNat m => exact oneLine_repr m
  | negSucc m => exact Text.oneLine_append.2 ⟨by decide, oneLine_repr (m + 1)⟩

@[simp] theorem oneLine_zeros (n : Nat) : OneLine (zeros n) := by
  refine .ofList fun hmem => ?_
  cases List.eq_of_mem_replicate hmem

theorem oneLine_pointAt {digits whole : String} (hdigits : OneLine digits)
    (hwhole : OneLine whole) (place : Int) : OneLine (pointAt digits place whole) := by
  have htake := hdigits.of_subset (List.take_subset place.toNat _)
  have hdrop := hdigits.of_subset (List.drop_subset place.toNat _)
  rw [pointAt]
  refine .ite ?_ (.ite ?_ ?_) <;> simp +decide [*]

theorem oneLine_documentText (x : Binary64) : OneLine x.documentText := by
  have hsign : OneLine (if x.negative then "-" else "") := .ite (by decide) (by decide)
  have hdigits : OneLine (toString x.shortest.digits) := oneLine_repr _
  have hhead := hdigits.of_subset (List.take_subset 1 _)
  have htail := hdigits.of_subset (List.drop_subset 1 _)
  rw [Binary64.documentText]
  dsimp only
  refine .ite ?_ (.ite ?_ ?_)
  · exact Text.oneLine_append.2 ⟨hsign, by decide⟩
  · exact Text.oneLine_append.2 ⟨hsign, oneLine_pointAt hdigits (by decide) _⟩
  · simp only [Text.oneLine_append]
    refine ⟨⟨⟨hsign, .ite hhead ?_⟩, by decide⟩, oneLine_int _⟩
    exact Text.oneLine_append.2 ⟨Text.oneLine_append.2 ⟨hhead, by decide⟩, htail⟩

end Decimal

namespace Json

theorem Number.oneLine_text (n : Number) : OneLine n.text := by
  cases n with
  | natural n => exact Decimal.oneLine_repr n.toNat
  | negative n => exact Decimal.oneLine_int n.toInt
  | real x => exact Decimal.oneLine_documentText x

/-! ### Values -/

theorem hexDigit_ne : ∀ n < 16, hexDigit n ≠ '\n' := by decide

/-- No character is written with a line feed. -/
theorem not_mem_escapeChar (c : Char) : '\n' ∉ escapeChar c := by
  have hc := escape_escapeChar c
  generalize escapeChar c = written at hc ⊢
  cases hc with
  | short _ h =>
    rintro hmem
    obtain rfl : '\n' = _ := by simpa using hmem
    cases h
  | control h =>
    have hhigh := hexDigit_ne (c.toNat / 16) (by omega)
    have hlow := hexDigit_ne (c.toNat % 16) (by omega)
    simp [Ne.symm hhigh, Ne.symm hlow]
  | itself _ _ hcontrol =>
    rw [List.mem_singleton]
    rintro rfl
    exact hcontrol (by decide)

@[simp] theorem oneLine_quote (s : String) : OneLine (quote s) := by
  rw [OneLine, toList_quote, escaped]
  simp [not_mem_escapeChar]

namespace Value

mutual

/-- The compact text of a value is in one line, whatever stands in its strings. -/
@[simp] theorem oneLine_compact : ∀ v : Value, OneLine v.compact
  | .null => by decide
  | .bool true => by decide
  | .bool false => by decide
  | .number n => n.oneLine_text
  | .string s => oneLine_quote s
  | .array items => by simp +decide [compact, oneLine_compactItems items]
  | .object fields => by simp +decide [compact, oneLine_compactFields fields]

theorem oneLine_compactItems : ∀ items : List Value, OneLine (compactItems items)
  | [] => by decide
  | [v] => oneLine_compact v
  | v :: w :: rest => by
    simp +decide [compactItems, oneLine_compact v, oneLine_compactItems (w :: rest)]

theorem oneLine_compactFields :
    ∀ fields : List (String × Value), OneLine (compactFields fields)
  | [] => by decide
  | [(k, v)] => by simp +decide [compactFields, oneLine_compact v]
  | (k, v) :: e :: rest => by
    simp +decide [compactFields, oneLine_compact v, oneLine_compactFields (e :: rest)]

end

end Value

end Json

end Coverage
