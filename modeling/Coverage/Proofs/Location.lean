import Coverage.Location

/-!
# The order of positions

Positions stand one after the other in a text: by line, and on a line by column.
-/

namespace Coverage

/-- A relation puts its elements in a line. -/
structure Linear {κ : Type} (le : κ → κ → Bool) : Prop where
  trans : ∀ a b c, le a b = true → le b c = true → le a c = true
  total : ∀ a b, (le a b || le b a) = true
  antisymm : ∀ a b, le a b = true → le b a = true → a = b

namespace Linear

variable {κ : Type} {le : κ → κ → Bool}

theorem refl (h : Linear le) (a : κ) : le a a = true := by
  have htotal := h.total a a
  rwa [Bool.or_self] at htotal

theorem le_of_not_le (h : Linear le) {a b : κ} (hab : le a b ≠ true) : le b a = true := by
  have htotal := h.total a b
  rw [Bool.or_eq_true] at htotal
  exact htotal.resolve_left hab

end Linear

namespace Position

theorem le_iff (p q : Position) : p.le q = true ↔
    p.line.toNat < q.line.toNat ∨
      p.line.toNat = q.line.toNat ∧ p.column.toInt ≤ q.column.toInt := by
  simp only [le, Bool.or_eq_true, Bool.and_eq_true, decide_eq_true_eq, beq_iff_eq,
    UInt32.lt_iff_toNat_lt, Int64.le_iff_toInt_le, UInt32.toNat_inj]

theorem linear_le : Linear le := by
  constructor
  · intro a b c hab hbc
    rw [le_iff] at hab hbc ⊢
    omega
  · intro a b
    rw [Bool.or_eq_true, le_iff, le_iff]
    omega
  · intro a b hab hba
    rw [le_iff] at hab hba
    have hline : a.line = b.line := UInt32.toNat_inj.1 (by omega)
    have hcolumn : a.column = b.column := Int64.toInt_inj.1 (by omega)
    cases a
    cases b
    rw [mk.injEq]
    exact ⟨hline, hcolumn⟩

/-- A position stands in front of another one. -/
def Before (p q : Position) : Prop := p.line < q.line ∨ p.line = q.line ∧ p.column < q.column

theorem before_iff (p q : Position) : p.Before q ↔ ¬ q.le p = true := by
  rw [le_iff, Before, UInt32.lt_iff_toNat_lt, Int64.lt_iff_toInt_lt, ← UInt32.toNat_inj]
  omega

/-- On one line positions are ordered by their columns. -/
theorem le_iff_of_line_eq {p q : Position} (h : p.line = q.line) :
    p.le q = true ↔ p.column ≤ q.column := by
  rw [le_iff, h, Int64.le_iff_toInt_le]
  omega

theorem isValid_iff (p : Position) :
    p.isValid = true ↔ 0 < p.line.toNat ∧ 0 ≤ p.column.toInt := by
  rw [isValid, Bool.and_eq_true, decide_eq_true_eq, decide_eq_true_eq, UInt32.lt_iff_toNat_lt,
    Int64.le_iff_toInt_le]
  rfl

/-- What stands between two positions of one line is on that line. -/
theorem line_of_between {a b c : Position} (hac : a.line = c.line) (hab : a.le b = true)
    (hbc : b.le c = true) : b.line = a.line := by
  rw [le_iff] at hab hbc
  rw [← hac] at hbc
  exact UInt32.toNat_inj.1 (by omega)

end Position

/-- A range lies within another one. -/
def Location.Within (l l' : Location) : Prop :=
  l'.start.le l.start = true ∧ l.stop.le l'.stop = true

end Coverage
