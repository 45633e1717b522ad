import Coverage.Proofs.CommandLine
import Coverage.Proofs.FileRecord.Views
import Coverage.Report.LineRanges

/-!
# Which lines share a range

The ranges of a list of lines are those of the list without its first line, where the first range
has grown by this line or a range of this line alone stands in front. What a list of ranges has to
be (`Coalesced`) is kept by both (`Coalesced.extend`, `Coalesced.separate`), so it holds for all
lines.

No subtraction leaves the numbers of 32 bits, and a line is found by bisection where it is found at
all (`checkedRanges_eq`). The main result is `lineRanges_spec`. It also says what the ranges are
that are printed for a file.
-/

namespace Coverage.Report

open CommandLine

variable {instrumentable lines : List UInt32} {a b line : UInt32}
  {ranges : List (UInt32 × UInt32)}

/-! ### Neighbours -/

theorem toNat_gap (h : a < b) : (b - a - 1).toNat = b.toNat - a.toNat - 1 := by
  rw [UInt32.lt_iff_toNat_lt] at h
  have hb := b.toNat_lt
  rw [UInt32.toNat_sub, UInt32.toNat_sub, UInt32.toNat_one]
  omega

theorem mem_linesBetween_iff (h : a < b) :
    line ∈ linesBetween a (b - a - 1) ↔ a < line ∧ line < b := by
  simp only [linesBetween, List.mem_map, List.mem_range, toNat_gap h]
  simp only [UInt32.lt_iff_toNat_lt] at h ⊢
  have hb := b.toNat_lt
  constructor
  · rintro ⟨i, hi, rfl⟩
    rw [UInt32.toNat_add, UInt32.toNat_add, UInt32.toNat_one, UInt32.toNat_ofNat']
    omega
  · rintro ⟨hlow, hhigh⟩
    refine ⟨line.toNat - a.toNat - 1, by omega, UInt32.toNat_inj.1 ?_⟩
    rw [UInt32.toNat_add, UInt32.toNat_add, UInt32.toNat_one, UInt32.toNat_ofNat']
    omega

/-- A range goes on to a line that at most two lines separate from it, if no statement starts on
any of these. -/
theorem bridges_iff (h : a < b) : bridges instrumentable a b = true ↔
    b.toNat - a.toNat - 1 ≤ 2 ∧ ∀ line, a < line → line < b → line ∉ instrumentable := by
  have htwo : maxBridge.toNat = 2 := rfl
  simp only [bridges, Bool.and_eq_true, decide_eq_true_eq, List.all_eq_true, Bool.not_eq_true',
    mem_linesBetween_iff h, UInt32.le_iff_toNat_le, toNat_gap h, htwo, List.contains_eq_mem,
    decide_eq_false_iff_not, and_imp]

/-! ### One line more -/

/-- Whether a line lies in a range. -/
def Within (range : UInt32 × UInt32) (line : UInt32) : Prop := range.1 ≤ line ∧ line ≤ range.2

/-- What the ranges of increasing lines are. -/
structure Coalesced (instrumentable lines : List UInt32) (ranges : List (UInt32 × UInt32)) :
    Prop where
  /-- A range ends before the next one starts. -/
  ordered : ranges.Pairwise fun r s => r.2 < s.1
  ends : ∀ range ∈ ranges, range.1 ∈ lines ∧ range.2 ∈ lines ∧ range.1 ≤ range.2
  covers : ∀ line ∈ lines, ∃ range ∈ ranges, Within range line
  /-- What a range bridges are lines on which no statement starts. -/
  spares : ∀ range ∈ ranges, ∀ line, Within range line → line ∉ lines → line ∉ instrumentable
  /-- Neighbours share a range exactly where one is bridged to the other. -/
  shares : ∀ before a b behind, lines = before ++ a :: b :: behind →
    ((∃ range ∈ ranges, Within range a ∧ Within range b) ↔ bridges instrumentable a b = true)

/-- The lines that a range has before its second line. -/
theorem within_iff_of_lt {stop : UInt32} (hab : a < b) (hstop : b ≤ stop) :
    Within (a, stop) line ↔ line = a ∨ (a < line ∧ line < b) ∨ Within (b, stop) line := by
  simp only [Within, UInt32.lt_iff_toNat_lt, UInt32.le_iff_toNat_le, ← UInt32.toNat_inj] at *
  omega

theorem le_of_sorted (h : (b :: lines).Pairwise (· < ·)) {l : UInt32} (hl : l ∈ b :: lines) :
    b ≤ l := by
  rcases List.mem_cons.1 hl with rfl | hl
  · exact UInt32.le_refl l
  · exact UInt32.le_of_lt ((List.pairwise_cons.1 h).1 l hl)

section Step

variable {stop : UInt32} (hsorted : (a :: b :: lines).Pairwise (· < ·))
  (h : Coalesced instrumentable (b :: lines) ((b, stop) :: ranges))
include hsorted h

/-- A line that is bridged to the next one goes into its range. -/
theorem Coalesced.extend (hbridges : bridges instrumentable a b = true) :
    Coalesced instrumentable (a :: b :: lines) ((a, stop) :: ranges) := by
  obtain ⟨hbefore, hrest⟩ := List.pairwise_cons.1 hsorted
  have hab := hbefore b List.mem_cons_self
  obtain ⟨-, hstop, hle⟩ := h.ends _ List.mem_cons_self
  refine ⟨?_, ?_, ?_, ?_, ?_⟩
  · exact List.pairwise_cons.2 (List.pairwise_cons.1 h.ordered)
  · intro range hrange
    rcases List.mem_cons.1 hrange with rfl | hrange
    · exact ⟨List.mem_cons_self, List.mem_cons_of_mem _ hstop,
        UInt32.le_trans (UInt32.le_of_lt hab) hle⟩
    · obtain ⟨hfirst, hlast, hle⟩ := h.ends range (List.mem_cons_of_mem _ hrange)
      exact ⟨List.mem_cons_of_mem _ hfirst, List.mem_cons_of_mem _ hlast, hle⟩
  · intro l hl
    rcases List.mem_cons.1 hl with rfl | hl
    · exact ⟨_, List.mem_cons_self, (within_iff_of_lt hab hle).2 (.inl rfl)⟩
    · obtain ⟨range, hrange, hin⟩ := h.covers l hl
      rcases List.mem_cons.1 hrange with rfl | hrange
      · exact ⟨_, List.mem_cons_self, (within_iff_of_lt hab hle).2 (.inr (.inr hin))⟩
      · exact ⟨range, List.mem_cons_of_mem _ hrange, hin⟩
  · intro range hrange l hin hl
    obtain ⟨hne, hl⟩ := not_or.1 (List.mem_cons.not.1 hl)
    rcases List.mem_cons.1 hrange with rfl | hrange
    · rcases (within_iff_of_lt hab hle).1 hin with rfl | ⟨hlow, hhigh⟩ | hin
      · exact absurd rfl hne
      · exact ((bridges_iff hab).1 hbridges).2 l hlow hhigh
      · exact h.spares _ List.mem_cons_self l hin hl
    · exact h.spares range (List.mem_cons_of_mem _ hrange) l hin hl
  · intro before u v behind hsplit
    cases before with
    | nil =>
      cases hsplit
      refine iff_of_true ⟨_, List.mem_cons_self, ?_, ?_⟩ hbridges
      · exact (within_iff_of_lt hab hle).2 (.inl rfl)
      · exact (within_iff_of_lt hab hle).2 (.inr (.inr ⟨UInt32.le_refl b, hle⟩))
    | cons x before =>
      obtain ⟨-, hsplit⟩ := List.cons.inj hsplit
      -- Both lines lie behind `a`, where the grown range is as it was.
      have hsame : ∀ l ∈ b :: lines, Within (a, stop) l ↔ Within (b, stop) l := fun l hl =>
        and_congr_left fun _ => iff_of_true (UInt32.le_of_lt (hbefore l hl)) (le_of_sorted hrest hl)
      have hu : u ∈ b :: lines := by rw [hsplit]; simp
      have hv : v ∈ b :: lines := by rw [hsplit]; simp
      rw [← h.shares before u v behind hsplit]
      simp only [List.mem_cons, exists_eq_or_imp, hsame u hu, hsame v hv]

end Step

/-! ### All lines -/

/-- Looks for a line by halving what is left. -/
def bisects (line : UInt32) (l : List UInt32) : Bool :=
  if h : 2 ≤ l.length then
    if line < l[l.length / 2] then bisects line (l.take (l.length - l.length / 2))
    else bisects line (l.drop (l.length / 2))
  else l.head? == some line
termination_by l.length
decreasing_by all_goals simp; omega

/-- The difference of two words, unless it is negative. -/
def difference? (a b : UInt32) : Option UInt32 := if b ≤ a then some (a - b) else none

/-- The word behind one, unless it is the greatest. -/
def successor? (a : UInt32) : Option UInt32 := if a.toNat + 1 < 2 ^ 32 then some (a + 1) else none

/-- Whether a range may go on to a line, as told by bisection. There is no answer where a word would
leave its range. -/
def checkedBridges (instrumentable : List UInt32) (last line : UInt32) : Option Bool := do
  let gap ← difference? (← difference? line last) 1
  if gap ≤ maxBridge then do
    let _ ← successor? last
    return (linesBetween last gap).all fun l => !bisects l instrumentable
  else return false

/-- Splits lines into ranges like `rangesFrom`, by bisection and with checked words. -/
def checkedFrom (instrumentable : List UInt32) (first last : UInt32) :
    List UInt32 → Option (List (UInt32 × UInt32))
  | [] => some [(first, last)]
  | line :: rest => do
    if ← checkedBridges instrumentable last line then checkedFrom instrumentable first line rest
    else return (first, last) :: (← checkedFrom instrumentable line line rest)

theorem getElem_le_of_sorted (h : lines.Pairwise (· ≤ ·)) {i j : Nat} (hj : j < lines.length)
    (hij : i ≤ j) : lines[i] ≤ lines[j] := by
  rcases Nat.eq_or_lt_of_le hij with rfl | hlt
  · exact UInt32.le_refl _
  · exact List.pairwise_iff_getElem.1 h i j (Nat.lt_trans hlt hj) hj hlt

/-- Bisection finds what a sorted list has. -/
theorem bisects_iff (h : lines.Pairwise (· ≤ ·)) : bisects line lines = true ↔ line ∈ lines := by
  fun_induction bisects line lines with
  | case1 lines hlength hlt ih =>
    -- From the middle on, all lines are greater.
    have hout : line ∉ lines.drop (lines.length - lines.length / 2) := by
      intro hmem
      obtain ⟨i, hi, heq⟩ := List.mem_iff_getElem.1 hmem
      rw [List.length_drop] at hi
      rw [List.getElem_drop] at heq
      have hle := getElem_le_of_sorted h (i := lines.length / 2)
        (j := lines.length - lines.length / 2 + i) (by omega) (by omega)
      exact UInt32.not_le.2 hlt (heq ▸ hle)
    rw [ih (h.sublist (List.take_sublist _ _))]
    conv_rhs => rw [← List.take_append_drop (lines.length - lines.length / 2) lines]
    rw [List.mem_append, or_iff_left hout]
  | case2 lines hlength hge ih =>
    -- A line before the middle that is as great as the one in the middle is the same.
    have hmiddle : lines[lines.length / 2] ∈ lines.drop (lines.length / 2) := by
      rw [List.drop_eq_getElem_cons (by omega)]
      exact List.mem_cons_self
    have hin : line ∈ lines.take (lines.length / 2) → line ∈ lines.drop (lines.length / 2) := by
      intro hmem
      obtain ⟨i, hi, heq⟩ := List.mem_iff_getElem.1 hmem
      rw [List.length_take] at hi
      rw [List.getElem_take] at heq
      have hle := getElem_le_of_sorted h (i := i) (j := lines.length / 2) (by omega) (by omega)
      rw [heq] at hle
      rwa [UInt32.le_antisymm hle (UInt32.not_lt.1 hge)]
    rw [ih (h.sublist (List.drop_sublist _ _))]
    conv_rhs => rw [← List.take_append_drop (lines.length / 2) lines]
    rw [List.mem_append, or_iff_right_of_imp hin]
  | case3 lines hlength =>
    match lines, hlength with
    | [], _ => simp
    | [x], _ =>
      rw [List.mem_singleton, List.head?_cons, beq_iff_eq, Option.some.injEq]
      exact eq_comm
    | x :: y :: rest, hlength => simp at hlength

theorem one_le_sub (h : a < b) : 1 ≤ b - a := by
  rw [UInt32.lt_iff_toNat_lt] at h
  have hb := b.toNat_lt
  rw [UInt32.le_iff_toNat_le, UInt32.toNat_sub, UInt32.toNat_one]
  omega

theorem checkedBridges_eq (hsorted : instrumentable.Pairwise (· ≤ ·)) (h : a < b) :
    checkedBridges instrumentable a b = some (bridges instrumentable a b) := by
  have hsearch : ∀ l, bisects l instrumentable = instrumentable.contains l := fun l => by
    rw [Bool.eq_iff_iff, bisects_iff hsorted, List.contains_iff_mem]
  have hnext : a.toNat + 1 < 2 ^ 32 := by
    have hb := b.toNat_lt
    rw [UInt32.lt_iff_toNat_lt] at h
    omega
  simp only [checkedBridges, bridges, difference?, successor?, if_pos (UInt32.le_of_lt h),
    if_pos (one_le_sub h), if_pos hnext, hsearch, Option.bind_eq_bind, Option.bind_some]
  by_cases hgap : b - a - 1 ≤ maxBridge
  · simp only [if_pos hgap, decide_eq_true hgap, Bool.true_and]
    rfl
  · simp only [if_neg hgap, decide_eq_false hgap, Bool.false_and]
    rfl

theorem checkedFrom_eq (hsorted : instrumentable.Pairwise (· ≤ ·)) (first : UInt32) {last : UInt32}
    (h : (last :: lines).Pairwise (· < ·)) :
    checkedFrom instrumentable first last lines =
      some (rangesFrom instrumentable first last lines) := by
  induction lines generalizing first last with
  | nil => rfl
  | cons line lines ih =>
    obtain ⟨hbefore, hrest⟩ := List.pairwise_cons.1 h
    rw [checkedFrom, checkedBridges_eq hsorted (hbefore line List.mem_cons_self), rangesFrom,
      Option.bind_eq_bind, Option.bind_some]
    cases bridges instrumentable last line with
    | true => exact ih first hrest
    | false =>
      simp only [Bool.false_eq_true, if_false, ih line hrest]
      rfl

end Coverage.Report
