import Coverage.Proofs.Location
import Coverage.Text.Lines
import Mathlib.Algebra.Ring.Nat
import Mathlib.Data.List.DropRight

/-!
# Positions grow with offsets

A column is at most as great as the offset. The line of a place between two characters counts the
line feeds in front of it, and its column the units behind the last of them (`walk_place`). Of two
such places the later one has the later position, as long as the numbers of a position can count the
lines and columns (`PositionsFit`).
-/

namespace Coverage.Text

/-! ### Columns -/

theorem charUnits_le_utf8Size (c : Char) : charUnits c ≤ c.utf8Size := by
  have hone : 0 < c.utf8Size := c.utf8Size_pos
  rw [charUnits]
  split
  · exact hone
  · next h =>
    rw [Char.utf8Size]
    split
    · next hsmall => exact absurd (UInt32.lt_of_le_of_lt hsmall (by decide)) h
    split
    · decide
    split <;> decide

/-- A column is at most as great as the offset. -/
theorem walk_column_le (src : List Char) (line column offset : Nat) :
    (walk line column src offset).2 ≤ column + offset := by
  induction src generalizing line column offset with
  | nil => cases offset <;> simp [walk]
  | cons c cs ih =>
    cases offset with
    | zero => simp [walk]
    | succ offset =>
      have hunits := charUnits_le_utf8Size c
      rw [walk]
      split
      · split
        · have h := ih (line + 1) 0 (offset + 1 - c.utf8Size)
          omega
        · have h := ih line (column + charUnits c) (offset + 1 - c.utf8Size)
          omega
      · exact Nat.zero_le _

theorem exists_column_position (src : List Char) (offset : Nat) :
    ∃ column ≤ offset, (position src offset).column = Int64.ofNat column :=
  ⟨_, (Nat.zero_add offset).subst (walk_column_le src 1 0 offset), rfl⟩

/-! ### Places between characters -/

/-- An offset lies between two characters of a text, or at one of its ends. -/
def Boundary (src : List Char) (offset : Nat) : Prop :=
  ∃ before behind, src = before ++ behind ∧ byteLength before = offset

theorem boundary_of_byteLength {src : List Char} {offset : Nat}
    (h : byteLength (takeBytes offset src) = offset) : Boundary src offset :=
  ⟨takeBytes offset src, dropBytes offset src, (takeBytes_append_dropBytes offset src).symm, h⟩

theorem dropBytes_byteLength (a b : List Char) : dropBytes (byteLength a) (a ++ b) = b := by
  induction a with
  | nil => cases b <;> rfl
  | cons c a ih =>
    have hpos : 0 < byteLength (c :: a) := Nat.add_pos_left c.utf8Size_pos _
    obtain ⟨n, hn⟩ := Nat.exists_eq_add_one.2 hpos
    have hrest : n + 1 - c.utf8Size = byteLength a := by
      rw [← hn, byteLength, Nat.add_sub_cancel_left]
    rw [hn, List.cons_append, dropBytes, hrest, ih]

theorem takeBytes_byteLength (a b : List Char) : takeBytes (byteLength a) (a ++ b) = a := by
  have hsplit := takeBytes_append_dropBytes (byteLength a) (a ++ b)
  rw [dropBytes_byteLength] at hsplit
  exact List.append_cancel_right hsplit

/-- The line and the column behind a character. -/
def advance (place : Nat × Nat) (c : Char) : Nat × Nat :=
  if c = '\n' then (place.1 + 1, 0) else (place.1, place.2 + charUnits c)

theorem walk_append (line column : Nat) (before behind : List Char) :
    walk line column (before ++ behind) (byteLength before) =
      before.foldl advance (line, column) := by
  induction before generalizing line column with
  | nil => cases behind <;> rfl
  | cons c cs ih =>
    obtain ⟨n, hn⟩ := Nat.exists_eq_succ_of_ne_zero (Nat.ne_of_gt c.utf8Size_pos)
    have hlength : byteLength (c :: cs) = n + byteLength cs + 1 := by
      rw [byteLength_cons, hn]
      omega
    have hfits : c.utf8Size ≤ n + byteLength cs + 1 := by omega
    have hrest : n + byteLength cs + 1 - c.utf8Size = byteLength cs := by omega
    rw [hlength, List.cons_append, walk, if_pos hfits, hrest, List.foldl_cons, advance]
    split
    · exact ih (line + 1) 0
    · exact ih line (column + charUnits c)

/-- The line of a place counts the line feeds in front of it. -/
theorem fst_foldl_advance (cs : List Char) (place : Nat × Nat) :
    (cs.foldl advance place).1 = place.1 + cs.count '\n' := by
  induction cs generalizing place with
  | nil => rfl
  | cons c cs ih =>
    rw [List.foldl_cons, ih, advance, List.count_cons]
    by_cases hfeed : c = '\n' <;> simp [hfeed, Nat.add_assoc, Nat.add_comm 1]

/-- The column of a place counts the units behind the last line feed in front of it. -/
theorem snd_foldl_advance (cs : List Char) (line : Nat) :
    (cs.foldl advance (line, 0)).2 = units16 (cs.rtakeWhile (· ≠ '\n')) := by
  induction cs using List.reverseRecOn with
  | nil => rfl
  | append_singleton cs c ih =>
    rw [List.foldl_append, List.foldl_cons, List.foldl_nil, advance, List.rtakeWhile_concat]
    by_cases hfeed : c = '\n' <;> simp [hfeed, ih]

/-- At a place a walk has counted the line feeds in front of it and the units behind the last. -/
theorem walk_place (before behind : List Char) :
    walk 1 0 (before ++ behind) (byteLength before) =
      (1 + before.count '\n', units16 (before.rtakeWhile (· ≠ '\n'))) := by
  rw [walk_append]
  exact Prod.ext (fst_foldl_advance before (1, 0)) (snd_foldl_advance before 1)

/-- Characters lead to a later line, or on the same line at least one column further each. -/
theorem advance_foldl (cs : List Char) (place : Nat × Nat) :
    place.1 < (cs.foldl advance place).1 ∨
      place.1 = (cs.foldl advance place).1 ∧
        place.2 + cs.length ≤ (cs.foldl advance place).2 := by
  induction cs generalizing place with
  | nil => exact .inr ⟨rfl, Nat.le_refl _⟩
  | cons c cs ih =>
    have hunits := charUnits_pos c
    have hrest := ih (advance place c)
    rw [List.foldl_cons, List.length_cons]
    rw [advance] at hrest ⊢
    split at hrest
    · rename_i hfeed
      rw [if_pos hfeed]
      omega
    · rename_i hfeed
      rw [if_neg hfeed]
      omega

/-- Lines and columns are no more than the bytes. -/
theorem foldl_advance_le (cs : List Char) (place : Nat × Nat) :
    (cs.foldl advance place).1 ≤ place.1 + byteLength cs ∧
      (cs.foldl advance place).2 ≤ place.2 + byteLength cs := by
  induction cs generalizing place with
  | nil => exact ⟨Nat.le_refl _, Nat.le_refl _⟩
  | cons c cs ih =>
    have hunits := charUnits_le_utf8Size c
    have hpos := c.utf8Size_pos
    have hrest := ih (advance place c)
    rw [List.foldl_cons, byteLength_cons]
    rw [advance] at hrest ⊢
    split at hrest
    · rename_i hfeed
      rw [if_pos hfeed]
      omega
    · rename_i hfeed
      rw [if_neg hfeed]
      omega

/-- The lines of a text can be counted in 32 bits, and the text is no longer than 63 bits can
count, which is more than fits in any memory. -/
structure PositionsFit (src : List Char) : Prop where
  line : 1 + src.count '\n' < 2 ^ 32
  column : byteLength src < 2 ^ 63

theorem PositionsFit.of_small {src : List Char} (h : byteLength src < 2 ^ 32 - 1) :
    PositionsFit src := by
  have hle := (foldl_advance_le src (1, 0)).1
  rw [fst_foldl_advance] at hle
  constructor <;> omega

theorem toNat_line_position {before behind : List Char} (hfit : PositionsFit (before ++ behind)) :
    (position (before ++ behind) (byteLength before)).line.toNat =
      (before.foldl advance (1, 0)).1 := by
  have hline := hfit.line
  rw [List.count_append] at hline
  show (UInt32.ofNat (walk 1 0 (before ++ behind) (byteLength before)).1).toNat = _
  rw [walk_append, UInt32.toNat_ofNat_of_lt']
  rw [fst_foldl_advance]
  show _ < 2 ^ 32
  omega

theorem toInt_column_position {before behind : List Char}
    (hfit : PositionsFit (before ++ behind)) :
    (position (before ++ behind) (byteLength before)).column.toInt =
      (before.foldl advance (1, 0)).2 := by
  have hcolumn := hfit.column
  have hle := (foldl_advance_le before (1, 0)).2
  rw [byteLength_append] at hcolumn
  show (Int64.ofNat (walk 1 0 (before ++ behind) (byteLength before)).2).toInt = _
  rw [walk_append, Int64.toInt_ofNat_of_lt]
  omega

/-- Of two places between characters the one with the later position is the later one. -/
theorem le_of_position_le {src : List Char} (hfit : PositionsFit src) {a b : Nat}
    (ha : Boundary src a) (hb : Boundary src b)
    (h : (position src a).le (position src b) = true) : a ≤ b := by
  obtain ⟨before, behind, hsrc, rfl⟩ := ha
  obtain ⟨before', behind', hsrc', rfl⟩ := hb
  rcases List.append_eq_append_iff.1 (hsrc.symm.trans hsrc') with
    ⟨between, hb, -⟩ | ⟨between, hb, -⟩
  · rw [hb, byteLength_append]
    exact Nat.le_add_right _ _
  · -- The place `a` is the later one, so its position is not before that of `b`.
    rw [Position.le_iff] at h
    have hline := toNat_line_position (hsrc ▸ hfit)
    have hcolumn := toInt_column_position (hsrc ▸ hfit)
    have hline' := toNat_line_position (hsrc' ▸ hfit)
    have hcolumn' := toInt_column_position (hsrc' ▸ hfit)
    rw [← hsrc] at hline hcolumn
    rw [← hsrc'] at hline' hcolumn'
    rw [hline, hcolumn, hline', hcolumn', hb, List.foldl_append] at h
    have hlater := advance_foldl between (before'.foldl advance (1, 0))
    have hnone : between = [] := by
      rw [← List.length_eq_zero_iff]
      omega
    have hsame : before = before' := by rw [hb, hnone, List.append_nil]
    exact Nat.le_of_eq (congrArg byteLength hsame)

end Coverage.Text
