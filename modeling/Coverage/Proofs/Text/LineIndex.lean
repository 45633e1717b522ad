import Coverage.Proofs.Text.Lines

/-!
# Positions tell places apart

The starts of the lines increase (`pairwise_feedEnds`), so bisection counts those that are not
behind an offset (`partitionPoint_eq_countP`), and the last of these is where the line feeds in
front of the offset end (`LineIndex.lineStart_eq`). An index therefore comes to the position that a
walk through the text comes to, at every offset (`LineIndex.position_eq`). The main result is
`position_spec`: a position counts the line feeds in front of a place and the UTF-16 units behind the
last of them, and increases from one place between two characters to the next.
-/

namespace Coverage.Text

/-! ### Bisection -/

/-- Bisection finds how many elements satisfy a predicate, if these stand in front of the others. -/
theorem partitionPoint_eq_countP {α : Type} {p : α → Bool} {l : List α}
    (h : l.Pairwise fun a b => p b = true → p a = true) : partitionPoint p l = l.countP p := by
  fun_induction partitionPoint p l with
  | case1 l hlength hp ih =>
    have hsplit := List.take_append_drop (l.length / 2) l
    rw [List.drop_eq_getElem_cons (by omega)] at hsplit
    have hfront : ∀ a ∈ l.take (l.length / 2), p a = true := by
      rw [← hsplit] at h
      intro a ha
      exact (List.pairwise_append.1 h).2.2 a ha _ List.mem_cons_self hp
    rw [ih (h.sublist (List.drop_sublist _ _))]
    conv_rhs => rw [← hsplit, List.countP_append, List.countP_cons_of_pos hp,
      List.countP_eq_length.2 hfront, List.length_take]
    omega
  | case2 l hlength hp ih =>
    have hsplit := List.take_append_drop (l.length / 2) l
    rw [List.drop_eq_getElem_cons (by omega)] at hsplit
    have hback : ∀ a ∈ l.drop (l.length / 2 + 1), ¬ p a = true := by
      rw [← hsplit] at h
      intro a ha hpa
      exact hp ((List.pairwise_cons.1 (List.pairwise_append.1 h).2.1).1 a ha hpa)
    rw [ih (h.sublist (List.take_sublist _ _))]
    conv_rhs => rw [← hsplit, List.countP_append, List.countP_cons_of_neg hp,
      List.countP_eq_zero.2 hback, Nat.add_zero]
  | case3 l hlength =>
    rw [List.length_eq_zero_iff.1 (Nat.eq_zero_of_not_pos hlength), List.countP_nil]

/-! ### The starts of the lines -/

theorem feedEnds_append (offset : Nat) (a b : List Char) :
    feedEnds offset (a ++ b) = feedEnds offset a ++ feedEnds (offset + byteLength a) b := by
  induction a generalizing offset with
  | nil => rfl
  | cons c a ih =>
    rw [List.cons_append, feedEnds, feedEnds, ih, byteLength_cons, Nat.add_assoc]
    split
    · rfl
    · rfl

theorem mem_feedEnds {offset x : Nat} {cs : List Char} (h : x ∈ feedEnds offset cs) :
    offset < x ∧ x ≤ offset + byteLength cs := by
  induction cs generalizing offset with
  | nil => cases h
  | cons c cs ih =>
    have hpos := c.utf8Size_pos
    rw [feedEnds] at h
    rw [byteLength_cons]
    split at h
    · rcases List.mem_cons.1 h with rfl | h
      · omega
      · have hrest := ih h
        omega
    · have hrest := ih h
      omega

theorem pairwise_feedEnds (offset : Nat) (cs : List Char) :
    (feedEnds offset cs).Pairwise (· < ·) := by
  induction cs generalizing offset with
  | nil => exact .nil
  | cons c cs ih =>
    rw [feedEnds]
    split
    · refine List.pairwise_cons.2 ⟨fun x hx => ?_, ih _⟩
      have hpos := c.utf8Size_pos
      have hlt := (mem_feedEnds hx).1
      omega
    · exact ih _

theorem length_feedEnds (offset : Nat) (cs : List Char) :
    (feedEnds offset cs).length = cs.count '\n' := by
  induction cs generalizing offset with
  | nil => rfl
  | cons c cs ih =>
    rw [feedEnds]
    by_cases hfeed : c = '\n' <;> simp [hfeed, ih]

/-- The line that contains the end of a text starts where its last line feed ends. -/
theorem getLast?_starts (cs : List Char) :
    (0 :: feedEnds 0 cs).getLast? = some (byteLength (cs.rdropWhile (· ≠ '\n'))) := by
  induction cs using List.reverseRecOn with
  | nil => rfl
  | append_singleton cs c ih =>
    have hone : '\n'.utf8Size = 1 := by decide
    rw [feedEnds_append, List.rdropWhile_concat, Nat.zero_add]
    by_cases hfeed : c = '\n'
    · simp [hfeed, feedEnds, hone, List.getLast?_cons]
    · simpa [hfeed, feedEnds] using ih

/-- An index counts the line feeds that end no later than an offset. -/
theorem LineIndex.line_eq (ix : LineIndex) (offset : Nat) :
    ix.line offset = 1 + (feedEnds 0 ix.source).countP (· ≤ offset) := by
  have hsorted : ix.starts.Pairwise (· < ·) := by
    rw [ix.starts_eq]
    exact List.pairwise_cons.2 ⟨fun x hx => (mem_feedEnds hx).1, pairwise_feedEnds 0 _⟩
  rw [line, partitionPoint_eq_countP, ix.starts_eq, List.countP_cons_of_pos (by simp), Nat.add_comm]
  refine hsorted.imp fun {a b} hlt hb => ?_
  have hle : b ≤ offset := of_decide_eq_true hb
  exact decide_eq_true (by omega)

/-! ### What a walk counts -/

theorem countP_feedEnds_eq_zero {base k : Nat} (cs : List Char) (h : k ≤ base) :
    (feedEnds base cs).countP (· ≤ k) = 0 := by
  refine List.countP_eq_zero.2 fun x hx => ?_
  have hlt := (mem_feedEnds hx).1
  simp only [decide_eq_true_eq]
  omega

/-- A walk counts the line feeds that end no later than its offset. -/
theorem fst_walk (base line column : Nat) (cs : List Char) (n : Nat) :
    (walk line column cs n).1 = line + (feedEnds base cs).countP (· ≤ base + n) := by
  induction cs generalizing base line column n with
  | nil => cases n <;> rfl
  | cons c cs ih =>
    cases n with
    | zero => rw [walk, countP_feedEnds_eq_zero _ (Nat.le_of_eq (Nat.add_zero base)), Nat.add_zero]
    | succ n =>
      rw [walk, feedEnds]
      by_cases hle : c.utf8Size ≤ n + 1
      · have hshift : base + (n + 1) = base + c.utf8Size + (n + 1 - c.utf8Size) := by omega
        rw [if_pos hle]
        by_cases hfeed : c = '\n'
        · rw [if_pos hfeed, if_pos hfeed, ih (base + c.utf8Size), ← hshift,
            List.countP_cons_of_pos (by simp), Nat.add_assoc, Nat.add_comm 1]
        · rw [if_neg hfeed, if_neg hfeed, ih (base + c.utf8Size), ← hshift]
      · have hfeed : c ≠ '\n' := by
          rintro rfl
          exact hle (Nat.succ_le_succ (Nat.zero_le n))
        rw [if_neg hle, if_neg hfeed, countP_feedEnds_eq_zero _ (by omega), Nat.add_zero]

/-- Off the places between characters a walk has column zero. -/
theorem snd_walk_of_ne (line column : Nat) {cs : List Char} {n : Nat}
    (h : byteLength (takeBytes n cs) ≠ n) : (walk line column cs n).2 = 0 := by
  induction cs generalizing line column n with
  | nil =>
    cases n with
    | zero => exact absurd rfl h
    | succ n => rfl
  | cons c cs ih =>
    cases n with
    | zero => exact absurd rfl h
    | succ n =>
      rw [takeBytes, byteLength_cons] at h
      rw [walk]
      split
      · next hle =>
        have hrest : byteLength (takeBytes (n + 1 - c.utf8Size) cs) ≠ n + 1 - c.utf8Size := by omega
        split
        · exact ih _ _ hrest
        · exact ih _ _ hrest
      · rfl

/-! ### An index comes to the position of a walk -/

theorem boundary_iff {src : List Char} {offset : Nat} :
    Boundary src offset ↔ byteLength (takeBytes offset src) = offset := by
  refine ⟨?_, boundary_of_byteLength⟩
  rintro ⟨before, behind, rfl, rfl⟩
  rw [takeBytes_byteLength]

/-- What stands between two places is the part between them. -/
theorem part?_append (front part behind : List Char) :
    part? (byteLength front) (byteLength (front ++ part)) (front ++ part ++ behind) =
      some part := by
  have hle : byteLength front ≤ byteLength (front ++ part) := by
    rw [byteLength_append]
    exact Nat.le_add_right _ _
  have hstart : byteLength (takeBytes (byteLength front) (front ++ part ++ behind)) =
      byteLength front := by
    rw [List.append_assoc, takeBytes_byteLength]
  have hstop : byteLength (takeBytes (byteLength (front ++ part)) (front ++ part ++ behind)) =
      byteLength (front ++ part) := by
    rw [takeBytes_byteLength]
  rw [part?, if_pos ⟨hle, hstart, hstop⟩, slice, List.append_assoc, dropBytes_byteLength,
    byteLength_append, Nat.add_sub_cancel_left, takeBytes_byteLength]

namespace LineIndex

variable {ix : LineIndex} {before behind : List Char}

/-- The line of a place starts where the last line feed in front of the place ends. -/
theorem lineStart_eq (h : ix.source = before ++ behind) :
    ix.lineStart (1 + before.count '\n') = byteLength (before.rdropWhile (· ≠ '\n')) := by
  have hlast := getLast?_starts before
  rw [List.getLast?_eq_getElem?, List.length_cons, length_feedEnds, Nat.add_sub_cancel] at hlast
  rw [lineStart, if_neg (by omega), Nat.add_sub_cancel_left, ix.starts_eq, h, feedEnds_append,
    ← List.cons_append, List.getD_eq_getElem?_getD, List.getElem?_append_left, hlast,
    Option.getD_some]
  rw [List.length_cons, length_feedEnds]
  exact Nat.lt_succ_self _

/-- An index and a walk come to the same line. -/
theorem line_eq_walk (ix : LineIndex) (offset : Nat) :
    ix.line offset = (walk 1 0 ix.source offset).1 := by
  rw [ix.line_eq, fst_walk 0, Nat.zero_add]

/-- The column of a place counts the units behind the last line feed in front of it. -/
theorem column_eq (h : ix.source = before ++ behind) :
    ix.column (byteLength before) = units16 (before.rtakeWhile (· ≠ '\n')) := by
  have hsplit : before.rdropWhile (· ≠ '\n') ++ before.rtakeWhile (· ≠ '\n') = before :=
    List.rdropWhile_append_rtakeWhile
  have hpart := part?_append (before.rdropWhile (· ≠ '\n')) (before.rtakeWhile (· ≠ '\n')) behind
  rw [hsplit] at hpart
  rw [column, line_eq_walk, h, walk_place, lineStart_eq h, hpart, Option.elim_some, length_utf16]

/-- An index and a walk come to the same column. -/
theorem column_eq_walk (ix : LineIndex) (offset : Nat) :
    ix.column offset = (walk 1 0 ix.source offset).2 := by
  by_cases hplace : Boundary ix.source offset
  · obtain ⟨before, behind, hsrc, rfl⟩ := hplace
    rw [column_eq hsrc, hsrc, walk_place]
  · rw [boundary_iff] at hplace
    rw [snd_walk_of_ne 1 0 hplace, column, part?, if_neg fun h => hplace h.2.2]
    rfl

/-- An index comes to the position that a walk comes to. -/
theorem position_eq (ix : LineIndex) (offset : Nat) :
    ix.position offset = Text.position ix.source offset := by
  have hpos : 1 ≤ ix.line offset := by
    rw [ix.line_eq]
    exact Nat.le_add_right 1 _
  rw [position, Nat.max_eq_left hpos, line_eq_walk, column_eq_walk]
  rfl

/-- The position of a place counts the line feeds in front of it and the units behind the last. -/
theorem position_place (h : ix.source = before ++ behind) :
    ix.position (byteLength before) = ⟨UInt32.ofNat (1 + before.count '\n'),
      Int64.ofNat (utf16 (before.rtakeWhile (· ≠ '\n'))).length⟩ := by
  rw [position_eq, Text.position, h, walk_place, length_utf16]

end LineIndex

/-! ### Positions increase -/

/-- Of two places the one in front has the position in front. -/
theorem before_of_lt {src : List Char} (hfit : PositionsFit src) {a b : Nat}
    (ha : Boundary src a) (hb : Boundary src b) (h : a < b) :
    (position src a).Before (position src b) := by
  rw [Position.before_iff]
  intro hle
  exact Nat.not_le_of_lt h (le_of_position_le hfit hb ha hle)

/-- Places with one position are one place. -/
theorem eq_of_position_eq {src : List Char} (hfit : PositionsFit src) {a b : Nat}
    (ha : Boundary src a) (hb : Boundary src b) (h : position src a = position src b) : a = b := by
  apply Nat.le_antisymm
  · apply le_of_position_le hfit ha hb
    rw [h]
    exact Position.linear_le.refl _
  · apply le_of_position_le hfit hb ha
    rw [h]
    exact Position.linear_le.refl _

/-- For a place between two characters of its text, or at one of the ends, an index gives the
position whose line is one more than the number of line feeds in front of the place, and whose column
is the number of UTF-16 units behind the last of them. Where the numbers of a position can count
these, positions increase from one place to the next, and no two places share one. At every other
offset, too, the position is that of a walk to there. -/
theorem position_spec (ix : LineIndex) :
    (∀ offset, ix.position offset = position ix.source offset) ∧
    (∀ before behind, ix.source = before ++ behind →
      ix.position (byteLength before) = ⟨UInt32.ofNat (1 + before.count '\n'),
        Int64.ofNat (utf16 (before.rtakeWhile (· ≠ '\n'))).length⟩) ∧
    (PositionsFit ix.source →
      (∀ before behind, ix.source = before ++ behind →
        (ix.position (byteLength before)).line.toNat = 1 + before.count '\n' ∧
        (ix.position (byteLength before)).column.toInt =
          (utf16 (before.rtakeWhile (· ≠ '\n'))).length) ∧
      (∀ a b, Boundary ix.source a → Boundary ix.source b → a < b →
        (ix.position a).Before (ix.position b)) ∧
      ∀ a b, Boundary ix.source a → Boundary ix.source b →
        ix.position a = ix.position b → a = b) := by
  refine ⟨ix.position_eq, fun before behind => LineIndex.position_place, fun hfit => ⟨?_, ?_, ?_⟩⟩
  · intro before behind hsrc
    rw [hsrc] at hfit
    rw [ix.position_eq, hsrc, toNat_line_position hfit, toInt_column_position hfit,
      fst_foldl_advance, snd_foldl_advance, length_utf16]
    exact ⟨rfl, rfl⟩
  · intro a b ha hb hlt
    rw [ix.position_eq, ix.position_eq]
    exact before_of_lt hfit ha hb hlt
  · intro a b ha hb heq
    rw [ix.position_eq, ix.position_eq] at heq
    exact eq_of_position_eq hfit ha hb heq

/-- In the text `ab␊😀x␊y` the smiley takes four bytes and two units: the place behind it is that of
offset seven, in column two of line two, in front of the end of the text in line three. -/
theorem position_spec_wideCharacter :
    let ix := LineIndex.of ['a', 'b', '\n', '😀', 'x', '\n', 'y']
    PositionsFit ix.source ∧ Boundary ix.source 7 ∧ Boundary ix.source 10 ∧
      ix.position 7 = ⟨2, 2⟩ ∧ (ix.position 7).column.toInt = 2 ∧
      (ix.position 7).Before (ix.position 10) ∧ ix.position 7 ≠ ix.position 10 := by
  intro ix
  have hfit : PositionsFit ix.source := PositionsFit.of_small (by decide)
  have hsmiley : Boundary ix.source 7 := ⟨['a', 'b', '\n', '😀'], ['x', '\n', 'y'], rfl, rfl⟩
  have hend : Boundary ix.source 10 := ⟨ix.source, [], rfl, rfl⟩
  obtain ⟨-, hposition, hcounts⟩ := position_spec ix
  obtain ⟨hcount, hincreasing, hinjective⟩ := hcounts hfit
  refine ⟨hfit, hsmiley, hend, ?_, ?_, ?_, ?_⟩
  · exact hposition ['a', 'b', '\n', '😀'] ['x', '\n', 'y'] rfl
  · exact (hcount ['a', 'b', '\n', '😀'] ['x', '\n', 'y'] rfl).2
  · exact hincreasing 7 10 hsmiley hend (by decide)
  · intro heq
    exact absurd (hinjective 7 10 hsmiley hend heq) (by decide)

end Coverage.Text
