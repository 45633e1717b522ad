import Coverage.Proofs.Text.Lines

/-!
# Characters with their offsets

Every character of a text has a byte offset of its own (`pairwise_located`). An offset between two
characters of a text splits what stands behind an earlier one (`Boundary.split`), and the characters
of the two parts have the offsets that they have in the whole (`located_append`). The line that a
character is on is told by the line feeds in front of it (`lineAt_append`).
-/

namespace Coverage.Text

/-- The characters of a text with their byte offsets, the first of which is given. -/
def located : Nat → List Char → List (Nat × Char)
  | _, [] => []
  | offset, c :: cs => (offset, c) :: located (offset + c.utf8Size) cs

variable {offset : Nat} {cs before rest : List Char}

theorem located_append (offset : Nat) (a b : List Char) :
    located offset (a ++ b) = located offset a ++ located (offset + byteLength a) b := by
  induction a generalizing offset with
  | nil => rfl
  | cons c a ih =>
    rw [List.cons_append, located, located, ih, byteLength_cons, Nat.add_assoc, List.cons_append]

@[simp] theorem map_snd_located (offset : Nat) (cs : List Char) :
    (located offset cs).map Prod.snd = cs := by
  induction cs generalizing offset with
  | nil => rfl
  | cons c cs ih => rw [located, List.map_cons, ih]

theorem mem_located {x : Nat × Char} (h : x ∈ located offset cs) :
    offset ≤ x.1 ∧ x.1 < offset + byteLength cs := by
  induction cs generalizing offset with
  | nil => cases h
  | cons c cs ih =>
    have hpos := c.utf8Size_pos
    rw [byteLength_cons]
    rcases List.mem_cons.1 h with rfl | h
    · dsimp only
      omega
    · have hrest := ih h
      omega

theorem pairwise_located (offset : Nat) (cs : List Char) :
    (located offset cs).Pairwise fun x y => x.1 < y.1 := by
  induction cs generalizing offset with
  | nil => exact .nil
  | cons c cs ih =>
    refine List.pairwise_cons.2 ⟨fun y hy => ?_, ih _⟩
    exact Nat.lt_of_lt_of_le (Nat.lt_add_of_pos_right c.utf8Size_pos) (mem_located hy).1

/-- What stands in front of a character and behind it. -/
theorem exists_of_mem_located {x : Nat × Char} (h : x ∈ located offset cs) :
    ∃ before behind, cs = before ++ x.2 :: behind ∧ x.1 = offset + byteLength before := by
  induction cs generalizing offset with
  | nil => cases h
  | cons c cs ih =>
    rcases List.mem_cons.1 h with rfl | h
    · exact ⟨[], cs, rfl, rfl⟩
    · obtain ⟨before, behind, hcs, hplace⟩ := ih h
      refine ⟨c :: before, behind, by rw [hcs, List.cons_append], ?_⟩
      rw [hplace, byteLength_cons, Nat.add_assoc]

/-- The characters in front of an offset are told by their offsets. -/
theorem filter_located_append (before behind : List Char) :
    (located 0 (before ++ behind)).filter (fun x => x.1 < byteLength before) =
      located 0 before := by
  have hbefore : ∀ x ∈ located 0 before, decide (x.1 < byteLength before) = true := by
    intro x hx
    have hlt := (mem_located hx).2
    rw [Nat.zero_add] at hlt
    exact decide_eq_true hlt
  have hbehind : ∀ x ∈ located (0 + byteLength before) behind,
      ¬ decide (x.1 < byteLength before) = true := by
    intro x hx
    have hle := (mem_located hx).1
    rw [Nat.zero_add] at hle
    exact fun hlt => Nat.not_lt.2 hle (of_decide_eq_true hlt)
  rw [located_append, List.filter_append, List.filter_eq_self.2 hbefore,
    List.filter_eq_nil_iff.2 hbehind, List.append_nil]

theorem eq_nil_of_byteLength (h : byteLength cs = 0) : cs = [] := by
  cases cs with
  | nil => rfl
  | cons c cs =>
    have hpos := c.utf8Size_pos
    rw [byteLength_cons] at h
    omega

/-- A later place between two characters splits what stands behind an earlier one. -/
theorem Boundary.split (h : Boundary (before ++ rest) offset) (hle : byteLength before ≤ offset) :
    ∃ part behind, rest = part ++ behind ∧ offset = byteLength before + byteLength part := by
  obtain ⟨front, behind, hsrc, rfl⟩ := h
  rcases List.append_eq_append_iff.1 hsrc with ⟨part, rfl, hrest⟩ | ⟨part, rfl, hrest⟩
  · exact ⟨part, behind, hrest, byteLength_append _ _⟩
  · rw [byteLength_append] at hle
    have hnil : part = [] := eq_nil_of_byteLength (by omega)
    subst hnil
    exact ⟨[], rest, rfl, by rw [List.append_nil, byteLength_nil, Nat.add_zero]⟩

/-- A character between two places is one of those that stand between them. -/
theorem mem_slice_of_located {src : List Char} {start stop : Nat} (hstart : Boundary src start)
    (hstop : Boundary src stop) {x : Nat × Char} (h : x ∈ located 0 src) (hle : start ≤ x.1)
    (hlt : x.1 < stop) : x.2 ∈ slice start stop src := by
  obtain ⟨before, rest, rfl, rfl⟩ := hstart
  obtain ⟨part, behind, rfl, rfl⟩ := hstop.split (by omega)
  rw [slice, dropBytes_byteLength, Nat.add_sub_cancel_left, takeBytes_byteLength]
  rw [located_append, located_append, Nat.zero_add] at h
  rcases List.mem_append.1 h with h | h
  · have hbefore := (mem_located h).2
    omega
  rcases List.mem_append.1 h with h | h
  · have hmem := List.mem_map_of_mem (f := Prod.snd) h
    rwa [map_snd_located] at hmem
  · have hbehind := (mem_located h).1
    omega

/-! ### Lines -/

/-- The line that an offset is on. -/
def lineAt (src : List Char) (offset : Nat) : Nat := (walk 1 0 src offset).1

/-- The line that a place is on is told by the line feeds in front of it. -/
theorem lineAt_append (before behind : List Char) :
    lineAt (before ++ behind) (byteLength before) = 1 + before.count '\n' := by
  rw [lineAt, walk_place]

end Coverage.Text
