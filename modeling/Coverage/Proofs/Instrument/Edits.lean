import Coverage.Proofs.Instrument.Placement
import Mathlib.Algebra.Ring.Nat

/-!
# What is put in front of all other edits

A text that is put in front of all others comes out between the two parts of the source, unless it
stands within a range that is replaced (`apply_prepend`, `apply_prepend_replace_of_lt`,
`apply_prepend_replace_of_le`). One that stands within such a range is lost
(`apply_prepend_replace_of_covers`).
-/

namespace Coverage.Instrument

/-! ### The order of edits -/

namespace Edit

theorem before_iff {a b : Edit} : a.before b = true ↔ a.start < b.start ∨ a.start = b.start ∧
    (a.kind.rank < b.kind.rank ∨ a.kind.rank = b.kind.rank ∧ a.order ≤ b.order) := by
  simp [before]

theorem before_trans (a b c : Edit) (hab : a.before b = true) (hbc : b.before c = true) :
    a.before c = true := by
  rw [before_iff] at *
  omega

theorem before_total (a b : Edit) : (a.before b || b.before a) = true := by
  rw [Bool.or_eq_true, before_iff, before_iff]
  omega

theorem rank_inj {a b : EditKind} (h : a.rank = b.rank) : a = b := by
  cases a <;> cases b <;> first | rfl | cases h

theorem turn_of_order {a b : Edit} (hkind : a.kind = b.kind) (h : a.order = b.order) :
    a.turn = b.turn := by
  rw [order, order, hkind] at h
  split at h <;> omega

end Edit

namespace Edits

theorem start_le_of_before {a b : Edit} (h : a.before b = true) : a.start ≤ b.start := by
  rw [Edit.before_iff] at h
  omega

/-- Of edits with different turns two are made in one order only. -/
theorem eq_of_before {l : List Edit} (hturns : (l.map (·.turn)).Nodup) {a b : Edit} (ha : a ∈ l)
    (hb : b ∈ l) (hab : a.before b = true) (hba : b.before a = true) : a = b := by
  have hplace := Edit.before_iff.1 hab
  have hplace' := Edit.before_iff.1 hba
  have hkind : a.kind = b.kind := Edit.rank_inj (by omega)
  have hturn : a.turn = b.turn := Edit.turn_of_order hkind (by omega)
  exact List.inj_on_of_nodup_map hturns ha hb hturn

/-- Edits of different turns have one order. -/
theorem mergeSort_eq {l l' : List Edit} (hturns : (l.map (·.turn)).Nodup) (hperm : l'.Perm l)
    (hsorted : l'.Pairwise fun a b => a.before b = true) : l.mergeSort Edit.before = l' := by
  have hsort := List.pairwise_mergeSort Edit.before_trans Edit.before_total l
  have hmem := List.mergeSort_perm l Edit.before
  exact (hmem.trans hperm.symm).eq_of_pairwise
    (fun a b ha hb => eq_of_before hturns (hmem.subset ha) (hperm.subset hb)) hsort hsorted

/-! ### Edits behind an offset -/

/-- Insertions behind an offset, in the order of their turns: what opens something may stand there,
but what closes something may not. -/
structure Behind (bound : Nat) (es : Edits) : Prop where
  kind : ∀ e ∈ es.edits, e.kind ≠ .replacing
  opening : ∀ e ∈ es.edits, bound ≤ e.start
  closing : ∀ e ∈ es.edits, e.kind = .closing → bound < e.start
  turns : es.edits.Pairwise fun a b => a.turn < b.turn
  turn : ∀ e ∈ es.edits, 0 < e.turn ∧ e.turn < es.turn
  next : 0 < es.turn

variable {bound : Nat} {es : Edits}

theorem behind_empty (bound : Nat) : empty.Behind bound :=
  ⟨nofun, nofun, nofun, .nil, nofun, Nat.one_pos⟩

theorem Behind.add (h : es.Behind bound) {offset : Nat} {kind : EditKind} {text : String}
    (hkind : kind ≠ .replacing) (hoffset : bound ≤ offset)
    (hclosing : kind = .closing → bound < offset) :
    (es.add offset offset kind text).Behind bound := by
  have hall : ∀ {p : Edit → Prop}, (∀ e ∈ es.edits, p e) → p ⟨offset, offset, kind, es.turn, text⟩ →
      ∀ e ∈ (es.add offset offset kind text).edits, p e := by
    intro p hold hnew e he
    rcases List.mem_append.1 he with he | he
    · exact hold e he
    · exact List.mem_singleton.1 he ▸ hnew
  refine ⟨hall h.kind hkind, hall h.opening hoffset, hall h.closing hclosing, ?_, ?_,
    Nat.succ_pos _⟩
  · refine List.pairwise_append.2 ⟨h.turns, List.pairwise_singleton _ _, fun a ha b hb => ?_⟩
    exact List.mem_singleton.1 hb ▸ (h.turn a ha).2
  · exact hall (fun e he => ⟨(h.turn e he).1, Nat.lt_succ_of_lt (h.turn e he).2⟩)
      ⟨h.next, Nat.lt_succ_self _⟩

theorem Behind.openAt (h : es.Behind bound) {offset : Nat} (hoffset : bound ≤ offset)
    (text : String) : (es.openAt offset text).Behind bound :=
  h.add nofun hoffset nofun

theorem Behind.closeAt (h : es.Behind bound) {offset : Nat} (hoffset : bound < offset)
    (text : String) : (es.closeAt offset text).Behind bound :=
  h.add nofun (Nat.le_of_lt hoffset) fun _ => hoffset

theorem Behind.addTo (h : es.Behind bound) (accessor : String) {m : Mark} (hm : m.Behind bound) :
    (m.addTo accessor es).Behind bound := by
  cases m with
  | count offset c => exact h.openAt hm _
  | entry offset semicolon c => exact h.openAt hm _
  | pair start stop c => exact (h.openAt hm.1 _).closeAt hm.2 _
  | block start stop => exact (h.openAt hm.1 _).closeAt hm.2 _
  | body start stop f s => exact (h.openAt hm.1 _).closeAt hm.2 _
  | alternative offset c => exact h.closeAt hm _

/-- The edits of marks behind an offset are behind it. -/
theorem behind_edits (accessor : String) {marks : List Mark} (h : ∀ m ∈ marks, m.Behind bound) :
    (Mark.edits accessor marks).Behind bound := by
  have hrun : ∀ es : Edits, es.Behind bound →
      (marks.foldl (Mark.addTo accessor) es).Behind bound := by
    induction marks with
    | nil => exact fun es hes => hes
    | cons m rest ih =>
      obtain ⟨hm, hrest⟩ := List.forall_mem_cons.1 h
      exact fun es hes => ih hrest _ (hes.addTo accessor hm)
  exact hrun .empty (behind_empty bound)

/-! ### What comes first -/

/-- What is put in front of all others at an offset. -/
def first (offset : Nat) (text : String) : Edit := ⟨offset, offset, .opening, 0, text⟩

/-- The replacement of a range that is added last. -/
def last (es : Edits) (start stop : Nat) (text : String) : Edit :=
  ⟨start, stop, .replacing, es.turn, text⟩

theorem Behind.nodup_turns (h : es.Behind bound) {e r : Edit} (he : e.turn = 0)
    (hr : r.turn = es.turn) : ((es.edits ++ [e, r]).map (·.turn)).Nodup := by
  refine List.pairwise_map.2 (List.pairwise_append.2 ⟨h.turns.imp Nat.ne_of_lt, ?_, ?_⟩)
  · refine List.pairwise_pair.2 ?_
    rw [he, hr]
    exact Nat.ne_of_lt h.next
  · intro a ha b hb
    obtain ⟨hpos, hlt⟩ := h.turn a ha
    simp only [List.mem_cons, List.not_mem_nil, or_false] at hb
    rcases hb with rfl | rfl
    · exact he ▸ (Nat.ne_of_lt hpos).symm
    · exact hr ▸ Nat.ne_of_lt hlt

theorem Behind.first_before (h : es.Behind bound) (text : String) {e : Edit} (he : e ∈ es.edits) :
    (first bound text).before e = true := by
  have hopening := h.opening e he
  have hclosing := h.closing e he
  have hkind := h.kind e he
  rw [Edit.before_iff]
  cases hk : e.kind with
  | closing => exact .inl (hclosing hk)
  | replacing => exact absurd hk hkind
  | opening =>
    have horder : e.order = e.turn := by rw [Edit.order, hk]
    rcases Nat.lt_or_eq_of_le hopening with hlt | heq
    · exact .inl hlt
    · refine .inr ⟨heq, .inr ⟨rfl, ?_⟩⟩
      rw [horder]
      exact Int.natCast_nonneg _

theorem Behind.last_before (h : es.Behind bound) {start : Nat} (hstart : start ≤ bound)
    (stop : Nat) (text : String) {e : Edit} (he : e ∈ es.edits) :
    (es.last start stop text).before e = true := by
  have hopening := h.opening e he
  have hclosing := h.closing e he
  have hkind := h.kind e he
  rw [Edit.before_iff]
  cases hk : e.kind with
  | closing => exact .inl (Nat.lt_of_le_of_lt hstart (hclosing hk))
  | replacing => exact absurd hk hkind
  | opening =>
    rcases Nat.lt_or_eq_of_le (Nat.le_trans hstart hopening) with hlt | heq
    · exact .inl hlt
    · exact .inr ⟨heq, .inl (by decide : (1 : Nat) < 2)⟩

theorem last_before_first {start bound : Nat} (hstart : start ≤ bound) (es : Edits) (stop : Nat)
    (text text' : String) : (es.last start stop text).before (first bound text') = true := by
  rw [Edit.before_iff]
  rcases Nat.lt_or_eq_of_le hstart with hlt | heq
  · exact .inl hlt
  · exact .inr ⟨heq, .inl (by decide : (1 : Nat) < 2)⟩

theorem sorted_mergeSort (l : List Edit) :
    (l.mergeSort Edit.before).Pairwise fun a b => a.before b = true :=
  List.pairwise_mergeSort Edit.before_trans Edit.before_total l

theorem splice_cons {cursor : Nat} {e : Edit} (h : cursor ≤ e.start) (rest : List Char)
    (l : List Edit) :
    splice cursor rest (e :: l) = Text.takeBytes (e.start - cursor) rest ++ e.text.toList ++
      splice e.resume (Text.dropBytes (e.resume - cursor) rest) l := by
  rw [splice, if_neg (Nat.not_lt.2 h)]

/-- What is put in front of all others comes out between the two parts of the source. -/
theorem Behind.apply_prepend (h : es.Behind bound) (text : String) (src : List Char) :
    (es.prepend bound text).apply src = Text.takeBytes bound src ++ text.toList ++
      splice bound (Text.dropBytes bound src) (es.edits.mergeSort Edit.before) := by
  have hperm := List.mergeSort_perm es.edits Edit.before
  have hturns := h.nodup_turns (rfl : (first bound text).turn = 0)
    (rfl : (es.last 0 0 text).turn = es.turn)
  have hsort : (es.edits ++ [first bound text]).mergeSort Edit.before =
      first bound text :: es.edits.mergeSort Edit.before := by
    refine mergeSort_eq (hturns.sublist ((List.Sublist.append_left ?_ _).map _))
      ((hperm.cons _).trans (List.perm_append_singleton _ _).symm) ?_
    · exact List.sublist_append_left [first bound text] [_]
    · refine List.pairwise_cons.2 ⟨fun e he => ?_, sorted_mergeSort _⟩
      exact h.first_before text (hperm.subset he)
  change splice 0 src ((es.edits ++ [first bound text]).mergeSort Edit.before) = _
  rw [hsort, splice_cons (Nat.zero_le _)]
  simp only [first, Edit.resume, Nat.max_self, Nat.sub_zero]

theorem edits_prepend_replace (es : Edits) (offset start stop : Nat) (text text' : String) :
    ((es.prepend offset text).replace start stop text').edits =
      es.edits ++ [first offset text, es.last start stop text'] :=
  List.append_assoc es.edits [first offset text] [es.last start stop text']

section Replace

variable (h : es.Behind bound) {start stop : Nat} (text text' : String) (src : List Char)
include h

/-- A range behind it does not touch what is put in front of all others. -/
theorem Behind.apply_prepend_replace_of_lt (hstart : bound < start) :
    ∃ rest, ((es.prepend bound text).replace start stop text').apply src =
      Text.takeBytes bound src ++ text.toList ++ rest := by
  have hperm := List.mergeSort_perm (es.edits ++ [es.last start stop text']) Edit.before
  have hturns := h.nodup_turns (rfl : (first bound text).turn = 0)
    (rfl : (es.last start stop text').turn = es.turn)
  have hsort : (es.edits ++ [first bound text, es.last start stop text']).mergeSort Edit.before =
      first bound text :: (es.edits ++ [es.last start stop text']).mergeSort Edit.before := by
    refine mergeSort_eq hturns ((hperm.cons _).trans List.perm_middle.symm) ?_
    refine List.pairwise_cons.2 ⟨fun e he => ?_, sorted_mergeSort _⟩
    rcases List.mem_append.1 (hperm.subset he) with he | he
    · exact h.first_before text he
    · rw [List.mem_singleton.1 he, Edit.before_iff]
      exact .inl hstart
  refine ⟨splice bound (Text.dropBytes bound src)
    ((es.edits ++ [es.last start stop text']).mergeSort Edit.before), ?_⟩
  rw [apply, edits_prepend_replace, hsort, splice_cons (Nat.zero_le _)]
  simp only [first, Edit.resume, Nat.max_self, Nat.sub_zero]

/-- A range that starts no later is replaced first. -/
theorem Behind.apply_prepend_replace (hstart : start ≤ bound) :
    ((es.prepend bound text).replace start stop text').apply src =
      Text.takeBytes start src ++ text'.toList ++
        splice (max stop start) (Text.dropBytes (max stop start) src)
          (first bound text :: es.edits.mergeSort Edit.before) := by
  have hperm := List.mergeSort_perm es.edits Edit.before
  have hturns := h.nodup_turns (rfl : (first bound text).turn = 0)
    (rfl : (es.last start stop text').turn = es.turn)
  have hsort : (es.edits ++ [first bound text, es.last start stop text']).mergeSort Edit.before =
      es.last start stop text' :: first bound text :: es.edits.mergeSort Edit.before := by
    refine mergeSort_eq hturns ?_ ?_
    · refine (List.Perm.swap _ _ _).trans ?_
      exact ((hperm.cons _).cons _).trans
        (List.perm_append_comm : ([first bound text, es.last start stop text'] ++ es.edits).Perm _)
    · refine List.pairwise_cons.2 ⟨fun e he => ?_, List.pairwise_cons.2 ⟨fun e he => ?_, ?_⟩⟩
      · rcases List.mem_cons.1 he with rfl | he
        · exact last_before_first hstart es stop text' text
        · exact h.last_before hstart stop text' (hperm.subset he)
      · exact h.first_before text (hperm.subset he)
      · exact sorted_mergeSort _
  rw [apply, edits_prepend_replace, hsort, splice_cons (Nat.zero_le _)]
  simp only [last, Edit.resume, Nat.sub_zero]

/-- A range that ends there at the latest does not touch what is put in front of all others. -/
theorem Behind.apply_prepend_replace_of_le (hstart : start ≤ bound) (hstop : stop ≤ bound) :
    ∃ rest, ((es.prepend bound text).replace start stop text').apply src =
      Text.takeBytes start src ++ text'.toList ++
        Text.takeBytes (bound - max stop start) (Text.dropBytes (max stop start) src) ++
        text.toList ++ rest := by
  have hresume : max stop start ≤ (first bound text).start := Nat.max_le.2 ⟨hstop, hstart⟩
  refine ⟨splice (first bound text).resume (Text.dropBytes ((first bound text).resume -
    max stop start) (Text.dropBytes (max stop start) src)) (es.edits.mergeSort Edit.before), ?_⟩
  rw [h.apply_prepend_replace text text' src hstart, splice_cons hresume]
  simp only [first, List.append_assoc]

/-- Within a range that is replaced, what is put in front of all others is lost. -/
theorem Behind.apply_prepend_replace_of_covers (hstart : start ≤ bound) (hstop : bound < stop) :
    ((es.prepend bound text).replace start stop text').apply src =
      (es.replace start stop text').apply src := by
  have hperm := List.mergeSort_perm es.edits Edit.before
  have hturns := h.nodup_turns (rfl : (first bound text).turn = 0)
    (rfl : (es.last start stop text').turn = es.turn)
  have hsort : (es.edits ++ [es.last start stop text']).mergeSort Edit.before =
      es.last start stop text' :: es.edits.mergeSort Edit.before := by
    refine mergeSort_eq (hturns.sublist ((List.Sublist.append_left ?_ _).map _))
      ((hperm.cons _).trans (List.perm_append_singleton _ _).symm) ?_
    · exact List.sublist_append_right [_] [es.last start stop text']
    · refine List.pairwise_cons.2 ⟨fun e he => ?_, sorted_mergeSort _⟩
      exact h.last_before hstart stop text' (hperm.subset he)
  have hlost : (first bound text).start < max stop start :=
    Nat.lt_of_lt_of_le hstop (Nat.le_max_left _ _)
  rw [h.apply_prepend_replace text text' src hstart, splice, if_pos hlost, apply]
  change _ = splice 0 src ((es.edits ++ [es.last start stop text']).mergeSort Edit.before)
  rw [hsort, splice_cons (Nat.zero_le _)]
  simp only [last, Edit.resume, Nat.sub_zero]

end Replace

/-! ### Insertions -/

/-- Insertions in order add their texts to the source and take nothing away. -/
theorem length_splice {l : List Edit} {cursor : Nat} (hcursor : ∀ e ∈ l, cursor ≤ e.start)
    (hsorted : l.Pairwise fun a b => a.start ≤ b.start) (h : ∀ e ∈ l, e.stop = e.start)
    (src : List Char) :
    (splice cursor src l).length = src.length + (l.map fun e => e.text.toList.length).sum := by
  induction l generalizing cursor src with
  | nil => simp [splice]
  | cons e l ih =>
    obtain ⟨hbefore, hsorted⟩ := List.pairwise_cons.1 hsorted
    obtain ⟨hstop, hl⟩ := List.forall_mem_cons.1 h
    have hresume : e.resume = e.start := by rw [Edit.resume, hstop, Nat.max_self]
    have hsplit := congrArg List.length
      (Text.takeBytes_append_dropBytes (e.start - cursor) src)
    rw [List.length_append] at hsplit
    rw [splice_cons (hcursor e List.mem_cons_self), hresume, List.length_append, List.length_append,
      ih hbefore hsorted hl, List.map_cons, List.sum_cons]
    omega

theorem length_apply {es : Edits} (h : ∀ e ∈ es.edits, e.stop = e.start) (src : List Char) :
    (es.apply src).length = src.length + (es.edits.map fun e => e.text.toList.length).sum := by
  have hperm := List.mergeSort_perm es.edits Edit.before
  rw [apply, length_splice (fun _ _ => Nat.zero_le _)
    ((sorted_mergeSort es.edits).imp start_le_of_before) (fun e he => h e (hperm.subset he)),
    (hperm.map _).sum_nat]

/-- Marks put texts in, and take nothing out. -/
theorem insertion_edits (accessor : String) (marks : List Mark) :
    ∀ e ∈ (Mark.edits accessor marks).edits, e.stop = e.start := by
  have hadd : ∀ {es : Edits} {offset : Nat} {kind : EditKind} {text : String},
      (∀ e ∈ es.edits, e.stop = e.start) →
      ∀ e ∈ (es.add offset offset kind text).edits, e.stop = e.start := by
    intro es offset kind text h e he
    rcases List.mem_append.1 he with he | he
    · exact h e he
    · rw [List.mem_singleton.1 he]
  have hrun : ∀ es : Edits, (∀ e ∈ es.edits, e.stop = e.start) →
      ∀ e ∈ (marks.foldl (Mark.addTo accessor) es).edits, e.stop = e.start := by
    induction marks with
    | nil => exact fun es h => h
    | cons m rest ih =>
      refine fun es h => ih _ ?_
      cases m with
      | count offset c => exact hadd h
      | entry offset semicolon c => exact hadd h
      | pair start stop c => exact hadd (hadd h)
      | block start stop => exact hadd (hadd h)
      | body start stop f s => exact hadd (hadd h)
      | alternative offset c => exact hadd h
  exact hrun .empty nofun

/-- What is put in front of all others makes the source longer. -/
theorem length_lt_apply_prepend {es : Edits} (h : ∀ e ∈ es.edits, e.stop = e.start) (offset : Nat)
    {text : String} (htext : text.toList ≠ []) (src : List Char) :
    src.length < ((es.prepend offset text).apply src).length := by
  have hall : ∀ e ∈ (es.prepend offset text).edits, e.stop = e.start := by
    intro e he
    rcases List.mem_append.1 he with he | he
    · exact h e he
    · rw [List.mem_singleton.1 he]
  have hpos : 0 < text.toList.length := List.length_pos_iff.2 htext
  rw [length_apply hall, prepend, List.map_append, List.sum_append, List.map_singleton,
    List.sum_singleton]
  dsimp only
  omega

/-! ### A comment that is taken out -/

/-- The edits with a comment taken out, if there is one to take out. -/
def without (es : Edits) : Option (Comment × String) → Edits
  | some (c, _) => es.replace c.start c.stop ""
  | none => es

/-- What comes out in front of what is put at an offset. -/
def front (src : List Char) (offset : Nat) : Option (Comment × String) → List Char
  | some (c, _) =>
    if c.start ≤ offset then
      Text.takeBytes c.start src ++
        Text.takeBytes (offset - max c.stop c.start) (Text.dropBytes (max c.stop c.start) src)
    else Text.takeBytes offset src
  | none => Text.takeBytes offset src

/-- A comment that is taken out covers an offset if it starts there or before it and ends behind
it. -/
def Covers (offset : Nat) : Option (Comment × String) → Prop
  | some (c, _) => c.start ≤ offset ∧ offset < c.stop
  | none => False

/-- What is put in front of all others comes out unless the comment that is taken out covers its
place. -/
theorem Behind.exists_apply_without (h : es.Behind bound) {removed : Option (Comment × String)}
    (hcovers : ¬ Covers bound removed) (text : String) (src : List Char) :
    ∃ rest, ((es.prepend bound text).without removed).apply src =
      front src bound removed ++ text.toList ++ rest := by
  match removed with
  | none => exact ⟨_, h.apply_prepend text src⟩
  | some (c, _) =>
    by_cases hstart : c.start ≤ bound
    · have hstop : c.stop ≤ bound := Nat.not_lt.1 fun hlt => hcovers ⟨hstart, hlt⟩
      obtain ⟨rest, hrest⟩ := h.apply_prepend_replace_of_le text "" src hstart hstop
      refine ⟨rest, ?_⟩
      rw [without, front, if_pos hstart, hrest, String.toList_empty, List.append_nil]
    · rw [front, if_neg hstart]
      exact h.apply_prepend_replace_of_lt text "" src (Nat.not_le.1 hstart)

end Edits

end Coverage.Instrument
