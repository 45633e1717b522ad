import Coverage.Proofs.Instrument.Edits
import Coverage.Proofs.Text.Located
import Mathlib.Data.List.Pairwise

/-!
# What a text with edits is made of

A text with its edits made is a list of parts: characters of the source that stay, and texts that
are put in (`Edits.flatMap_text_parts`). Edits between characters whose replaced ranges are apart
take out no other characters than those in these ranges (`kept_spliceParts`).

An edit that starts in front of the place that the pass has come to is lost. This happens to what is
put in strictly within a replaced range, and also to what opens at its start: a replacement is made
in front of an opening, and the pass goes on behind the range (`puts_spliceParts`).
-/

namespace Coverage.Instrument

open Coverage.Text (located Boundary byteLength takeBytes dropBytes)

/-! ### Parts -/

/-- A part of a text with edits: a character of the source with its byte offset, or the text of an
edit. -/
inductive Part where
  | kept (offset : Nat) (c : Char)
  | put (e : Edit)
  deriving DecidableEq

namespace Part

/-- The text of a part. -/
def text : Part → List Char
  | kept _ c => [c]
  | put e => e.text.toList

/-- The character of the source that a part is, with its offset. -/
def kept? : Part → Option (Nat × Char)
  | kept offset c => some (offset, c)
  | put _ => none

/-- The edit that a part is the text of. -/
def put? : Part → Option Edit
  | kept _ _ => none
  | put e => some e

/-- A part stands in front of another one. -/
def Before : Part → Part → Prop
  | kept i _, kept j _ => i < j
  | kept i _, put e => i < e.start
  | put e, kept i _ => e.resume ≤ i
  | put a, put b => a.before b = true

/-- A part stands at an offset or behind it. -/
def From (offset : Nat) : Part → Prop
  | kept i _ => offset ≤ i
  | put e => offset ≤ e.start

/-- The characters of a part of the source that starts at an offset. -/
def source (offset : Nat) (cs : List Char) : List Part :=
  (located offset cs).map fun x => kept x.1 x.2

@[simp] theorem flatMap_text_source (offset : Nat) (cs : List Char) :
    (source offset cs).flatMap text = cs := by
  rw [source, List.flatMap_map]
  exact (List.flatMap_pure_eq_map Prod.snd _).trans (Text.map_snd_located offset cs)

theorem from_source (offset : Nat) (cs : List Char) : ∀ p ∈ source offset cs, p.From offset :=
  List.forall_mem_map.2 fun _ hx => (Text.mem_located hx).1

theorem pairwise_source (offset : Nat) (cs : List Char) : (source offset cs).Pairwise Before :=
  List.pairwise_map.2 (Text.pairwise_located offset cs)

theorem From.mono {i j : Nat} {p : Part} (h : p.From j) (hle : i ≤ j) : p.From i := by
  cases p <;> exact Nat.le_trans hle h

theorem before_of_from {i offset : Nat} {c : Char} {p : Part} (hlt : i < offset)
    (h : p.From offset) : (kept i c).Before p := by
  cases p <;> exact Nat.lt_of_lt_of_le hlt h

@[simp] theorem filterMap_kept_source (offset : Nat) (cs : List Char) :
    (source offset cs).filterMap kept? = located offset cs := by
  rw [source, List.filterMap_map]
  exact List.filterMap_some

@[simp] theorem filterMap_put_source (offset : Nat) (cs : List Char) :
    (source offset cs).filterMap put? = [] := by
  rw [source, List.filterMap_map]
  exact List.filterMap_eq_nil_iff.2 fun _ _ => rfl

end Part

namespace Edits

/-- The parts of a source with edits, as `splice` puts them together. -/
def spliceParts : Nat → List Char → List Edit → List Part
  | cursor, rest, [] => Part.source cursor rest
  | cursor, rest, e :: es =>
    if e.start < cursor then spliceParts cursor rest es
    else
      Part.source cursor (takeBytes (e.start - cursor) rest) ++
        .put e :: spliceParts e.resume (dropBytes (e.resume - cursor) rest) es

/-- The parts of the source with all edits made. -/
def parts (es : Edits) (src : List Char) : List Part :=
  spliceParts 0 src (es.edits.mergeSort Edit.before)

theorem flatMap_text_spliceParts (cursor : Nat) (rest : List Char) (l : List Edit) :
    (spliceParts cursor rest l).flatMap Part.text = splice cursor rest l := by
  induction l generalizing cursor rest with
  | nil => exact Part.flatMap_text_source cursor rest
  | cons e l ih =>
    rw [spliceParts, splice]
    split
    · exact ih cursor rest
    · rw [List.flatMap_append, Part.flatMap_text_source, List.flatMap_cons, ih, List.append_assoc]
      rfl

/-- The texts of the parts make up the source with all edits made. -/
theorem flatMap_text_parts (es : Edits) (src : List Char) :
    (es.parts src).flatMap Part.text = es.apply src :=
  flatMap_text_spliceParts 0 src _

end Edits

/-! ### Edits whose ranges are apart -/

namespace Edit

/-- An edit takes the character at an offset out. -/
def Takes (r : Edit) (offset : Nat) : Prop :=
  r.kind = .replacing ∧ r.start ≤ offset ∧ offset < r.stop

/-- An edit starts within a replaced range, and not where it starts unless it opens something
there. -/
def Hides (r e : Edit) : Prop :=
  r.kind = .replacing ∧
    (r.start < e.start ∧ e.start < r.stop ∨ r.start = e.start ∧ e.kind = .opening)

instance (r : Edit) (offset : Nat) : Decidable (r.Takes offset) :=
  inferInstanceAs (Decidable (_ ∧ _))

instance (r e : Edit) : Decidable (r.Hides e) := inferInstanceAs (Decidable (_ ∧ _))

end Edit

/-- Edits between characters: those that replace nothing are insertions, and the ranges that are
replaced are not empty and apart. -/
structure Apart (src : List Char) (l : List Edit) : Prop where
  start : ∀ e ∈ l, Boundary src e.start
  stop : ∀ e ∈ l, Boundary src e.stop
  insertion : ∀ e ∈ l, e.kind ≠ .replacing → e.stop = e.start
  proper : ∀ e ∈ l, e.kind = .replacing → e.start < e.stop
  disjoint : l.Pairwise fun a b =>
    a.kind = .replacing → b.kind = .replacing → a.stop ≤ b.start ∨ b.stop ≤ a.start

namespace Apart

variable {src : List Char} {l l' : List Edit} {e : Edit}

theorem of_perm (h : Apart src l) (hperm : l'.Perm l) : Apart src l' :=
  ⟨fun e he => h.start e (hperm.subset he), fun e he => h.stop e (hperm.subset he),
    fun e he => h.insertion e (hperm.subset he), fun e he => h.proper e (hperm.subset he),
    (hperm.pairwise_iff fun hab hb ha => (hab ha hb).symm).2 h.disjoint⟩

theorem tail (h : Apart src (e :: l)) : Apart src l :=
  ⟨(List.forall_mem_cons.1 h.start).2, (List.forall_mem_cons.1 h.stop).2,
    (List.forall_mem_cons.1 h.insertion).2, (List.forall_mem_cons.1 h.proper).2,
    (List.pairwise_cons.1 h.disjoint).2⟩

theorem resume_of_insertion (h : Apart src (e :: l)) (hkind : e.kind ≠ .replacing) :
    e.resume = e.start := by
  rw [Edit.resume, h.insertion e List.mem_cons_self hkind, Nat.max_self]

theorem resume_of_replacing (h : Apart src (e :: l)) (hkind : e.kind = .replacing) :
    e.resume = e.stop :=
  Nat.max_eq_left (Nat.le_of_lt (h.proper e List.mem_cons_self hkind))

theorem start_le_resume (e : Edit) : e.start ≤ e.resume := Nat.le_max_right _ _

theorem boundary_resume (h : Apart src (e :: l)) : Boundary src e.resume := by
  by_cases hkind : e.kind = .replacing
  · exact h.resume_of_replacing hkind ▸ h.stop e List.mem_cons_self
  · exact h.resume_of_insertion hkind ▸ h.start e List.mem_cons_self

/-- No replacement starts within another one. -/
theorem not_hides_replacing (h : Apart src l) :
    ∀ e ∈ l, e.kind = .replacing → ∀ r ∈ l, ¬ r.Hides e := by
  rintro e he hkind r hr ⟨hreplacing, ⟨hlt, hstop⟩ | ⟨-, hopening⟩⟩
  · have hsymm : Std.Symm fun a b : Edit => a.kind = .replacing → b.kind = .replacing →
        a.stop ≤ b.start ∨ b.stop ≤ a.start := ⟨fun a b hab hb ha => (hab ha hb).symm⟩
    have hne : r ≠ e := fun heq => Nat.ne_of_lt hlt (congrArg Edit.start heq)
    have hdisjoint := h.disjoint.forall hr he hne hreplacing hkind
    have hproper := h.proper e he hkind
    omega
  · rw [hkind] at hopening
    cases hopening

end Apart

/-- Edits in the order in which they are made, from an offset on that no replaced range starts in
front of. -/
structure Ready (src : List Char) (cursor : Nat) (l : List Edit) : Prop extends Apart src l where
  sorted : l.Pairwise fun a b => a.before b = true
  ahead : ∀ e ∈ l, e.kind = .replacing → cursor ≤ e.start

namespace Ready

variable {src : List Char} {cursor : Nat} {l : List Edit} {e : Edit}

/-- What starts in front of the offset replaces nothing. -/
theorem kind_of_lt (h : Ready src cursor (e :: l)) (hlt : e.start < cursor) :
    e.kind ≠ .replacing :=
  fun hkind => Nat.not_le.2 hlt (h.ahead e List.mem_cons_self hkind)

theorem skip (h : Ready src cursor (e :: l)) : Ready src cursor l :=
  ⟨h.toApart.tail, (List.pairwise_cons.1 h.sorted).2, (List.forall_mem_cons.1 h.ahead).2⟩

/-- No range that is replaced later starts before the pass goes on. -/
theorem next (h : Ready src cursor (e :: l)) : Ready src e.resume l := by
  refine ⟨h.toApart.tail, (List.pairwise_cons.1 h.sorted).2, fun r hr hkind => ?_⟩
  have hle := Edits.start_le_of_before ((List.pairwise_cons.1 h.sorted).1 r hr)
  by_cases hreplacing : e.kind = .replacing
  · have hproper := h.proper r (List.mem_cons_of_mem e hr) hkind
    have hdisjoint := (List.pairwise_cons.1 h.disjoint).1 r hr hreplacing hkind
    rw [h.resume_of_replacing hreplacing]
    omega
  · exact h.resume_of_insertion hreplacing ▸ hle

/-- An edit that is made first is not hidden by itself or a later one. -/
theorem not_hides (h : Ready src cursor (e :: l)) : ∀ r ∈ e :: l, ¬ r.Hides e := by
  rintro r hr ⟨hkind, hplace⟩
  rcases List.mem_cons.1 hr with rfl | hr
  · rcases hplace with ⟨hlt, -⟩ | ⟨-, hopening⟩
    · exact Nat.lt_irrefl _ hlt
    · rw [hkind] at hopening
      cases hopening
  · have hbefore := Edit.before_iff.1 ((List.pairwise_cons.1 h.sorted).1 r hr)
    rcases hplace with ⟨hlt, -⟩ | ⟨heq, hopening⟩
    · omega
    · rw [hkind, hopening, EditKind.rank, EditKind.rank] at hbefore
      omega

/-- A later edit is hidden by a replacement exactly if it starts before the pass goes on. -/
theorem hides_iff (h : Ready src cursor (e :: l)) {x : Edit} (hx : x ∈ l) :
    e.Hides x ↔ x.start < e.resume := by
  have hbefore := Edit.before_iff.1 ((List.pairwise_cons.1 h.sorted).1 x hx)
  by_cases hkind : e.kind = .replacing
  · have hproper := h.proper e List.mem_cons_self hkind
    rw [h.resume_of_replacing hkind]
    constructor
    · rintro ⟨-, ⟨-, hlt⟩ | ⟨heq, -⟩⟩
      · exact hlt
      · exact heq ▸ hproper
    · intro hlt
      refine ⟨hkind, ?_⟩
      by_cases heq : e.start = x.start
      · refine .inr ⟨heq, ?_⟩
        have hdisjoint := (List.pairwise_cons.1 h.disjoint).1 x hx hkind
        have hproper' := h.proper x (List.mem_cons_of_mem e hx)
        rw [hkind, EditKind.rank] at hbefore
        cases hother : x.kind with
        | opening => rfl
        | closing =>
          rw [hother, EditKind.rank] at hbefore
          omega
        | replacing =>
          have h₁ := hdisjoint hother
          have h₂ := hproper' hother
          omega
      · exact .inl ⟨by omega, hlt⟩
  · rw [h.resume_of_insertion hkind]
    exact ⟨fun hhides => absurd hhides.1 hkind, fun hlt => by omega⟩

/-- What stands between the offset and the first edit, what the edit takes out, and what is left
where the pass goes on. -/
theorem cut {before rest : List Char} (h : Ready (before ++ rest) (byteLength before) (e :: l))
    (hge : byteLength before ≤ e.start) :
    ∃ part taken behind, rest = part ++ (taken ++ behind) ∧ e.start = byteLength (before ++ part) ∧
      e.resume = byteLength (before ++ part ++ taken) ∧
      takeBytes (e.start - byteLength before) rest = part ∧
      dropBytes (e.resume - byteLength before) rest = behind := by
  obtain ⟨part, behind, rfl, hstart⟩ := (h.start e List.mem_cons_self).split hge
  rw [← Text.byteLength_append] at hstart
  have hresume := h.boundary_resume
  rw [← List.append_assoc] at hresume
  obtain ⟨taken, behind, rfl, hstop⟩ := hresume.split (hstart ▸ Apart.start_le_resume e)
  rw [← Text.byteLength_append] at hstop
  refine ⟨part, taken, behind, rfl, hstart, hstop, ?_, ?_⟩
  · rw [hstart, Text.byteLength_append, Nat.add_sub_cancel_left, Text.takeBytes_byteLength]
  · rw [hstop, List.append_assoc, Text.byteLength_append, Nat.add_sub_cancel_left,
      ← List.append_assoc, Text.dropBytes_byteLength]

/-- No character in front of the first edit is taken out. -/
theorem not_takes_of_lt (h : Ready src cursor (e :: l)) {offset : Nat} (hlt : offset < e.start) :
    ∀ r ∈ e :: l, ¬ r.Takes offset := by
  rintro r hr ⟨-, hle, -⟩
  rcases List.mem_cons.1 hr with rfl | hr
  · omega
  · have hstart := Edits.start_le_of_before ((List.pairwise_cons.1 h.sorted).1 r hr)
    omega

/-- The first edit takes out exactly the characters up to where the pass goes on. -/
theorem takes_iff (h : Ready src cursor (e :: l)) {offset : Nat} :
    e.Takes offset ↔ e.start ≤ offset ∧ offset < e.resume := by
  by_cases hkind : e.kind = .replacing
  · rw [h.resume_of_replacing hkind]
    exact ⟨(·.2), fun hplace => ⟨hkind, hplace⟩⟩
  · rw [h.resume_of_insertion hkind]
    exact ⟨fun htakes => absurd htakes.1 hkind, fun ⟨hle, hlt⟩ => by omega⟩

end Ready

namespace Edits

variable {src : List Char} {cursor : Nat} {l : List Edit}

/-- The edits that are made from an offset on are those that start there or behind it and that no
replacement hides. -/
theorem puts_spliceParts (h : Ready src cursor l) (rest : List Char) :
    (spliceParts cursor rest l).filterMap Part.put? =
      l.filter fun e => cursor ≤ e.start ∧ ∀ r ∈ l, ¬ r.Hides e := by
  induction l generalizing cursor rest with
  | nil => exact Part.filterMap_put_source cursor rest
  | cons e l ih =>
    rw [spliceParts]
    split
    · next hlt =>
      have hkind := h.kind_of_lt hlt
      rw [ih h.skip, List.filter_cons_of_neg (by simp [Nat.not_le.2 hlt])]
      refine List.filter_congr fun x hx => ?_
      simp [Edit.Hides, hkind]
    · next hge =>
      rw [List.filterMap_append, Part.filterMap_put_source, List.nil_append, List.filterMap_cons,
        List.filter_cons_of_pos (by simpa [Nat.not_lt.1 hge] using h.not_hides)]
      dsimp only [Part.put?]
      rw [ih h.next]
      refine congrArg (e :: ·) (List.filter_congr fun x hx => ?_)
      have hle := start_le_of_before ((List.pairwise_cons.1 h.sorted).1 x hx)
      have hcursor : cursor ≤ x.start := Nat.le_trans (Nat.not_lt.1 hge) hle
      rw [decide_eq_decide, List.forall_mem_cons, h.hides_iff hx, Nat.not_lt]
      exact ⟨fun ⟨hresume, hrest⟩ => ⟨hcursor, hresume, hrest⟩, (·.2)⟩

/-- The characters that stay from an offset on are those that no edit takes out. -/
theorem kept_spliceParts {before rest : List Char}
    (h : Ready (before ++ rest) (byteLength before) l) :
    (spliceParts (byteLength before) rest l).filterMap Part.kept? =
      (located (byteLength before) rest).filter fun x => ∀ r ∈ l, ¬ r.Takes x.1 := by
  induction l generalizing before rest with
  | nil => simp [spliceParts]
  | cons e l ih =>
    rw [spliceParts]
    split
    · next hlt =>
      have hkind := h.kind_of_lt hlt
      rw [ih h.skip]
      refine List.filter_congr fun x hx => ?_
      simp [Edit.Takes, hkind]
    · next hge =>
      obtain ⟨part, taken, rest, rfl, hstart, hresume, hcut, hgo⟩ := h.cut (Nat.not_lt.1 hge)
      have hnext := h.next
      rw [← List.append_assoc, ← List.append_assoc, hresume] at hnext
      have hpart : (located (byteLength before) part).filter (fun x => ∀ r ∈ e :: l,
          ¬ r.Takes x.1) = located (byteLength before) part := by
        refine List.filter_eq_self.2 fun x hx => decide_eq_true (h.not_takes_of_lt ?_)
        rw [hstart, Text.byteLength_append]
        exact (Text.mem_located hx).2
      have htaken : (located (byteLength (before ++ part)) taken).filter (fun x => ∀ r ∈ e :: l,
          ¬ r.Takes x.1) = [] := by
        refine List.filter_eq_nil_iff.2 fun x hx hall => ?_
        refine (List.forall_mem_cons.1 (of_decide_eq_true hall)).1 (h.takes_iff.2 ?_)
        rw [hstart, hresume, Text.byteLength_append (before ++ part)]
        exact Text.mem_located hx
      rw [hcut, hgo, hresume, List.filterMap_append, Part.filterMap_kept_source,
        List.filterMap_cons, Text.located_append, Text.located_append, List.filter_append,
        List.filter_append, ← Text.byteLength_append, ← Text.byteLength_append, hpart, htaken,
        List.nil_append]
      dsimp only [Part.kept?]
      rw [ih hnext]
      refine congrArg (located (byteLength before) part ++ ·) (List.filter_congr fun x hx => ?_)
      have hplace := (Text.mem_located hx).1
      rw [decide_eq_decide, List.forall_mem_cons, h.takes_iff, hresume]
      exact ⟨fun hrest => ⟨fun hin => Nat.not_lt.2 hplace hin.2, hrest⟩, (·.2)⟩

/-- All parts from an offset on stand there or behind it. -/
theorem from_spliceParts {before rest : List Char}
    (h : Ready (before ++ rest) (byteLength before) l) :
    ∀ p ∈ spliceParts (byteLength before) rest l, p.From (byteLength before) := by
  induction l generalizing before rest with
  | nil => exact Part.from_source _ _
  | cons e l ih =>
    rw [spliceParts]
    split
    · exact ih h.skip
    · next hge =>
      obtain ⟨part, taken, rest, rfl, hstart, hresume, -, hgo⟩ := h.cut (Nat.not_lt.1 hge)
      have hnext := h.next
      rw [← List.append_assoc, ← List.append_assoc, hresume] at hnext
      rw [hgo, hresume]
      refine List.forall_mem_append.2 ⟨Part.from_source _ _, List.forall_mem_cons.2
        ⟨Nat.not_lt.1 hge, fun p hp => (ih hnext p hp).mono ?_⟩⟩
      rw [Text.byteLength_append, Text.byteLength_append, Nat.add_assoc]
      exact Nat.le_add_right _ _

/-- The parts stand in order. -/
theorem pairwise_spliceParts {before rest : List Char}
    (h : Ready (before ++ rest) (byteLength before) l) :
    (spliceParts (byteLength before) rest l).Pairwise Part.Before := by
  induction l generalizing before rest with
  | nil => exact Part.pairwise_source _ _
  | cons e l ih =>
    rw [spliceParts]
    split
    · exact ih h.skip
    · next hge =>
      obtain ⟨part, taken, rest, rfl, hstart, hresume, hcut, hgo⟩ := h.cut (Nat.not_lt.1 hge)
      have hnext := h.next
      rw [← List.append_assoc, ← List.append_assoc, hresume] at hnext
      have hall := from_spliceParts hnext
      rw [hcut, hgo, hresume]
      refine List.pairwise_append.2 ⟨Part.pairwise_source _ _, List.pairwise_cons.2
        ⟨fun p hp => ?_, ih hnext⟩, fun p hp q hq => ?_⟩
      · cases p with
        | kept i c => exact Nat.le_trans (Nat.le_of_eq hresume) (hall _ hp)
        | put f =>
          have hmem := List.mem_filterMap.2 ⟨_, hp, (rfl : Part.put? (.put f) = some f)⟩
          rw [puts_spliceParts hnext] at hmem
          exact (List.pairwise_cons.1 h.sorted).1 f (List.mem_filter.1 hmem).1
      · obtain ⟨x, hx, rfl⟩ := List.mem_map.1 hp
        have hlt := (Text.mem_located hx).2
        rw [← Text.byteLength_append, ← hstart] at hlt
        refine Part.before_of_from hlt ?_
        rcases List.mem_cons.1 hq with rfl | hq
        · exact Nat.le_refl _
        · exact (hall q hq).mono (hresume ▸ Apart.start_le_resume e)

/-! ### All edits of a source -/

/-- Edits that are added one by one. -/
inductive Made : Edits → Prop where
  | empty : Made .empty
  | openAt {es : Edits} (h : Made es) (offset : Nat) (text : String) : Made (es.openAt offset text)
  | closeAt {es : Edits} (h : Made es) (offset : Nat) (text : String) :
    Made (es.closeAt offset text)
  | replace {es : Edits} (h : Made es) (start stop : Nat) (text : String) :
    Made (es.replace start stop text)
  | prepend {es : Edits} (h : Made es) (offset : Nat) (text : String) :
    Made (es.prepend offset text)

theorem Made.insertion {es : Edits} (h : es.Made) :
    ∀ e ∈ es.edits, e.kind ≠ .replacing → e.stop = e.start := by
  induction h with
  | empty => exact nofun
  | openAt _ _ _ ih | closeAt _ _ _ ih | prepend _ _ _ ih =>
    exact List.forall_mem_append.2 ⟨ih, List.forall_mem_singleton.2 fun _ => rfl⟩
  | replace _ _ _ _ ih =>
    exact List.forall_mem_append.2 ⟨ih, List.forall_mem_singleton.2 fun hkind => absurd rfl hkind⟩

/-- A source with edits, which stand between characters and replace ranges that are not empty and
apart, is made of the characters that no edit takes out and of the texts that no replacement hides:
each of them once, and all of them in order. A replacement hides what is put in strictly within its
range and, though it stands at the boundary of the range, what opens at its start. No replacement is
hidden. -/
theorem parts_spec {es : Edits} (h : es.Made) (src : List Char)
    (hat : ∀ e ∈ es.edits, Boundary src e.start ∧ Boundary src e.stop)
    (hproper : ∀ r ∈ es.edits, r.kind = .replacing → r.start < r.stop)
    (hdisjoint : es.edits.Pairwise fun a b =>
      a.kind = .replacing → b.kind = .replacing → a.stop ≤ b.start ∨ b.stop ≤ a.start) :
    es.apply src = (es.parts src).flatMap Part.text ∧
      (es.parts src).filterMap Part.kept? =
        (located 0 src).filter (fun x => ∀ r ∈ es.edits, ¬ r.Takes x.1) ∧
      ((es.parts src).filterMap Part.put?).Perm
        (es.edits.filter fun e => ∀ r ∈ es.edits, ¬ r.Hides e) ∧
      (es.parts src).Pairwise Part.Before ∧
      ∀ e ∈ es.edits, e.kind = .replacing → ∀ r ∈ es.edits, ¬ r.Hides e := by
  have hperm := List.mergeSort_perm es.edits Edit.before
  have hapart : Apart src es.edits :=
    ⟨fun e he => (hat e he).1, fun e he => (hat e he).2, h.insertion, hproper, hdisjoint⟩
  have hready : Ready ([] ++ src) (byteLength []) (es.edits.mergeSort Edit.before) :=
    ⟨hapart.of_perm hperm, sorted_mergeSort es.edits, fun _ _ _ => Nat.zero_le _⟩
  refine ⟨(flatMap_text_parts es src).symm, ?_, ?_, pairwise_spliceParts hready,
    hapart.not_hides_replacing⟩
  · refine (kept_spliceParts hready).trans (List.filter_congr fun x _ => decide_eq_decide.2 ?_)
    exact ⟨fun hall r hr => hall r (hperm.mem_iff.2 hr), fun hall r hr => hall r (hperm.subset hr)⟩
  · refine (List.Perm.of_eq (puts_spliceParts hready _)).trans ?_
    refine (hperm.filter _).trans (.of_eq (List.filter_congr fun x _ => decide_eq_decide.2 ?_))
    exact ⟨fun hall r hr => hall.2 r (hperm.mem_iff.2 hr),
      fun hall => ⟨Nat.zero_le _, fun r hr => hall r (hperm.subset hr)⟩⟩

/-- A character that is replaced, with something closed and something opened in front of it and
something opened behind it. -/
def aroundReplaced : Edits :=
  (((Edits.empty.closeAt 1 ")").openAt 1 "(").replace 1 2 "r").openAt 2 "+"

/-- Of the texts at the boundaries of a replaced range only what opens at its start is lost. -/
theorem parts_spec_aroundReplaced :
    aroundReplaced.Made ∧
      (∀ e ∈ aroundReplaced.edits, Boundary "abc".toList e.start ∧ Boundary "abc".toList e.stop) ∧
      (∀ r ∈ aroundReplaced.edits, r.kind = .replacing → r.start < r.stop) ∧
      (aroundReplaced.parts "abc".toList).filterMap Part.kept? = [(0, 'a'), (2, 'c')] ∧
      (((aroundReplaced.parts "abc".toList).filterMap Part.put?).map Edit.text).Perm
        [")", "r", "+"] := by
  have hmade : aroundReplaced.Made :=
    (((Made.empty.closeAt 1 ")").openAt 1 "(").replace 1 2 "r").openAt 2 "+"
  have hboundary : ∀ k < 3, Boundary "abc".toList k := by
    intro k hk
    refine Text.boundary_of_byteLength ?_
    revert k
    decide
  have hat : ∀ e ∈ aroundReplaced.edits,
      Boundary "abc".toList e.start ∧ Boundary "abc".toList e.stop := by
    have hplaces : ∀ e ∈ aroundReplaced.edits, e.start < 3 ∧ e.stop < 3 := by decide
    exact fun e he => ⟨hboundary _ (hplaces e he).1, hboundary _ (hplaces e he).2⟩
  have hproper : ∀ r ∈ aroundReplaced.edits, r.kind = .replacing → r.start < r.stop := by decide
  obtain ⟨-, hkept, hputs, -⟩ := parts_spec hmade "abc".toList hat hproper (by decide)
  refine ⟨hmade, hat, hproper, hkept.trans (by decide), (hputs.map _).trans (.of_eq ?_)⟩
  decide

end Edits

end Coverage.Instrument
