import Coverage.Proofs.Instrument.Brackets
import Coverage.Proofs.Instrument.Splicing

/-!
# Edits as a tree of brackets

Brackets around ranges that are nested or apart can be rendered recursively: the one that is added
first parts everything else into what comes before it, what it encloses and what comes behind it
(`Bracket.render`). What is rendered holds every character, every bracket and every further text
once (`perm_render`), in the order of offsets and turns (`leads_render`). Each bracket encloses
exactly the rendering of what stands within its range (`wrapped_isInfix`).
-/

namespace Coverage.Instrument

open Coverage.Text (located Boundary)

/-! ### The sides of a bracket -/

/-- Where something stands with regard to a bracket. -/
inductive Side where
  | before
  | inside
  | behind
  deriving DecidableEq

namespace Side

variable {α : Type} {side : α → Side} {s : Side} {l : List α} {x : α}

/-- What stands on a side. -/
def pick (s : Side) (side : α → Side) (l : List α) : List α := l.filter (side · = s)

theorem mem_pick : x ∈ s.pick side l ↔ x ∈ l ∧ side x = s := by
  rw [pick, List.mem_filter, decide_eq_true_eq]

theorem pick_sublist (s : Side) (side : α → Side) (l : List α) : (s.pick side l).Sublist l :=
  List.filter_sublist

theorem pick_cons (s : Side) (side : α → Side) (x : α) (l : List α) :
    s.pick side (x :: l) = if side x = s then x :: s.pick side l else s.pick side l := by
  simp only [pick, List.filter_cons, decide_eq_true_eq]

/-- What stands on a side of something that stands on a side itself. -/
theorem pick_pick {side' : α → Side} {t : Side} (h : ∀ x, side x = s → side' x = t) :
    s.pick side (t.pick side' l) = s.pick side l := by
  rw [pick, pick, pick, List.filter_filter]
  refine List.filter_congr fun x _ => ?_
  rw [← Bool.decide_and, decide_eq_decide]
  exact ⟨(·.1), fun hx => ⟨hx, h x hx⟩⟩

/-- What stands on the three sides is everything. -/
theorem perm_pick (side : α → Side) (l : List α) :
    (before.pick side l ++ (inside.pick side l ++ behind.pick side l)).Perm l := by
  induction l with
  | nil => exact .refl _
  | cons x l ih =>
    cases hx : side x with
    | before =>
      simp only [pick_cons, hx, reduceCtorEq, if_true, if_false]
      exact ih.cons x
    | inside =>
      simp only [pick_cons, hx, reduceCtorEq, if_true, if_false]
      exact List.perm_middle.trans (ih.cons x)
    | behind =>
      simp only [pick_cons, hx, reduceCtorEq, if_true, if_false]
      rw [← List.append_assoc] at ih ⊢
      exact List.perm_middle.trans (ih.cons x)

end Side

namespace Bracket

/-- The edits of a bracket. -/
def edits (b : Bracket) : List Edit := [b.opening, b.closing]

/-- The side of a bracket that another one stands on. -/
def sideOf (b c : Bracket) : Side :=
  if c.closing.start ≤ b.opening.start then .before
  else if b.closing.start ≤ c.opening.start then .behind
  else .inside

/-- The side of a bracket that a text is put in on. What is opened earlier at the same offset comes
before the bracket. -/
def sideOfText (b : Bracket) (x : Edit) : Side :=
  if x.start < b.opening.start ∨ x.start = b.opening.start ∧ x.turn < b.opening.turn then .before
  else if b.closing.start ≤ x.start then .behind
  else .inside

/-- The side of a bracket that a character stands on. -/
def sideOfChar (b : Bracket) (x : Nat × Char) : Side :=
  if x.1 < b.opening.start then .before
  else if b.closing.start ≤ x.1 then .behind
  else .inside

end Bracket

/-! ### Rendering -/

namespace Part

/-- The offset at which a part stands. -/
def offset : Part → Nat
  | kept i _ => i
  | put e => e.start

/-- Puts a text in front of the first part that does not stand before its offset. -/
def place (x : Edit) : List Part → List Part
  | [] => [put x]
  | p :: ps => if p.offset < x.start then p :: place x ps else put x :: p :: ps

end Part

namespace Bracket

/-- Renders characters with brackets, the first of which encloses none that comes before it in the
list, and with further texts, of which the first one at an offset is the first one in the list. -/
def render : List Bracket → List Edit → List (Nat × Char) → List Part
  | [], xs, cs => xs.foldr Part.place (cs.map fun c => .kept c.1 c.2)
  | b :: bs, xs, cs =>
    render (Side.before.pick b.sideOf bs) (Side.before.pick b.sideOfText xs)
        (Side.before.pick b.sideOfChar cs) ++
      .put b.opening ::
        (render (Side.inside.pick b.sideOf bs) (Side.inside.pick b.sideOfText xs)
            (Side.inside.pick b.sideOfChar cs) ++
          .put b.closing ::
            render (Side.behind.pick b.sideOf bs) (Side.behind.pick b.sideOfText xs)
              (Side.behind.pick b.sideOfChar cs))
termination_by bs => bs.length
decreasing_by all_goals exact Nat.lt_succ_of_le (Side.pick_sublist _ _ _).length_le

/-- A bracket goes around another one, and is closed first if both close at one offset. -/
def Around (a b : Bracket) : Prop :=
  a.opening.start ≤ b.opening.start ∧ b.closing.start ≤ a.closing.start ∧
    (a.closing.start = b.closing.start → a.closing.turn < b.closing.turn)

/-- Two brackets are around ranges that do not overlap. -/
def Beside (a b : Bracket) : Prop :=
  a.closing.start ≤ b.opening.start ∨ b.closing.start ≤ a.opening.start

/-- Brackets around ranges that are not empty, in the order in which they are added: each of them
goes around a later one or stands beside it. Besides there are texts that open something, in the
order in which they are added. -/
structure Nesting (bs : List Bracket) (xs : List Edit) : Prop where
  opening : ∀ b ∈ bs, b.opening.kind = .opening
  closing : ∀ b ∈ bs, b.closing.kind = .closing
  proper : ∀ b ∈ bs, b.opening.start < b.closing.start
  nested : bs.Pairwise fun a b => a.opening.turn < b.opening.turn ∧ (a.Around b ∨ a.Beside b)
  further : ∀ x ∈ xs, x.kind = .opening
  order : xs.Pairwise fun x y => x.turn < y.turn

theorem Nesting.sublist {bs bs' : List Bracket} {xs xs' : List Edit} (h : Nesting bs xs)
    (hbs : bs'.Sublist bs) (hxs : xs'.Sublist xs) : Nesting bs' xs' :=
  ⟨fun b hb => h.opening b (hbs.subset hb), fun b hb => h.closing b (hbs.subset hb),
    fun b hb => h.proper b (hbs.subset hb), h.nested.sublist hbs,
    fun x hx => h.further x (hxs.subset hx), h.order.sublist hxs⟩

theorem Nesting.tail {b : Bracket} {bs : List Bracket} {xs : List Edit} (h : Nesting (b :: bs) xs) :
    Nesting bs xs :=
  h.sublist (List.sublist_cons_self b bs) (.refl xs)

/-- Everything that is rendered. -/
def all (bs : List Bracket) (xs : List Edit) (cs : List (Nat × Char)) : List Part :=
  cs.map (fun c => .kept c.1 c.2) ++ (bs.flatMap edits ++ xs).map .put

end Bracket

/-! ### The same parts -/

namespace Part

theorem perm_place (x : Edit) (ps : List Part) : (place x ps).Perm (put x :: ps) := by
  induction ps with
  | nil => exact .refl _
  | cons p ps ih =>
    rw [place]
    split
    · exact (ih.cons p).trans (.swap _ _ _)
    · exact .refl _

theorem perm_foldr_place (xs : List Edit) (ps : List Part) :
    (xs.foldr place ps).Perm (ps ++ xs.map put) := by
  induction xs with
  | nil => exact .of_eq (List.append_nil ps).symm
  | cons x xs ih =>
    exact (perm_place x _).trans ((ih.cons _).trans List.perm_middle.symm)

/-- The characters and the texts among some parts are all of them. -/
theorem perm_kept_put (ps : List Part) :
    ps.Perm ((ps.filterMap kept?).map (fun c => kept c.1 c.2) ++ (ps.filterMap put?).map put) := by
  induction ps with
  | nil => exact .refl _
  | cons p ps ih =>
    cases p with
    | kept i c => exact ih.cons _
    | put e => exact (ih.cons _).trans List.perm_middle.symm

end Part

namespace Bracket

/-- Rendering loses nothing. -/
theorem perm_render (bs : List Bracket) (xs : List Edit) (cs : List (Nat × Char)) :
    (render bs xs cs).Perm (all bs xs cs) := by
  induction bs, xs, cs using render.induct with
  | case1 xs cs =>
    rw [render]
    exact Part.perm_foldr_place xs _
  | case2 b bs xs cs ihbefore ihinside ihbehind =>
    have hchars := (Side.perm_pick b.sideOfChar cs).map fun c => Part.kept c.1 c.2
    have htexts := (Side.perm_pick b.sideOfText xs).map Part.put
    have hbrackets := ((Side.perm_pick b.sideOf bs).flatMap_right edits).map Part.put
    rw [render]
    refine (ihbefore.append ((ihinside.append (ihbehind.cons _)).cons _)).trans ?_
    rw [List.perm_iff_count]
    intro p
    have h₁ := hchars.count_eq p
    have h₂ := htexts.count_eq p
    have h₃ := hbrackets.count_eq p
    simp only [all, edits, List.map_append, List.flatMap_append, List.flatMap_cons,
      List.count_append, List.count_cons, List.map_cons, List.nil_append,
      List.cons_append] at h₁ h₂ h₃ ⊢
    omega

end Bracket

/-! ### The same order -/

namespace Edit

variable {a b : Edit}

theorem before_openings (ha : a.kind = .opening) (hb : b.kind = .opening) :
    a.before b = true ↔ a.start < b.start ∨ a.start = b.start ∧ a.turn ≤ b.turn := by
  simp [before_iff, order, ha, hb]

theorem before_closings (ha : a.kind = .closing) (hb : b.kind = .closing) :
    a.before b = true ↔ a.start < b.start ∨ a.start = b.start ∧ b.turn ≤ a.turn := by
  simp [before_iff, order, ha, hb]

theorem before_opening_closing (ha : a.kind = .opening) (hb : b.kind = .closing) :
    a.before b = true ↔ a.start < b.start := by
  simp [before_iff, ha, hb, EditKind.rank]

theorem before_closing_opening (ha : a.kind = .closing) (hb : b.kind = .opening) :
    a.before b = true ↔ a.start ≤ b.start := by
  simp only [before_iff, ha, hb, EditKind.rank]
  omega

end Edit

namespace Part

/-- A part stands in front of another one, as to its offset and its turn. -/
def Leads : Part → Part → Prop
  | kept i _, kept j _ => i < j
  | kept i _, put e => i < e.start
  | put e, kept i _ => e.start ≤ i
  | put a, put b => a.before b = true

theorem Before.leads {p q : Part} (h : p.Before q) : p.Leads q := by
  cases p <;> cases q
  case put.kept e i c => exact Nat.le_trans (Apart.start_le_resume e) h
  all_goals exact h

theorem Leads.trans {p q r : Part} (hpq : p.Leads q) (hqr : q.Leads r) : p.Leads r := by
  cases p <;> cases q <;> cases r <;> simp only [Leads, Edit.before_iff] at * <;> omega

/-- Parts on both sides of one that stands between them are in order. -/
theorem pairwise_around {before behind : List Part} {p : Part} (hbefore : before.Pairwise Leads)
    (hbehind : behind.Pairwise Leads) (hleft : ∀ q ∈ before, q.Leads p)
    (hright : ∀ q ∈ behind, p.Leads q) : (before ++ p :: behind).Pairwise Leads := by
  refine List.pairwise_append.2
    ⟨hbefore, List.pairwise_cons.2 ⟨hright, hbehind⟩, fun q hq r hr => ?_⟩
  rcases List.mem_cons.1 hr with rfl | hr
  · exact hleft q hq
  · exact (hleft q hq).trans (hright r hr)

/-- A text that opens something earlier than all others is put in in order. -/
theorem leads_place {x : Edit} {ps : List Part} (hx : x.kind = .opening)
    (hps : ps.Pairwise Leads) (hlater : ∀ e, put e ∈ ps → e.kind = .opening ∧ x.turn < e.turn) :
    (place x ps).Pairwise Leads := by
  induction ps with
  | nil => exact List.pairwise_singleton _ _
  | cons p ps ih =>
    obtain ⟨hfirst, hrest⟩ := List.pairwise_cons.1 hps
    rw [place]
    split
    · next hlt =>
      refine List.pairwise_cons.2 ⟨fun q hq => ?_, ih hrest fun e he => hlater e ?_⟩
      · rcases List.mem_cons.1 ((perm_place x ps).subset hq) with rfl | hq
        · cases p with
          | kept i c => exact hlt
          | put e => exact Edit.before_iff.2 (.inl hlt)
        · exact hfirst q hq
      · exact List.mem_cons_of_mem p he
    · next hle =>
      have hp : (put x).Leads p := by
        cases p with
        | kept i c => exact Nat.not_lt.1 hle
        | put e =>
          obtain ⟨hkind, hturn⟩ := hlater e List.mem_cons_self
          have hstart : x.start ≤ e.start := Nat.not_lt.1 hle
          rw [Leads, Edit.before_openings hx hkind]
          omega
      refine List.pairwise_cons.2 ⟨fun q hq => ?_, hps⟩
      rcases List.mem_cons.1 hq with rfl | hq
      · exact hp
      · exact hp.trans (hfirst q hq)

/-- Texts that open something are put in in the order in which they are added. -/
theorem leads_foldr_place {xs : List Edit} {cs : List (Nat × Char)}
    (hkind : ∀ x ∈ xs, x.kind = .opening) (hxs : xs.Pairwise fun x y => x.turn < y.turn)
    (hcs : cs.Pairwise fun c d => c.1 < d.1) :
    (xs.foldr place (cs.map fun c => kept c.1 c.2)).Pairwise Leads := by
  induction xs with
  | nil => exact List.pairwise_map.2 hcs
  | cons x xs ih =>
    obtain ⟨hx, hkind⟩ := List.forall_mem_cons.1 hkind
    obtain ⟨hlater, hxs⟩ := List.pairwise_cons.1 hxs
    refine leads_place hx (ih hkind hxs) fun e he => ?_
    have hmem : e ∈ xs := by
      have hall := (perm_foldr_place xs _).subset he
      simpa using hall
    exact ⟨hkind e hmem, hlater e hmem⟩

end Part

namespace Bracket

variable {b c : Bracket} {bs : List Bracket} {xs : List Edit} {cs : List (Nat × Char)}

theorem sideOf_eq_before : b.sideOf c = .before ↔ c.closing.start ≤ b.opening.start := by
  rw [sideOf]
  split_ifs <;> simp <;> omega

theorem sideOf_eq_behind : b.sideOf c = .behind ↔
    b.opening.start < c.closing.start ∧ b.closing.start ≤ c.opening.start := by
  rw [sideOf]
  split_ifs <;> simp <;> omega

theorem sideOf_eq_inside : b.sideOf c = .inside ↔
    b.opening.start < c.closing.start ∧ c.opening.start < b.closing.start := by
  rw [sideOf]
  split_ifs <;> simp <;> omega

theorem sideOfText_eq_before {x : Edit} : b.sideOfText x = .before ↔
    x.start < b.opening.start ∨ x.start = b.opening.start ∧ x.turn < b.opening.turn := by
  rw [sideOfText]
  split_ifs <;> simp <;> omega

theorem sideOfText_eq_behind {x : Edit} (hproper : b.opening.start < b.closing.start) :
    b.sideOfText x = .behind ↔ b.closing.start ≤ x.start := by
  rw [sideOfText]
  split_ifs <;> simp <;> omega

theorem sideOfText_eq_inside {x : Edit} : b.sideOfText x = .inside ↔
    (b.opening.start < x.start ∨ b.opening.start = x.start ∧ b.opening.turn ≤ x.turn) ∧
      x.start < b.closing.start := by
  rw [sideOfText]
  split_ifs <;> simp <;> omega

theorem sideOfChar_eq_before {x : Nat × Char} :
    b.sideOfChar x = .before ↔ x.1 < b.opening.start := by
  rw [sideOfChar]
  split_ifs <;> simp <;> omega

theorem sideOfChar_eq_behind {x : Nat × Char} (hproper : b.opening.start < b.closing.start) :
    b.sideOfChar x = .behind ↔ b.closing.start ≤ x.1 := by
  rw [sideOfChar]
  split_ifs <;> simp <;> omega

theorem sideOfChar_eq_inside {x : Nat × Char} :
    b.sideOfChar x = .inside ↔ b.opening.start ≤ x.1 ∧ x.1 < b.closing.start := by
  rw [sideOfChar]
  split_ifs <;> simp <;> omega

theorem forall_mem_all {P : Part → Prop} : (∀ p ∈ all bs xs cs, P p) ↔
    (∀ c ∈ cs, P (.kept c.1 c.2)) ∧ (∀ b ∈ bs, P (.put b.opening) ∧ P (.put b.closing)) ∧
      ∀ x ∈ xs, P (.put x) := by
  rw [all, List.forall_mem_append, List.forall_mem_map, List.forall_mem_map, List.forall_mem_append,
    List.forall_mem_flatMap]
  simp only [edits, List.forall_mem_cons, List.not_mem_nil, IsEmpty.forall_iff, implies_true,
    and_true]

/-- A bracket goes around a later one or stands beside it. -/
theorem Nesting.around_or_beside (h : Nesting bs xs) (hb : b ∈ bs) (hc : c ∈ bs)
    (hturn : b.opening.turn < c.opening.turn) : b.Around c ∨ b.Beside c := by
  have hsymm : Std.Symm fun a b : Bracket =>
      (a.opening.turn < b.opening.turn → a.Around b ∨ a.Beside b) ∧
        (b.opening.turn < a.opening.turn → b.Around a ∨ b.Beside a) := ⟨fun _ _ => And.symm⟩
  have hall := h.nested.imp fun {a b} hab =>
    (⟨fun _ => hab.2, fun hba => absurd hba (Nat.lt_asymm hab.1)⟩ :
      (a.opening.turn < b.opening.turn → a.Around b ∨ a.Beside b) ∧
        (b.opening.turn < a.opening.turn → b.Around a ∨ b.Beside a))
  have hne : b ≠ c := fun heq => Nat.ne_of_lt hturn (congrArg (·.opening.turn) heq)
  exact (hall.forall hb hc hne).1 hturn

theorem Nesting.around_of_inside (h : Nesting bs xs) (hb : b ∈ bs) (hc : c ∈ bs)
    (hturn : b.opening.turn < c.opening.turn) (hside : b.sideOf c = .inside) : b.Around c := by
  obtain ⟨hstop, hstart⟩ := sideOf_eq_inside.1 hside
  refine (h.around_or_beside hb hc hturn).resolve_right fun hbeside => ?_
  rcases hbeside with hle | hle <;> omega

section Sides

variable (h : Nesting (b :: bs) xs)
include h

/-- What comes before a bracket leads its opening. -/
theorem Nesting.leads_opening : ∀ p ∈ all (Side.before.pick b.sideOf bs)
    (Side.before.pick b.sideOfText xs) (Side.before.pick b.sideOfChar cs),
    p.Leads (.put b.opening) := by
  have hb := h.opening b List.mem_cons_self
  refine forall_mem_all.2 ⟨fun c hc => ?_, fun c hc => ?_, fun x hx => ?_⟩
  · exact sideOfChar_eq_before.1 (Side.mem_pick.1 hc).2
  · obtain ⟨hmem, hside⟩ := Side.mem_pick.1 hc
    have hproper := h.proper c (List.mem_cons_of_mem b hmem)
    have hclosing := h.closing c (List.mem_cons_of_mem b hmem)
    have hstop := sideOf_eq_before.1 hside
    rw [Part.Leads, Edit.before_openings (h.opening c (List.mem_cons_of_mem b hmem)) hb, Part.Leads,
      Edit.before_closing_opening hclosing hb]
    omega
  · obtain ⟨hmem, hside⟩ := Side.mem_pick.1 hx
    have hplace := sideOfText_eq_before.1 hside
    rw [Part.Leads, Edit.before_openings (h.further x hmem) hb]
    omega

/-- What a bracket encloses comes behind its opening and leads its closing. -/
theorem Nesting.enclosed_leads : ∀ p ∈ all (Side.inside.pick b.sideOf bs)
    (Side.inside.pick b.sideOfText xs) (Side.inside.pick b.sideOfChar cs),
    Part.Leads (.put b.opening) p ∧ p.Leads (.put b.closing) := by
  have hb := h.opening b List.mem_cons_self
  have hb' := h.closing b List.mem_cons_self
  refine forall_mem_all.2 ⟨fun c hc => ?_, fun c hc => ?_, fun x hx => ?_⟩
  · exact sideOfChar_eq_inside.1 (Side.mem_pick.1 hc).2
  · obtain ⟨hmem, hside⟩ := Side.mem_pick.1 hc
    have hproper := h.proper c (List.mem_cons_of_mem b hmem)
    have hopening := h.opening c (List.mem_cons_of_mem b hmem)
    have hclosing := h.closing c (List.mem_cons_of_mem b hmem)
    have hturn := ((List.pairwise_cons.1 h.nested).1 c hmem).1
    obtain ⟨hstart, hstop, hlater⟩ :=
      h.around_of_inside List.mem_cons_self (List.mem_cons_of_mem b hmem) hturn hside
    simp only [Part.Leads, Edit.before_openings hb hopening,
      Edit.before_opening_closing hb hclosing, Edit.before_opening_closing hopening hb',
      Edit.before_closings hclosing hb']
    omega
  · obtain ⟨hmem, hside⟩ := Side.mem_pick.1 hx
    have hplace := sideOfText_eq_inside.1 hside
    have hx := h.further x hmem
    simp only [Part.Leads, Edit.before_openings hb hx, Edit.before_opening_closing hx hb']
    omega

/-- The closing of a bracket leads what comes behind it. -/
theorem Nesting.closing_leads : ∀ p ∈ all (Side.behind.pick b.sideOf bs)
    (Side.behind.pick b.sideOfText xs) (Side.behind.pick b.sideOfChar cs),
    Part.Leads (.put b.closing) p := by
  have hb := h.closing b List.mem_cons_self
  have hproper := h.proper b List.mem_cons_self
  refine forall_mem_all.2 ⟨fun c hc => ?_, fun c hc => ?_, fun x hx => ?_⟩
  · exact (sideOfChar_eq_behind hproper).1 (Side.mem_pick.1 hc).2
  · obtain ⟨hmem, hside⟩ := Side.mem_pick.1 hc
    have hproper' := h.proper c (List.mem_cons_of_mem b hmem)
    have hopening := h.opening c (List.mem_cons_of_mem b hmem)
    have hstart := (sideOf_eq_behind.1 hside).2
    have hclosing := h.closing c (List.mem_cons_of_mem b hmem)
    rw [Part.Leads, Edit.before_closing_opening hb hopening, Part.Leads,
      Edit.before_closings hb hclosing]
    omega
  · obtain ⟨hmem, hside⟩ := Side.mem_pick.1 hx
    rw [Part.Leads, Edit.before_closing_opening hb (h.further x hmem)]
    exact (sideOfText_eq_behind hproper).1 hside

end Sides

theorem mem_render {p : Part} : p ∈ render bs xs cs ↔ p ∈ all bs xs cs :=
  (perm_render bs xs cs).mem_iff

/-- What is rendered stands in order. -/
theorem leads_render (h : Nesting bs xs) (hcs : cs.Pairwise fun c d => c.1 < d.1) :
    (render bs xs cs).Pairwise Part.Leads := by
  induction bs, xs, cs using render.induct with
  | case1 xs cs =>
    rw [render]
    exact Part.leads_foldr_place h.further h.order hcs
  | case2 b bs xs cs ihbefore ihinside ihbehind =>
    have hsub : ∀ s : Side, Nesting (s.pick b.sideOf bs) (s.pick b.sideOfText xs) := fun s =>
      h.tail.sublist (Side.pick_sublist _ _ _) (Side.pick_sublist _ _ _)
    have hchars : ∀ s : Side, (s.pick b.sideOfChar cs).Pairwise fun c d => c.1 < d.1 := fun s =>
      hcs.sublist (Side.pick_sublist _ _ _)
    have hclosing : Part.Leads (.put b.opening) (.put b.closing) :=
      Edit.before_iff.2 (.inl (h.proper b List.mem_cons_self))
    rw [render]
    refine Part.pairwise_around (ihbefore (hsub _) (hchars _)) ?_
      (fun p hp => h.leads_opening p (mem_render.1 hp)) ?_
    · exact Part.pairwise_around (ihinside (hsub _) (hchars _)) (ihbehind (hsub _) (hchars _))
        (fun p hp => (h.enclosed_leads p (mem_render.1 hp)).2)
        fun p hp => h.closing_leads p (mem_render.1 hp)
    · refine List.forall_mem_append.2 ⟨fun p hp => (h.enclosed_leads p (mem_render.1 hp)).1, ?_⟩
      exact List.forall_mem_cons.2
        ⟨hclosing, fun p hp => hclosing.trans (h.closing_leads p (mem_render.1 hp))⟩

/-! ### What a bracket encloses -/

/-- The brackets among others that a bracket encloses: those that are added later and stand within
its range. -/
def enclosed (b : Bracket) (bs : List Bracket) : List Bracket :=
  bs.filter fun c => b.opening.turn < c.opening.turn ∧ b.sideOf c = .inside

/-- A bracket around the rendering of what stands within its range. -/
def wrapped (b : Bracket) (bs : List Bracket) (xs : List Edit) (cs : List (Nat × Char)) :
    List Part :=
  .put b.opening ::
    (render (b.enclosed bs) (Side.inside.pick b.sideOfText xs) (Side.inside.pick b.sideOfChar cs) ++
      [.put b.closing])

/-- What a bracket encloses stands on one side of a bracket in front of it: on the same side. -/
structure SameSide (a b : Bracket) (bs : List Bracket) : Prop where
  bracket : ∀ c ∈ bs, b.opening.turn < c.opening.turn → b.sideOf c = .inside →
    a.sideOf c = a.sideOf b
  text : ∀ x : Edit, b.sideOfText x = .inside → a.sideOfText x = a.sideOf b
  char : ∀ x : Nat × Char, b.sideOfChar x = .inside → a.sideOfChar x = a.sideOf b

theorem Nesting.sameSide {a : Bracket} (h : Nesting (a :: bs) xs) (hb : b ∈ bs) :
    SameSide a b bs := by
  have ha := h.proper a List.mem_cons_self
  have hproper := h.proper b (List.mem_cons_of_mem a hb)
  have hturn := ((List.pairwise_cons.1 h.nested).1 b hb).1
  have haround : ∀ c ∈ bs, b.opening.turn < c.opening.turn → b.sideOf c = .inside →
      b.Around c ∧ c.opening.start < c.closing.start := fun c hc hlater hside =>
    ⟨h.tail.around_of_inside hb hc hlater hside, h.tail.proper c hc⟩
  cases hside : a.sideOf b with
  | before =>
    have hplace := sideOf_eq_before.1 hside
    refine ⟨fun c hc hlater hin => ?_, fun x hx => ?_, fun x hx => ?_⟩
    · obtain ⟨⟨hstart, hstop, -⟩, hproper'⟩ := haround c hc hlater hin
      rw [hside, sideOf_eq_before]
      omega
    · have hin := sideOfText_eq_inside.1 hx
      rw [hside, sideOfText_eq_before]
      omega
    · have hin := sideOfChar_eq_inside.1 hx
      rw [hside, sideOfChar_eq_before]
      omega
  | inside =>
    obtain ⟨hstart, hstop, -⟩ :=
      h.around_of_inside List.mem_cons_self (List.mem_cons_of_mem a hb) hturn hside
    refine ⟨fun c hc hlater hin => ?_, fun x hx => ?_, fun x hx => ?_⟩
    · obtain ⟨⟨hstart', hstop', -⟩, hproper'⟩ := haround c hc hlater hin
      rw [hside, sideOf_eq_inside]
      omega
    · have hin := sideOfText_eq_inside.1 hx
      rw [hside, sideOfText_eq_inside]
      omega
    · have hin := sideOfChar_eq_inside.1 hx
      rw [hside, sideOfChar_eq_inside]
      omega
  | behind =>
    have hplace := sideOf_eq_behind.1 hside
    refine ⟨fun c hc hlater hin => ?_, fun x hx => ?_, fun x hx => ?_⟩
    · obtain ⟨⟨hstart, hstop, -⟩, hproper'⟩ := haround c hc hlater hin
      rw [hside, sideOf_eq_behind]
      omega
    · have hin := sideOfText_eq_inside.1 hx
      rw [hside, sideOfText_eq_behind ha]
      omega
    · have hin := sideOfChar_eq_inside.1 hx
      rw [hside, sideOfChar_eq_behind ha]
      omega

theorem isInfix_inside (before inside behind : List Part) (p q : Part) :
    inside <:+: before ++ p :: (inside ++ q :: behind) :=
  ⟨before ++ [p], q :: behind, by simp⟩

theorem isInfix_behind (before inside behind : List Part) (p q : Part) :
    behind <:+: before ++ p :: (inside ++ q :: behind) :=
  ⟨before ++ p :: (inside ++ [q]), [], by simp⟩

/-- The opening and the closing of a bracket enclose exactly the rendering of what stands within its
range. -/
theorem wrapped_isInfix (h : Nesting bs xs) (hb : b ∈ bs) :
    b.wrapped bs xs cs <:+: render bs xs cs := by
  induction bs, xs, cs using render.induct with
  | case1 xs cs => cases hb
  | case2 a bs xs cs ihbefore ihinside ihbehind =>
    rcases List.mem_cons.1 hb with rfl | hb
    · have hturns := (List.pairwise_cons.1 h.nested).1
      have henclosed : b.enclosed (b :: bs) = Side.inside.pick b.sideOf bs := by
        rw [enclosed, List.filter_cons_of_neg (by simp)]
        refine List.filter_congr fun c hc => decide_eq_decide.2 ?_
        exact ⟨(·.2), fun hside => ⟨(hturns c hc).1, hside⟩⟩
      rw [wrapped, render, henclosed]
      refine List.IsInfix.trans (List.IsPrefix.isInfix ?_) (List.suffix_append _ _).isInfix
      exact List.cons_prefix_cons.2 ⟨rfl, (List.prefix_append_right_inj _).2 ⟨_, rfl⟩⟩
    · have hsame := h.sameSide hb
      have hturn := ((List.pairwise_cons.1 h.nested).1 b hb).1
      have hsub : ∀ s : Side, Nesting (s.pick a.sideOf bs) (s.pick a.sideOfText xs) := fun s =>
        h.tail.sublist (Side.pick_sublist _ _ _) (Side.pick_sublist _ _ _)
      have henclosed : b.enclosed ((a.sideOf b).pick a.sideOf bs) = b.enclosed (a :: bs) := by
        rw [enclosed, enclosed, List.filter_cons_of_neg (by simp [Nat.le_of_lt hturn]), Side.pick,
          List.filter_filter]
        refine List.filter_congr fun c hc => ?_
        rw [← Bool.decide_and, decide_eq_decide]
        exact ⟨(·.1), fun hin => ⟨hin, hsame.bracket c hc hin.1 hin.2⟩⟩
      have htexts := Side.pick_pick (l := xs) hsame.text
      have hchars := Side.pick_pick (l := cs) hsame.char
      have hmem : b ∈ (a.sideOf b).pick a.sideOf bs := Side.mem_pick.2 ⟨hb, rfl⟩
      rw [wrapped, ← henclosed, ← htexts, ← hchars, render]
      cases hside : a.sideOf b with
      | before =>
        rw [hside] at hmem
        exact (ihbefore (hsub _) hmem).trans (List.prefix_append _ _).isInfix
      | inside =>
        rw [hside] at hmem
        exact (ihinside (hsub _) hmem).trans (isInfix_inside _ _ _ _ _)
      | behind =>
        rw [hside] at hmem
        exact (ihbehind (hsub _) hmem).trans (isInfix_behind _ _ _ _ _)

/-- The closing texts at an offset, those of the innermost brackets first. -/
def closingsAt (bs : List Bracket) (offset : Nat) : List Edit :=
  ((bs.filter (·.closing.start = offset)).map (·.closing)).reverse

theorem sorted_closingsAt (h : Nesting bs xs) (offset : Nat) :
    (closingsAt bs offset).Pairwise fun a b => a.before b = true := by
  rw [closingsAt, List.pairwise_reverse, List.pairwise_map, List.pairwise_filter]
  refine h.nested.imp_of_mem fun {a b} ha hb hab hstart hstart' => ?_
  have hstart := of_decide_eq_true hstart
  have hstart' := of_decide_eq_true hstart'
  have hproper := h.proper a ha
  have hproper' := h.proper b hb
  -- Two ranges that end at one offset overlap.
  have haround : a.Around b := hab.2.resolve_right fun hbeside => by
    rcases hbeside with hle | hle <;> omega
  have hturn := haround.2.2 (hstart.trans hstart'.symm)
  rw [Edit.before_closings (h.closing b hb) (h.closing a ha)]
  omega

end Bracket

end Coverage.Instrument
