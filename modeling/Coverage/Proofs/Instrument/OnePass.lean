import Coverage.Proofs.Instrument.Rendering

/-!
# Brackets that are put in in one pass

Edits that are added one by one have turns of their own, apart from those that go before all others
(`Made.turns`). So there is one order only in which they can be made, and the parts of a source with
brackets are those of the recursive rendering (`parts_eq_render`).

The main result is `apply_eq_render`, which also says in which order texts at one offset come out.
-/

namespace Coverage.Instrument

open Coverage.Text (located Boundary)

namespace Edit

/-- Where an edit stands with regard to the texts that go before all others at its offset. -/
def sideOfFirst (e : Edit) : Side :=
  if e.kind = .closing then .before else if e.turn = 0 then .inside else .behind

theorem sideOfFirst_eq_before (e : Edit) : e.sideOfFirst = .before ↔ e.kind = .closing := by
  rw [sideOfFirst]
  split_ifs <;> simp [*]

theorem sideOfFirst_eq_inside {e : Edit} (h : e.turn = 0 → e.kind = .opening) :
    e.sideOfFirst = .inside ↔ e.turn = 0 := by
  rw [sideOfFirst]
  split_ifs with hclosing hzero
  · simp only [false_iff]
    exact fun hzero => absurd (hclosing.symm.trans (h hzero)) nofun
  · simp [hzero]
  · simp [hzero]

theorem sideOfFirst_eq_behind {e : Edit} (h : e.kind ≠ .replacing) :
    e.sideOfFirst = .behind ↔ e.kind = .opening ∧ e.turn ≠ 0 := by
  rw [sideOfFirst]
  cases hkind : e.kind with
  | replacing => exact absurd hkind h
  | closing => simp
  | opening => by_cases hzero : e.turn = 0 <;> simp [hzero]

end Edit

namespace Edits

open Coverage.Instrument.Bracket (Nesting render wrapped)

variable {es : Edits}

/-- The texts that go before all others at an offset. -/
def firstAt (es : Edits) (offset : Nat) : List Edit :=
  es.edits.filter fun e => e.start = offset ∧ e.turn = 0

/-- The other texts that open something at an offset, in the order in which they are added. -/
def opensAt (es : Edits) (offset : Nat) : List Edit :=
  es.edits.filter fun e => e.start = offset ∧ e.kind = .opening ∧ e.turn ≠ 0

/-- Edits have turns of their own, apart from those that go before all others at their offset, which
open something. -/
structure Turns (es : Edits) : Prop where
  next : 0 < es.turn
  lt : ∀ e ∈ es.edits, e.turn < es.turn
  kind : ∀ e ∈ es.edits, e.turn = 0 → e.kind = .opening
  order : es.edits.Pairwise fun a b => b.turn ≠ 0 → a.turn < b.turn

theorem Turns.add (h : es.Turns) (start stop : Nat) (kind : EditKind) (text : String) :
    (es.add start stop kind text).Turns := by
  refine ⟨Nat.succ_pos _, ?_, ?_, ?_⟩
  · refine List.forall_mem_append.2 ⟨fun e he => Nat.lt_succ_of_lt (h.lt e he), ?_⟩
    exact List.forall_mem_singleton.2 (Nat.lt_succ_self _)
  · refine List.forall_mem_append.2 ⟨h.kind, List.forall_mem_singleton.2 fun hzero => ?_⟩
    exact absurd hzero (Nat.ne_of_gt h.next)
  · refine List.pairwise_append.2 ⟨h.order, List.pairwise_singleton _ _, fun a ha b hb _ => ?_⟩
    exact List.mem_singleton.1 hb ▸ h.lt a ha

theorem Turns.prepend (h : es.Turns) (offset : Nat) (text : String) :
    (es.prepend offset text).Turns := by
  refine ⟨h.next, ?_, ?_, ?_⟩
  · exact List.forall_mem_append.2 ⟨h.lt, List.forall_mem_singleton.2 h.next⟩
  · exact List.forall_mem_append.2 ⟨h.kind, List.forall_mem_singleton.2 fun _ => rfl⟩
  · refine List.pairwise_append.2 ⟨h.order, List.pairwise_singleton _ _, fun a ha b hb hne => ?_⟩
    exact absurd (congrArg Edit.turn (List.mem_singleton.1 hb)) hne

theorem Made.turns (h : es.Made) : es.Turns := by
  induction h with
  | empty => exact ⟨Nat.one_pos, nofun, nofun, .nil⟩
  | openAt _ offset text ih => exact ih.add offset offset .opening text
  | closeAt _ offset text ih => exact ih.add offset offset .closing text
  | replace _ start stop text ih => exact ih.add start stop .replacing text
  | prepend _ offset text ih => exact ih.prepend offset text

section Family

variable {bs : List Bracket} {xs : List Edit} (hn : Nesting bs xs)
  (hedits : es.edits.Perm (bs.flatMap Bracket.edits ++ xs))
include hn hedits

/-- With one text at most that goes before all others no two edits have one turn. -/
theorem nodup_turns (h : es.Made) (hadded : ∀ b ∈ bs, b.opening.turn ≠ 0) :
    (es.edits.map (·.turn)).Nodup := by
  have hsymm : ∀ {a b : Edit}, (a.turn = b.turn → a.turn = 0) → b.turn = a.turn → b.turn = 0 :=
    fun hab heq => heq.trans (hab heq.symm)
  have hdistinct : es.edits.Pairwise fun a b => a.turn = b.turn → a.turn = 0 := by
    refine h.turns.order.imp fun {a b} hab heq => heq.trans ?_
    by_contra hne
    exact Nat.ne_of_lt (hab hne) heq
  have horder := (hedits.pairwise_iff hsymm).1 hdistinct
  obtain ⟨hbrackets, htexts, hcross⟩ := List.pairwise_append.1 horder
  have hpositive : ∀ e ∈ bs.flatMap Bracket.edits, e.turn ≠ 0 := by
    intro e he hzero
    obtain ⟨b, hb, he'⟩ := List.mem_flatMap.1 he
    simp only [Bracket.edits, List.mem_cons, List.not_mem_nil, or_false] at he'
    rcases he' with rfl | rfl
    · exact hadded b hb hzero
    · have hkind := h.turns.kind _ (hedits.mem_iff.2 (List.mem_append_left _ he)) hzero
      rw [hn.closing b hb] at hkind
      cases hkind
  refine ((hedits.map _).nodup_iff).2 (List.pairwise_map.2 (List.pairwise_append.2 ⟨?_, ?_, ?_⟩))
  · exact hbrackets.imp_of_mem fun ha _ hab heq => hpositive _ ha (hab heq)
  · exact hn.order.imp Nat.ne_of_lt
  · exact fun a ha b hb heq => hpositive a ha (hcross a ha b hb heq)

theorem not_replacing : ∀ e ∈ es.edits, e.kind ≠ .replacing := by
  intro e he
  rcases List.mem_append.1 (hedits.subset he) with he | he
  · obtain ⟨b, hb, he⟩ := List.mem_flatMap.1 he
    simp only [Bracket.edits, List.mem_cons, List.not_mem_nil, or_false] at he
    rcases he with rfl | rfl
    · rw [hn.opening b hb]
      decide
    · rw [hn.closing b hb]
      decide
  · rw [hn.further e he]
    decide

/-- Insertions leave all characters where they are and put all texts in. -/
theorem insertions_spec (h : es.Made) {src : List Char}
    (hat : ∀ e ∈ es.edits, Boundary src e.start) :
    (es.parts src).filterMap Part.kept? = located 0 src ∧
      ((es.parts src).filterMap Part.put?).Perm es.edits ∧
      (es.parts src).Pairwise Part.Leads := by
  have hkind := not_replacing hn hedits
  have hstop : ∀ e ∈ es.edits, e.stop = e.start := fun e he => h.insertion e he (hkind e he)
  obtain ⟨-, hkept, hputs, hbefore, -⟩ := parts_spec h src
    (fun e he => ⟨hat e he, hstop e he ▸ hat e he⟩) (fun r hr heq => absurd heq (hkind r hr))
    (List.pairwise_of_forall_mem_list fun a ha b _ heq => absurd heq (hkind a ha))
  refine ⟨hkept.trans (List.filter_eq_self.2 fun x _ => ?_),
    hputs.trans (.of_eq (List.filter_eq_self.2 fun e _ => ?_)), hbefore.imp Part.Before.leads⟩
  · exact decide_eq_true fun r hr htakes => hkind r hr htakes.1
  · exact decide_eq_true fun r hr hhides => hkind r hr hhides.1

/-- The parts of a source with brackets are those that are rendered. -/
theorem parts_eq_render (h : es.Made) (hadded : ∀ b ∈ bs, b.opening.turn ≠ 0) {src : List Char}
    (hat : ∀ e ∈ es.edits, Boundary src e.start) :
    es.parts src = render bs xs (located 0 src) := by
  have hturns := nodup_turns hn hedits h hadded
  obtain ⟨hkept, hputs, hleads⟩ := insertions_spec hn hedits h hat
  have hperm : (es.parts src).Perm (Bracket.all bs xs (located 0 src)) := by
    have hparts := Part.perm_kept_put (es.parts src)
    rw [hkept] at hparts
    exact hparts.trans (((hputs.trans hedits).map _).append_left _)
  refine (hperm.trans (Bracket.perm_render _ _ _).symm).eq_of_pairwise ?_ hleads
    (Bracket.leads_render hn (Text.pairwise_located 0 src))
  intro p q hp hq hpq hqp
  have hmem : ∀ {e : Edit}, .put e ∈ Bracket.all bs xs (located 0 src) → e ∈ es.edits := by
    intro e he
    refine hedits.mem_iff.2 ?_
    simpa [Bracket.all] using he
  cases p with
  | kept i c =>
    cases q with
    | kept j d => exact absurd hpq (Nat.lt_asymm hqp)
    | put e => exact absurd hpq (Nat.not_lt.2 hqp)
  | put e =>
    cases q with
    | kept j d => exact absurd hqp (Nat.not_lt.2 hpq)
    | put f =>
      have he := hmem (hperm.subset hp)
      have hf := hmem (Bracket.mem_render.1 hq)
      exact congrArg Part.put (eq_of_before hturns he hf hpq hqp)

theorem perm_closingsAt (offset : Nat) :
    (es.edits.filter fun e => e.start = offset ∧ e.kind = .closing).Perm
      (Bracket.closingsAt bs offset) := by
  refine (hedits.filter _).trans (.trans (.of_eq ?_) (List.reverse_perm _).symm)
  have htexts : xs.filter (fun e => e.start = offset ∧ e.kind = .closing) = [] :=
    List.filter_eq_nil_iff.2 fun x hx => by simp [hn.further x hx]
  rw [List.filter_append, htexts, List.append_nil]
  clear hedits htexts
  induction bs with
  | nil => rfl
  | cons b bs ih =>
    have hopening := hn.opening b List.mem_cons_self
    have hclosing := hn.closing b List.mem_cons_self
    rw [List.flatMap_cons, List.filter_append, ih hn.tail]
    by_cases hstart : b.closing.start = offset <;>
      simp [Bracket.edits, hopening, hclosing, hstart]

theorem perm_at (h : es.Made) (offset : Nat) :
    (Bracket.closingsAt bs offset ++ (es.firstAt offset ++ es.opensAt offset)).Perm
      (es.edits.filter (·.start = offset)) := by
  have hkind := not_replacing hn hedits
  have hsides := Side.perm_pick Edit.sideOfFirst (es.edits.filter (·.start = offset))
  have hpick : ∀ {s : Side} {p : Edit → Prop} [DecidablePred p],
      (∀ e ∈ es.edits, e.start = offset → (e.sideOfFirst = s ↔ p e)) →
      s.pick Edit.sideOfFirst (es.edits.filter (·.start = offset)) =
        es.edits.filter fun e => e.start = offset ∧ p e := by
    intro s p _ hiff
    rw [Side.pick, List.filter_filter]
    refine List.filter_congr fun e he => ?_
    rw [← Bool.decide_and, decide_eq_decide]
    rw [and_comm]
    exact and_congr_right fun hstart => hiff e he hstart
  have hbefore := hpick fun e _ _ => e.sideOfFirst_eq_before
  have hinside := hpick fun e he _ => Edit.sideOfFirst_eq_inside (h.turns.kind e he)
  have hbehind := hpick fun e he _ => Edit.sideOfFirst_eq_behind (hkind e he)
  rw [hbefore, hinside, hbehind] at hsides
  exact ((perm_closingsAt hn hedits offset).symm.append_right _).trans hsides

theorem sorted_at (h : es.Made) (offset : Nat) :
    (Bracket.closingsAt bs offset ++ (es.firstAt offset ++ es.opensAt offset)).Pairwise
      fun a b => a.before b = true := by
  have hclosings : ∀ e ∈ Bracket.closingsAt bs offset, e.start = offset ∧ e.kind = .closing := by
    intro e he
    have hmem := (perm_closingsAt hn hedits offset).mem_iff.2 he
    exact of_decide_eq_true (List.mem_filter.1 hmem).2
  have hfirst : ∀ e ∈ es.firstAt offset, e.start = offset ∧ e.kind = .opening ∧ e.turn = 0 := by
    intro e he
    obtain ⟨hmem, hplace⟩ := List.mem_filter.1 he
    obtain ⟨hstart, hzero⟩ := of_decide_eq_true hplace
    exact ⟨hstart, h.turns.kind e hmem hzero, hzero⟩
  have hopens : ∀ e ∈ es.opensAt offset, e.start = offset ∧ e.kind = .opening ∧ e.turn ≠ 0 :=
    fun e he => of_decide_eq_true (List.mem_filter.1 he).2
  refine List.pairwise_append.2 ⟨Bracket.sorted_closingsAt hn offset, List.pairwise_append.2
    ⟨?_, ?_, fun a ha b hb => ?_⟩, fun a ha b hb => ?_⟩
  · refine List.pairwise_of_forall_mem_list fun a ha b hb => ?_
    obtain ⟨hstart, hkind, hturn⟩ := hfirst a ha
    obtain ⟨hstart', hkind', -⟩ := hfirst b hb
    rw [Edit.before_openings hkind hkind']
    omega
  · refine (h.turns.order.filter _).imp_of_mem fun {a b} ha hb hab => ?_
    obtain ⟨hstart, hkind, -⟩ := hopens a ha
    obtain ⟨hstart', hkind', hturn⟩ := hopens b hb
    have hlt := hab hturn
    rw [Edit.before_openings hkind hkind']
    omega
  · obtain ⟨hstart, hkind, hturn⟩ := hfirst a ha
    obtain ⟨hstart', hkind', -⟩ := hopens b hb
    rw [Edit.before_openings hkind hkind']
    omega
  · obtain ⟨hstart, hkind⟩ := hclosings a ha
    have hopening : b.start = offset ∧ b.kind = .opening := by
      rcases List.mem_append.1 hb with hb | hb
      · exact ⟨(hfirst b hb).1, (hfirst b hb).2.1⟩
      · exact ⟨(hopens b hb).1, (hopens b hb).2.1⟩
    rw [Edit.before_closing_opening hkind hopening.2]
    exact Nat.le_of_eq (hstart.trans hopening.1.symm)

/-- The texts at an offset: what closes there, then what goes before all others, then what opens
there in the order in which it is added. -/
theorem puts_at (h : es.Made) (hadded : ∀ b ∈ bs, b.opening.turn ≠ 0) {src : List Char}
    (hat : ∀ e ∈ es.edits, Boundary src e.start) (offset : Nat) :
    ((es.parts src).filterMap Part.put?).filter (·.start = offset) =
      Bracket.closingsAt bs offset ++ (es.firstAt offset ++ es.opensAt offset) := by
  have hturns := nodup_turns hn hedits h hadded
  obtain ⟨-, hputs, hleads⟩ := insertions_spec hn hedits h hat
  have hperm := perm_at hn hedits h offset
  have hsorted : ((es.parts src).filterMap Part.put?).Pairwise fun a b => a.before b = true := by
    refine hleads.filterMap _ fun p q hpq a ha b hb => ?_
    cases p <;> cases q <;> cases ha <;> cases hb
    exact hpq
  refine ((hputs.filter _).trans hperm.symm).eq_of_pairwise (fun a b ha hb => ?_)
    (hsorted.filter _) (sorted_at hn hedits h offset)
  exact eq_of_before hturns (hputs.subset (List.mem_of_mem_filter ha))
    (List.mem_of_mem_filter (hperm.subset hb))

/-- Making the edits of brackets around nested or separate ranges in one pass gives the source with
these brackets rendered: each of them encloses exactly the rendering of what stands within its
range, further texts that open something come out where they are put in, and without the texts that
are put in the source comes back. At one offset what closes comes first, that of the innermost
bracket before the others, then what goes before all others, then what opens, in the order in which
it is added. -/
theorem apply_eq_render (h : es.Made) (hadded : ∀ b ∈ bs, b.opening.turn ≠ 0) (src : List Char)
    (hat : ∀ e ∈ es.edits, Boundary src e.start) :
    es.apply src = (render bs xs (located 0 src)).flatMap Part.text ∧
      (∀ b ∈ bs, b.wrapped bs xs (located 0 src) <:+: render bs xs (located 0 src)) ∧
      (∀ offset, ((render bs xs (located 0 src)).filterMap Part.put?).filter (·.start = offset) =
        Bracket.closingsAt bs offset ++ (es.firstAt offset ++ es.opensAt offset)) ∧
      ((render bs xs (located 0 src)).filterMap Part.kept?).map Prod.snd = src := by
  have hparts := parts_eq_render hn hedits h hadded hat
  obtain ⟨hkept, -, -⟩ := insertions_spec hn hedits h hat
  refine ⟨?_, fun b hb => Bracket.wrapped_isInfix hn hb, fun offset => ?_, ?_⟩
  · rw [← hparts, flatMap_text_parts]
  · rw [← hparts]
    exact puts_at hn hedits h hadded hat offset
  · rw [← hparts, hkept]
    exact Text.map_snd_located 0 src

end Family

/-- A disjunction in brackets, with brackets around its operands. -/
def disjunction : List Bracket :=
  [⟨⟨0, 0, .opening, 1, "(S, "⟩, ⟨6, 6, .closing, 2, ")"⟩⟩,
    ⟨⟨0, 0, .opening, 3, "(L, "⟩, ⟨1, 1, .closing, 4, ")"⟩⟩,
    ⟨⟨5, 5, .opening, 5, "(R, "⟩, ⟨6, 6, .closing, 6, ")"⟩⟩]

/-- A text in front of all others and one that is opened last. -/
def besides : List Edit := [⟨0, 0, .opening, 0, "P;"⟩, ⟨5, 5, .opening, 7, "C;"⟩]

theorem nesting_disjunction : Nesting disjunction besides := by
  refine ⟨by decide, by decide, by decide, ?_, by decide, by decide⟩
  simp [disjunction, Bracket.Around, Bracket.Beside]

theorem apply_eq_render_disjunction :
    let pairs := ((empty.pairUp 0 6 "S").pairUp 0 1 "L").pairUp 5 6 "R"
    let es := (pairs.openAt 5 "C;").prepend 0 "P;"
    Nesting disjunction besides ∧
      es.edits.Perm (disjunction.flatMap Bracket.edits ++ besides) ∧ es.Made ∧
      (∀ b ∈ disjunction, b.opening.turn ≠ 0) ∧
      (∀ e ∈ es.edits, Boundary "a || b".toList e.start) ∧
      let puts := (render disjunction besides (located 0 "a || b".toList)).filterMap Part.put?
      (puts.filter (·.start = 0)).map Edit.text = ["P;", "(S, ", "(L, "] ∧
        (puts.filter (·.start = 6)).map Edit.turn = [6, 2] := by
  intro pairs es
  have hmade : es.Made :=
    .prepend (.openAt (.closeAt (.openAt (.closeAt (.openAt (.closeAt (.openAt .empty
      0 "(S, ") 6 ")") 0 "(L, ") 1 ")") 5 "(R, ") 6 ")") 5 "C;") 0 "P;"
  have hedits : es.edits.Perm (disjunction.flatMap Bracket.edits ++ besides) := by decide
  have hadded : ∀ b ∈ disjunction, b.opening.turn ≠ 0 := by decide
  have hat : ∀ e ∈ es.edits, Boundary "a || b".toList e.start := by
    have hboundary : ∀ k < 7, Boundary "a || b".toList k := by
      intro k hk
      refine Text.boundary_of_byteLength ?_
      revert k
      decide
    have hplaces : ∀ e ∈ es.edits, e.start < 7 := by decide
    exact fun e he => hboundary _ (hplaces e he)
  have hputs := (apply_eq_render nesting_disjunction hedits hmade hadded _ hat).2.2.1
  refine ⟨nesting_disjunction, hedits, hmade, hadded, hat, ?_, ?_⟩
  · rw [hputs 0]
    decide
  · rw [hputs 6]
    decide

end Edits

end Coverage.Instrument
