import Coverage.Proofs.Instrument.Insertions
import Coverage.Proofs.Instrument.Numbering

/-!
# The edges at which texts go in

Entering a node puts texts in at its edges only: in front of it, behind it, behind one of its
children, or at the place that its slot keeps (`Edges`, `visits_enter`). So what may be put in at
the edges of the nodes of a tree may be put in by the walk through the tree (`puts_walk`).

Of the marks on a node only the last one can be a clause that an `if` gets as its alternative
(`Ending`). Such a clause counts the second outcome of the branch of that `if`, and the branch stays
what it is until the end of the walk (`Skeleton.Grows`).
-/

namespace Coverage

/-- The branch with a number is that of an `if` with a range, and both of its outcomes are there. -/
def FileRecord.HasIf (r : FileRecord) (branch : Id) (range : Location) : Prop :=
  ∃ b, r.branches.get? branch = some b ∧ b.kind = .ifElse ∧ b.range = some range ∧
    1 < b.outcomes.length

namespace Instrument

open Coverage.Script (Node Kind Role Prologue prologue prologueFrom offset_prologueFrom)

/-! ### Places of marks -/

namespace Mark

/-- What a mark puts in: where, and whether it opens or closes something. -/
def places : Mark → List (EditKind × Nat)
  | count offset _ | entry offset _ _ => [(.opening, offset)]
  | alternative offset _ => [(.closing, offset)]
  | pair start stop _ | block start stop | body start stop _ _ =>
    [(.opening, start), (.closing, stop)]

/-- A mark puts something in only where that may be done. -/
def At (ok : EditKind → Nat → Prop) (m : Mark) : Prop := ∀ e ∈ m.places, ok e.1 e.2

/-- Whether a mark is a clause that an `if` gets as its alternative. -/
def isClause : Mark → Bool
  | alternative _ _ => true
  | _ => false

variable {ok ok' : EditKind → Nat → Prop} {m : Mark}

theorem At.mono (h : m.At ok) (himp : ∀ k o, ok k o → ok' k o) : m.At ok' :=
  fun e he => himp e.1 e.2 (h e he)

end Mark

/-! ### Branches that stay -/

namespace Skeleton

/-- The branch of an `if` has outcomes, so that it is kept in the end. -/
theorem hasIf_freeze {k : Skeleton} {branch : Id} {range : Location}
    (h : k.record.HasIf branch range) : k.freeze.HasIf branch range := by
  obtain ⟨b, hb, hkind, hrange, hlt⟩ := h
  refine ⟨b, ?_, hkind, hrange, hlt⟩
  rw [get?_branches_freeze, hb, Option.filter_some, if_pos]
  cases houtcomes : b.outcomes with
  | nil => simp [houtcomes] at hlt
  | cons _ _ => rfl

/-- The branch with a number is that of an `if` with a range, and has some outcomes so far. -/
structure Started (k : Skeleton) (branch : Id) (range : Location) (outcomes : Nat) : Prop where
  entry : ∃ b, k.record.branches.get? branch = some b ∧ b.kind = .ifElse ∧ b.range = some range ∧
    b.outcomes.length = outcomes
  hits : ∃ counts, k.record.branchHits.get? branch = some counts ∧ counts.length = outcomes

/-- A skeleton has grown: as long as there are numbers left, the branches of every `if` are there
still. -/
structure Grows (k' k : Skeleton) : Prop where
  record : k'.record.Extends k.record
  ifs : k'.record.HasRoom → ∀ branch range,
    k.record.HasIf branch range → k'.record.HasIf branch range

variable {k k' k'' : Skeleton} {branch : Id} {range : Location} {outcomes : Nat}

theorem Grows.refl (k : Skeleton) : k.Grows k := ⟨.refl _, fun _ _ _ h => h⟩

theorem Grows.trans (h : k''.Grows k') (h' : k'.Grows k) : k''.Grows k := by
  refine ⟨h.record.trans h'.record, fun hroom branch range hif => ?_⟩
  exact h.ifs hroom branch range (h'.ifs (hroom.of_extends h.record) branch range hif)

theorem grows_newStatement (k : Skeleton) (range : Location) : (k.newStatement range).1.Grows k :=
  ⟨k.extends_newStatement range, fun _ _ _ h => h⟩

theorem grows_newFunction (k : Skeleton) (name : Option String) (decl body : Location) :
    (k.newFunction name decl body).1.Grows k :=
  ⟨k.extends_newFunction name decl body, fun _ _ _ h => h⟩

theorem grows_newBranch (k : Skeleton) (kind : BranchKind) (range : Location) :
    (k.newBranch kind range).1.Grows k := by
  refine ⟨k.extends_newBranch kind range, fun hroom branch range' ⟨b, hb, hif⟩ => ⟨b, ?_, hif⟩⟩
  have hold := hroom.of_extends (k.extends_newBranch kind range)
  have hne : k.record.branches.nextId ≠ branch := by
    rintro rfl
    exact Table.nextId_not_mem hold.branches (Table.mem_keys_iff.2 ⟨b, hb⟩)
  simp only [newBranch, Table.get?_insert, if_neg hne]
  exact hb

theorem grows_newOutcome (k : Skeleton) (branch : Id) (range : Location) :
    (k.newOutcome branch range).1.Grows k := by
  refine ⟨k.extends_newOutcome branch range, fun _ other range' ⟨b, hb, hkind, hrange, hlt⟩ => ?_⟩
  rw [newOutcome]
  split
  · next b' counts hb' _ =>
    simp only [FileRecord.HasIf, Table.get?_insert]
    by_cases heq : branch = other
    · subst heq
      rw [hb'] at hb
      cases hb
      refine ⟨_, if_pos rfl, hkind, hrange, ?_⟩
      rw [List.length_append]
      omega
    · exact ⟨b, (if_neg heq).trans hb, hkind, hrange, hlt⟩
  · exact ⟨b, hb, hkind, hrange, hlt⟩

theorem started_newBranch (k : Skeleton) (range : Location) :
    (k.newBranch .ifElse range).1.Started (k.newBranch .ifElse range).2 range 0 := by
  constructor
  · refine ⟨⟨some range, .ifElse, [], some range.start.line⟩, ?_, rfl, rfl, rfl⟩
    simp only [newBranch, Table.get?_insert, if_pos]
  · refine ⟨[], ?_, rfl⟩
    simp only [newBranch, Table.get?_insert, if_pos]

/-- The next outcome has the next index. -/
theorem Started.newOutcome (h : k.Started branch range outcomes) (range' : Location) :
    (k.newOutcome branch range').2 = outcomes ∧
      (k.newOutcome branch range').1.Started branch range (outcomes + 1) := by
  obtain ⟨⟨b, hb, hkind, hrange, hlength⟩, counts, hcounts, hsize⟩ := h
  simp only [Skeleton.newOutcome, hb, hcounts]
  refine ⟨hsize, ⟨{ b with outcomes := b.outcomes ++ [range'] }, ?_, hkind, hrange, ?_⟩,
    ⟨counts ++ [0], ?_, ?_⟩⟩ <;>
    simp [Table.get?_insert, hlength, hsize]

theorem Started.hasIf (h : k.Started branch range 2) : k.record.HasIf branch range := by
  obtain ⟨⟨b, hb, hkind, hrange, hlength⟩, -⟩ := h
  exact ⟨b, hb, hkind, hrange, by omega⟩

end Skeleton

/-! ### Steps of the walk -/

namespace Recording

variable {α β : Type} {P P' : Mark → Prop} {post : α → Prop}

/-- A step leaves marks of some sort and gives what `post` says, and the skeleton grows. -/
structure Puts (P : Mark → Prop) (x : Recording α) (post : α → Prop) : Prop where
  marks : Adds P x post
  grows : ∀ p, (x.run p).2.skeleton.Grows p.skeleton

namespace Puts

theorem pure {a : α} (h : post a) : Puts P (pure a) post := ⟨.pure h, fun _ => .refl _⟩

theorem bind {x : Recording α} {f : α → Recording β} {post' : β → Prop} (hx : Puts P x post)
    (hf : ∀ a, post a → Puts P (f a) post') : Puts P (x >>= f) post' := by
  refine ⟨hx.marks.bind fun a ha => (hf a ha).marks, fun p => ?_⟩
  exact ((hf _ (hx.marks p).2).grows _).trans (hx.grows p)

theorem imp {x : Recording α} (hx : Puts P x post) (h : ∀ m, P m → P' m) : Puts P' x post := by
  refine ⟨fun p => ?_, hx.grows⟩
  obtain ⟨⟨marks, hmarks, hall⟩, ha⟩ := hx.marks p
  exact ⟨⟨marks, hmarks, fun m hm => h m (hall m hm)⟩, ha⟩

/-- The marks that a step leaves are what it adds to those that were there. -/
theorem forall_mem {x : Recording α} (hx : Puts P x post) {p : Progress} {marks : List Mark}
    (hmarks : (x.run p).2.marks = marks.reverse ++ p.marks) : ∀ m ∈ marks, P m := by
  obtain ⟨⟨found, hfound, hall⟩, -⟩ := hx.marks p
  have heq : marks = found :=
    List.reverse_inj.1 (List.append_cancel_right (hmarks.symm.trans hfound))
  exact heq ▸ hall

/-- The marks of two steps are those of the first one and those of the second one. -/
theorem split {x : Recording α} {f : α → Recording β} {post' : β → Prop} (hx : Puts P x post)
    {p : Progress} (hf : Puts P' (f (x.run p).1) post') {marks : List Mark}
    (hmarks : ((x >>= f).run p).2.marks = marks.reverse ++ p.marks) :
    ∃ front more, marks = front ++ more ∧ (x.run p).2.marks = front.reverse ++ p.marks ∧
      ((f (x.run p).1).run (x.run p).2).2.marks = more.reverse ++ (x.run p).2.marks := by
  obtain ⟨⟨front, hfront, -⟩, -⟩ := hx.marks p
  obtain ⟨⟨more, hmore, -⟩, -⟩ := hf.marks (x.run p).2
  refine ⟨front, more, List.reverse_inj.1 (List.append_cancel_right (hmarks.symm.trans ?_)), hfront,
    hmore⟩
  rw [List.reverse_append, List.append_assoc, ← hfront]
  exact hmore

end Puts

theorem puts_mark {m : Mark} (h : P m) : Puts P (mark m) (fun _ => True) :=
  ⟨adds_mark h, fun _ => .refl _⟩

theorem puts_newStatement (range : Location) : Puts P (newStatement range) (fun _ => True) :=
  ⟨adds_onSkeleton _, fun p => p.skeleton.grows_newStatement range⟩

theorem puts_newFunction (name : Option String) (decl body : Location) :
    Puts P (newFunction name decl body) (fun _ => True) :=
  ⟨adds_onSkeleton _, fun p => p.skeleton.grows_newFunction name decl body⟩

theorem puts_newBranch (kind : BranchKind) (range : Location) :
    Puts P (newBranch kind range) (fun _ => True) :=
  ⟨adds_onSkeleton _, fun p => p.skeleton.grows_newBranch kind range⟩

theorem puts_newOutcome (branch : Id) (range : Location) :
    Puts P (newOutcome branch range) (fun _ => True) :=
  ⟨adds_newOutcome branch range, fun p => p.skeleton.grows_newOutcome branch range⟩

end Recording

/-! ### Slots and plans -/

/-- The place that a slot keeps is one where something may be opened. -/
def Slot.Sends (ok : EditKind → Nat → Prop) (slot : Slot) : Prop :=
  ∀ k, slot.offset? = some k → ok .opening k

theorem Slot.sends_of_none {ok : EditKind → Nat → Prop} {slot : Slot} (h : slot.offset? = none) :
    slot.Sends ok := by
  intro k hk
  rw [h] at hk
  cases hk

/-- The places that the slots of a plan keep are such places. -/
def Plan.Sends (ok : EditKind → Nat → Prop) : Plan → Prop
  | .declarators offset => ∀ k, offset = some k → ok .opening k
  | .exports offset => ok .opening offset
  | .roles slots => ∀ e ∈ slots, e.2.Sends ok
  | _ => True

theorem Plan.Sends.mono {ok ok' : EditKind → Nat → Prop} {plan : Plan} (h : plan.Sends ok)
    (himp : ∀ o, ok .opening o → ok' .opening o) : plan.Sends ok' := by
  cases plan with
  | declarators offset => exact fun k hk => himp k (h k hk)
  | exports offset => exact himp _ h
  | roles slots => exact fun e he k hk => himp k (h e he k hk)
  | _ => trivial

theorem sends_trivial (plan : Plan) : plan.Sends fun _ _ => True := by
  cases plan with
  | declarators offset => exact fun _ _ => trivial
  | roles slots => exact fun _ _ _ _ => trivial
  | _ => trivial

/-- The next child may be walked in its slot, and the children behind it by their plan. -/
structure NextSends (ok : EditKind → Nat → Prop) (next : Option Slot × Plan) : Prop where
  slot : ∀ slot, next.1 = some slot → slot.Sends ok
  plan : next.2.Sends ok

section Next

variable {ok : EditKind → Nat → Prop} {plan : Plan} {c : Node}

theorem NextSends.skip (h : plan.Sends ok) : NextSends ok (none, plan) := ⟨nofun, h⟩

theorem NextSends.fill {slot : Slot} (h : plan.Sends ok) (hslot : slot.Sends ok) :
    NextSends ok (some slot, plan) :=
  ⟨fun _ heq => Option.some.inj heq ▸ hslot, h⟩

/-- A child finds its slot in order if something may be opened in front of it. -/
theorem Plan.Sends.next (h : plan.Sends ok) (hstart : ok .opening c.start) :
    NextSends ok (plan.next c) := by
  have hstatement : (Slot.statement c.start).Sends ok := fun k hk => Option.some.inj hk ▸ hstart
  have hstep := plan.step_next c
  generalize plan.next c = next at hstep ⊢
  cases hstep with
  | skip => exact .skip h
  | part => exact .fill h (Slot.sends_of_none rfl)
  | member => exact .fill h (Slot.sends_of_none rfl)
  | statement => exact .fill trivial hstatement
  | declarator => exact .fill h h
  | declared => exact .fill h (Slot.sends_of_none rfl)
  | declaration => exact .fill h fun k hk => Option.some.inj hk ▸ h
  | exported => exact .fill h (Slot.sends_of_none rfl)
  | loopBody => exact .fill h (Slot.sends_of_none rfl)
  | loopHead => exact .fill h (Slot.sends_of_none rfl)
  | alternative => exact .fill trivial (Slot.sends_of_none rfl)
  | case => exact .fill h (Slot.sends_of_none rfl)
  | caseValue => exact .fill h (Slot.sends_of_none rfl)
  | caseBody => exact .fill h hstatement
  | role _ hslot => exact .fill (fun e he => h e (List.mem_filter.1 he).1) (h _ hslot)

end Next

/-! ### Entering a node -/

/-- Something may be put in at all edges of a node. -/
structure Edges (ok : EditKind → Nat → Prop) (n : Node) : Prop where
  start : ok .opening n.start
  stop : ok .closing n.stop
  /-- What goes into a block goes behind its brace. -/
  brace : n.kind = .statementBlock → ok .opening (n.start + 1)
  children : ∀ c ∈ n.children, ok .opening c.stop ∧ ok .closing c.stop

theorem edges_trivial (n : Node) : Edges (fun _ _ => True) n :=
  ⟨trivial, trivial, fun _ => trivial, fun _ _ => ⟨trivial, trivial⟩⟩

/-- The place of the clause of an `if` without an alternative: behind what it does. -/
def clauseOffset (n : Node) : Nat :=
  match n.child? .consequence with
  | some c => c.stop
  | none => n.stop

/-- An `if` without an alternative, unless a hint leaves the alternative out. -/
structure LacksElse (s : Setting) (n : Node) : Prop where
  kind : n.kind = .ifStatement
  none : alternativeOf n = none
  hint : s.hint n ≠ some .elseArm

/-- How the marks on a node end. Only an `if` without an alternative gets a clause, as its last
mark, and then goes on to its arms. -/
inductive Ending (s : Setting) (n : Node) (k : Skeleton) : Plan → List Mark → Prop where
  | plain {plan : Plan} {marks : List Mark} (h : ∀ m ∈ marks, m.isClause = false) :
      Ending s n k plan marks
  | clause {slots : List (Role × Slot)} {marks : List Mark} {branch : Id} {first : Counter}
      (hplain : ∀ m ∈ marks, m.isClause = false) (hn : LacksElse s n)
      (hbranch : k.record.HasIf branch (s.range n)) (hfree : ∀ e ∈ slots, e.2.offset? = none)
      (hslot : slots.find? (fun e => e.1 = .consequence) =
        if s.hint n = some .ifArm then none else some (.consequence, .arm (some first))) :
      Ending s n k (.roles slots) (marks ++ [.alternative (clauseOffset n) (.outcome branch 1)])

section Enter

open Recording

variable {ok : EditKind → Nat → Prop} {s : Setting} {n : Node}

/-- A mark on a node that is not a clause. -/
def Mark.Plain (ok : EditKind → Nat → Prop) (m : Mark) : Prop := m.At ok ∧ m.isClause = false

theorem Ending.behind {k : Skeleton} {plan : Plan} {marks more : List Mark}
    (h : ∀ m ∈ marks, m.isClause = false) (hmore : Ending s n k plan more) :
    Ending s n k plan (marks ++ more) := by
  cases hmore with
  | plain hplain => exact .plain (List.forall_mem_append.2 ⟨h, hplain⟩)
  | clause hplain hn hbranch hfree hslot =>
    rw [← List.append_assoc]
    exact .clause (List.forall_mem_append.2 ⟨h, hplain⟩) hn hbranch hfree hslot

/-- From some progress on a step leaves marks at edges where that may be done, and gives a plan. -/
structure VisitsFrom (p : Progress) (ok : EditKind → Nat → Prop) (s : Setting) (n : Node)
    (x : Recording Plan) : Prop where
  grows : (x.run p).2.skeleton.Grows p.skeleton
  plan : (x.run p).1.Sends ok
  marks : ∃ marks : List Mark, (x.run p).2.marks = marks.reverse ++ p.marks ∧
    (∀ m ∈ marks, m.At ok) ∧ Ending s n (x.run p).2.skeleton (x.run p).1 marks

/-- A step enters a node. -/
def Visits (ok : EditKind → Nat → Prop) (s : Setting) (n : Node) (x : Recording Plan) : Prop :=
  ∀ p, VisitsFrom p ok s n x

theorem Visits.of_puts {x : Recording Plan} (h : Puts (·.Plain ok) x (·.Sends ok)) :
    Visits ok s n x := by
  intro p
  obtain ⟨⟨marks, hmarks, hplain⟩, hplan⟩ := h.marks p
  exact ⟨h.grows p, hplan, marks, hmarks, fun m hm => (hplain m hm).1,
    .plain fun m hm => (hplain m hm).2⟩

theorem Visits.pure {plan : Plan} (h : plan.Sends ok) : Visits ok s n (pure plan) :=
  .of_puts (.pure h)

theorem VisitsFrom.after {α : Type} {x : Recording α} {f : α → Recording Plan} {post : α → Prop}
    {p : Progress} (hx : Puts (·.Plain ok) x post)
    (hf : VisitsFrom (x.run p).2 ok s n (f (x.run p).1)) : VisitsFrom p ok s n (x >>= f) := by
  obtain ⟨⟨marks, hmarks, hplain⟩, -⟩ := hx.marks p
  obtain ⟨more, hmore, hall, hending⟩ := hf.marks
  refine ⟨hf.grows.trans (hx.grows p), hf.plan, marks ++ more, ?_, ?_, ?_⟩
  · rw [List.reverse_append, List.append_assoc, ← hmarks]
    exact hmore
  · exact List.forall_mem_append.2 ⟨fun m hm => (hplain m hm).1, hall⟩
  · exact hending.behind fun m hm => (hplain m hm).2

theorem Visits.after {α : Type} {x : Recording α} {f : α → Recording Plan} {post : α → Prop}
    (hx : Puts (·.Plain ok) x post) (hf : ∀ a, Visits ok s n (f a)) : Visits ok s n (x >>= f) :=
  fun _ => .after hx (hf _ _)

/-- Slots that keep no places may always be given. -/
theorem sends_roles {slots : List (Role × Slot)} (h : ∀ e ∈ slots, e.2.offset? = none) :
    (Plan.roles slots).Sends ok := by
  intro e he k hk
  rw [h e he] at hk
  cases hk

theorem started_if (s : Setting) (n : Node) (first second : Location) (p : Progress) :
    let p₁ := ((newBranch .ifElse (s.range n)).run p).2
    let branch := ((newBranch .ifElse (s.range n)).run p).1
    let p₂ := ((newOutcome branch first).run p₁).2
    ((newOutcome branch second).run p₂).1 = .outcome branch 1 ∧
      ((newOutcome branch second).run p₂).2.skeleton.record.HasIf branch (s.range n) := by
  intro p₁ branch p₂
  have h₂ := ((p.skeleton.started_newBranch (s.range n)).newOutcome first).2
  have h₃ := h₂.newOutcome second
  exact ⟨congrArg (Counter.outcome branch) h₃.1, h₃.2.hasIf⟩

/-- The clause of an `if` counts the second outcome of its branch. -/
theorem visits_arms (hn : Edges ok n) (hkind : n.kind = .ifStatement) {p : Progress} {branch : Id}
    {first second : Counter} (hsecond : second = .outcome branch 1)
    (hbranch : p.skeleton.record.HasIf branch (s.range n)) :
    VisitsFrom p ok s n (do
      if (alternativeOf n).isNone && s.hint n ≠ some .elseArm then
        mark (.alternative (clauseOffset n) second)
      return .roles ((.condition, .part) ::
        (if s.hint n = some .ifArm then [] else [(.consequence, .arm (some first))]) ++
        (if s.hint n = some .elseArm then [] else [(.alternative, .elseClause second)]))) := by
  have hfree : ∀ e ∈ (Role.condition, Slot.part) ::
      (if s.hint n = some .ifArm then [] else [(.consequence, .arm (some first))]) ++
      (if s.hint n = some .elseArm then [] else [(.alternative, .elseClause second)]),
      e.2.offset? = none := by
    split <;> split <;> simp [Slot.offset?]
  by_cases hclause : (alternativeOf n).isNone && s.hint n ≠ some .elseArm
  · simp only [if_pos hclause]
    obtain ⟨hnone, hhint⟩ := Bool.and_eq_true_iff.1 hclause
    have hlacks : LacksElse s n :=
      ⟨hkind, Option.isNone_iff_eq_none.1 hnone, of_decide_eq_true hhint⟩
    have hoffset : ok .closing (clauseOffset n) := by
      rw [clauseOffset]
      split
      · next c hc => exact (hn.children c (List.mem_of_find?_eq_some hc)).2
      · exact hn.stop
    refine ⟨.refl _, sends_roles hfree, [.alternative (clauseOffset n) second], rfl, ?_, ?_⟩
    · exact List.forall_mem_singleton.2 (List.forall_mem_singleton.2 hoffset)
    · rw [hsecond] at hfree ⊢
      have hplain : ∀ m ∈ ([] : List Mark), m.isClause = false := List.forall_mem_nil _
      refine Ending.clause hplain hlacks hbranch hfree (?_ : _ = if _ then none else
        some (Role.consequence, Slot.arm (some first)))
      split <;> simp
  · simp only [if_neg hclause]
    exact Visits.pure (sends_roles hfree) p

theorem visits_if (hn : Edges ok n) (hkind : n.kind = .ifStatement) :
    Visits ok s n (enterIf s n) := by
  intro p
  rw [enterIf]
  refine .after (puts_newBranch _ _) ?_
  refine .after (puts_newOutcome _ _) ?_
  refine .after (puts_newOutcome _ _) ?_
  obtain ⟨hsecond, hbranch⟩ := started_if s n _ _ p
  exact visits_arms hn hkind hsecond hbranch

/-- The place behind directives is at the edge of one of them. -/
theorem opening_prologue {p : Prologue} (hp : ok .opening p.offset) {nodes : List Node}
    (hnodes : ∀ c ∈ nodes, ok .opening c.stop) : ok .opening (prologueFrom p nodes).offset := by
  obtain hstart | ⟨c, hc, -, hstop⟩ := offset_prologueFrom p nodes
  · exact hstart ▸ hp
  · exact hstop ▸ hnodes c hc

variable {slot : Slot}

theorem EntryPlace.opening {offset : Nat} (h : EntryPlace n slot offset) (hn : Edges ok n)
    (hslot : slot.Sends ok) : ok .opening offset := by
  obtain rfl | hoffset := h
  · exact hn.start
  · exact hslot offset hoffset

theorem EntryMark.plain {m : Mark} (h : EntryMark n slot m) (hn : Edges ok n)
    (hslot : slot.Sends ok) : m.Plain ok := by
  have hcount : ∀ {offset c}, ok .opening offset → (Mark.count offset c).Plain ok :=
    fun hoffset => ⟨List.forall_mem_singleton.2 hoffset, rfl⟩
  have hboth : ∀ e ∈ [(EditKind.opening, n.start), (EditKind.closing, n.stop)], ok e.1 e.2 :=
    List.forall_mem_cons.2 ⟨hn.start, List.forall_mem_singleton.2 hn.stop⟩
  cases h with
  | count hplace => exact hcount (hplace.opening hn hslot)
  | brace hkind => exact hcount (hn.brace hkind)
  | colon hmem => exact hcount (hn.children _ hmem).1
  | entry hkind =>
    refine ⟨List.forall_mem_singleton.2 (opening_prologue (hn.brace hkind) fun c hc => ?_), rfl⟩
    exact (hn.children c (List.mem_filter.1 hc).1).1
  | pair => exact ⟨hboth, rfl⟩
  | block => exact ⟨hboth, rfl⟩
  | body => exact ⟨hboth, rfl⟩

theorem EntryPlan.sends {plan : Plan} (h : EntryPlan s n slot plan) (hn : Edges ok n)
    (hslot : slot.Sends ok) : plan.Sends ok := by
  have hkeep : ∀ {offset k : Nat}, EntryPlace n slot offset → some offset = some k →
      ok .opening k := fun hplace hk => Option.some.inj hk ▸ hplace.opening hn hslot
  cases h with
  | declarators _ hplace => exact fun _ => hkeep hplace
  | declared => exact nofun
  | exports _ hplace => exact hplace.opening hn hslot
  | labeled hplace => exact List.forall_mem_singleton.2 fun _ => hkeep hplace
  | declaration heq => exact fun k hk => hslot k (heq ▸ hk)
  | declarator heq =>
    refine List.forall_mem_cons.2 ⟨Slot.sends_of_none rfl, ?_⟩
    exact List.forall_mem_singleton.2 fun k hk => hslot k (heq ▸ hk)
  | function _ computed => exact sends_roles (by cases computed <;> simp [Slot.offset?])
  | switch | conditional | operands | pattern | field => exact sends_roles (by simp [Slot.offset?])
  | _ => trivial

theorem visits_entry (hn : Edges ok n) (hslot : slot.Sends ok) {x : Recording Plan}
    (h : Entry s n slot x) : Visits ok s n x := by
  induction h with
  | plan hplan => exact .pure (hplan.sends hn hslot)
  | ifElse hkind => exact visits_if hn hkind
  | function _ _ _ _ _ ih => exact .after (puts_newFunction _ _ _) ih
  | statement _ ih => exact .after (puts_newStatement _) ih
  | branch _ _ ih => exact .after (puts_newBranch _ _) ih
  | defaultValue _ _ ih => exact .after (puts_newBranch _ _) ih
  | outcome _ _ ih => exact .after (puts_newOutcome _ _) ih
  | mark hm _ ih => exact .after (puts_mark (hm.plain hn hslot)) fun _ => ih

/-- Entering a node puts texts in at its edges and at the place that its slot keeps. -/
theorem visits_enter (hn : Edges ok n) (hslot : slot.Sends ok) : Visits ok s n (enter s slot n) :=
  visits_entry hn hslot (entry_enter s slot n)

end Enter

/-! ### The walk -/

section Walk

open Recording

variable {ok : EditKind → Nat → Prop} {s : Setting}

theorem Visits.puts {n : Node} {x : Recording Plan} (h : Visits ok s n x) :
    Puts (·.At ok) x (·.Sends ok) := by
  refine ⟨fun p => ⟨?_, (h p).plan⟩, fun p => (h p).grows⟩
  obtain ⟨marks, hmarks, hall, -⟩ := (h p).marks
  exact ⟨marks, hmarks, hall⟩

mutual

/-- The walk through a tree puts texts in where that may be done, if it may be done at all edges of
its nodes. -/
theorem puts_walk {slot : Slot} : (n : Node) → (∀ d : Node, d.InTree n → Edges ok d) →
    slot.Sends ok → Puts (·.At ok) (walk s slot n) (fun _ => True)
  | ⟨kind, role, start, stop, children⟩, hn, hslot => by
    rw [walk]
    refine (visits_enter (hn _ .self) hslot).puts.bind fun plan hplan => ?_
    exact puts_walkAll children (fun c hc _ d hd => hn d (.inChild hc hd)) hplan

theorem puts_walkAll {plan : Plan} : (children : List Node) →
    (∀ c ∈ children, c.isNamed = true → ∀ d : Node, d.InTree c → Edges ok d) →
    plan.Sends ok → Puts (·.At ok) (walkAll s plan children) (fun _ => True)
  | [], _, _ => by
    rw [walkAll]
    exact .pure trivial
  | c :: rest, hchildren, hplan => by
    obtain ⟨hc, hrest⟩ := List.forall_mem_cons.1 hchildren
    rw [walkAll]
    cases hnamed : c.isNamed with
    | false =>
      have hnext : plan.next c = (none, plan) := by simp [Plan.next, hnamed]
      rw [hnext]
      exact puts_walkAll rest hrest hplan
    | true =>
      have hnext := hplan.next (c := c) (hc hnamed c .self).start
      split
      · next slot plan' heq =>
        rw [heq] at hnext
        refine (puts_walk c (hc hnamed) (hnext.slot slot rfl)).bind fun _ _ => ?_
        exact puts_walkAll rest hrest hnext.plan
      · next plan' heq =>
        rw [heq] at hnext
        exact puts_walkAll rest hrest hnext.plan

end

/-! Where something may be put in anywhere, nothing is asked of the tree. -/

theorem visits_enter_anywhere (slot : Slot) (n : Node) :
    Visits (fun _ _ => True) s n (enter s slot n) :=
  visits_enter (edges_trivial n) fun _ _ => trivial

theorem puts_walk_anywhere (slot : Slot) (n : Node) :
    Puts (·.At fun _ _ => True) (walk s slot n) (fun _ => True) :=
  puts_walk n (fun d _ => edges_trivial d) fun _ _ => trivial

theorem puts_walkAll_anywhere (plan : Plan) (children : List Node) :
    Puts (·.At fun _ _ => True) (walkAll s plan children) (fun _ => True) :=
  puts_walkAll children (fun _ _ _ d _ => edges_trivial d) (sends_trivial plan)

end Walk

end Instrument

end Coverage
