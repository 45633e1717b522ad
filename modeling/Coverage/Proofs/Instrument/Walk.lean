import Coverage.Proofs.Instrument.Skeleton
import Coverage.Proofs.Instrument.Steps

/-!
# The walk places every counter that it hands out

A counter is handed out in one place and often put into the program in another one, further down in
the tree. Between the two it is a debt. `Progress.Keeps` says that the counters placed so far
and the debts together are what the skeleton expects; a node in a slot is entered with the debts of
the slot (`owed`) and leaves those of its plan (`owedBy`). Entering any node keeps this balance
(`keeps_enter`), and by induction over the tree so does the whole walk (`keeps_walk`), at the end of
which no debts are left.

The ids are 32 bits wide, so all of this holds as long as the skeleton has room for another one.
-/

namespace Coverage.Instrument

open Coverage.Script (Node Kind Role)

/-! ### What the trees of programs without faults have -/

/-- What the syntax gives to every node of a program without faults: the parts in the roles below
are proper nodes, an `if` has something to do, and a case has a colon. -/
structure WellShaped (n : Node) : Prop where
  body : ∀ b, n.child? .body = some b → b.isNamed = true
  consequence : n.kind = .ifStatement → ∃ c, n.child? .consequence = some c ∧ c.isNamed = true
  alternative : ∀ a, n.child? .alternative = some a → a.isNamed = true
  colon : n.kind = .switchCase ∨ n.kind = .switchDefault →
    ∃ c ∈ n.children, c.isToken ":" = true

/-- Every node of the tree is well shaped. -/
inductive Regular : Node → Prop where
  | node (n : Node) (shape : WellShaped n) (children : ∀ c ∈ n.children, Regular c) : Regular n

/-! ### The balance -/

namespace Progress

/-- How often a counter has been placed. -/
def placed (p : Progress) (c : Counter) : Nat := (p.marks.flatMap Mark.counters).count c

/-- The counters that have been placed and the debts are what the skeleton expects. -/
structure Keeps (p : Progress) (debts : List Counter) : Prop where
  sound : p.skeleton.record.Sound
  balance : ∀ c, p.placed c + debts.count c = p.skeleton.record.expected c

/-- The branches with these ids are there. -/
def Knows (p : Progress) (ids : List Id) : Prop :=
  ∀ id ∈ ids, id ∈ p.skeleton.record.branches.keys

/-- All ids of the skeleton so far are below the greatest one. -/
def HasRoom (p : Progress) : Prop := p.skeleton.record.HasRoom

/-- The skeleton has grown since. -/
def Extends (q p : Progress) : Prop := q.skeleton.record.Extends p.skeleton.record

theorem Keeps.perm {p : Progress} {debts debts' : List Counter} (h : p.Keeps debts)
    (hperm : debts.Perm debts') : p.Keeps debts' :=
  ⟨h.sound, fun c => hperm.count_eq c ▸ h.balance c⟩

theorem Knows.of_extends {p q : Progress} {ids : List Id} (h : p.Knows ids) (hq : q.Extends p) :
    q.Knows ids :=
  fun id hid => hq.branches id (h id hid)

end Progress

/-! ### Steps of the walk -/

namespace Recording

variable {α β : Type} {pre pre' : Progress → Prop} {post post' : α → Progress → Prop}

/-- Started where `pre` holds, a step ends where `post` holds, provided that there is room in the
end. In any case the skeleton grows. -/
def Spec (pre : Progress → Prop) (x : Recording α) (post : α → Progress → Prop) : Prop :=
  ∀ p, (x.run p).2.Extends p ∧ ((x.run p).2.HasRoom → pre p → post (x.run p).1 (x.run p).2)

namespace Spec

theorem consequence {x : Recording α} (h : Spec pre x post) (hpre : ∀ p, pre' p → pre p)
    (hpost : ∀ a p, post a p → post' a p) : Spec pre' x post' :=
  fun p => ⟨(h p).1, fun hroom hp => hpost _ _ ((h p).2 hroom (hpre p hp))⟩

theorem pure {a : α} (h : ∀ p, pre p → post a p) : Spec pre (pure a) post :=
  fun p => ⟨.refl _, fun _ hp => h p hp⟩

theorem bind {x : Recording α} {f : α → Recording β} {mid : α → Progress → Prop}
    {post : β → Progress → Prop} (hx : Spec pre x mid) (hf : ∀ a, Spec (mid a) (f a) post) :
    Spec pre (x >>= f) post := by
  intro p
  obtain ⟨hgrow, hmid⟩ := hx p
  obtain ⟨hgrow', hpost⟩ := hf (x.run p).1 (x.run p).2
  refine ⟨hgrow'.trans hgrow, fun hroom hp => hpost hroom (hmid ?_ hp)⟩
  exact FileRecord.HasRoom.of_extends hroom hgrow'

theorem ite {c : Prop} [Decidable c] {x y : Recording α} (hx : c → Spec pre x post)
    (hy : ¬ c → Spec pre y post) : Spec pre (if c then x else y) post := by
  split
  · exact hx ‹_›
  · exact hy ‹_›

/-- The branches that are known stay known. -/
theorem frame {x : Recording α} (h : Spec pre x post) (ids : List Id) :
    Spec (fun p => pre p ∧ p.Knows ids) x (fun a p => post a p ∧ p.Knows ids) :=
  fun p => ⟨(h p).1, fun hroom hp => ⟨(h p).2 hroom hp.1, hp.2.of_extends (h p).1⟩⟩

/-- What does not depend on the progress stays true. -/
theorem also {x : Recording α} (h : Spec pre x post) (known : Prop) :
    Spec (fun p => pre p ∧ known) x (fun a p => post a p ∧ known) :=
  fun p => ⟨(h p).1, fun hroom hp => ⟨(h p).2 hroom hp.1, hp.2⟩⟩

end Spec

variable {debts : List Counter}

theorem spec_mark (m : Mark) :
    Spec (·.Keeps (m.counters ++ debts)) (mark m) (fun _ p => p.Keeps debts) := by
  refine fun p => ⟨.refl _, fun _ h => ⟨h.sound, fun c => ?_⟩⟩
  have hbalance := h.balance c
  rw [List.count_append] at hbalance
  change ((m :: p.marks).flatMap Mark.counters).count c + debts.count c =
    p.skeleton.record.expected c
  rw [List.flatMap_cons, List.count_append]
  simp only [Progress.placed] at hbalance
  omega

/-- A step on the skeleton that expects more counters makes debts of them. -/
theorem spec_onSkeleton {f : Skeleton → Skeleton × α} (pre : Progress → Prop)
    (debt : α → List Counter) (hgrow : ∀ k, (f k).1.record.Extends k.record)
    (hsound : ∀ k : Skeleton, k.record.Sound → (f k).1.record.Sound)
    (hexpected : ∀ p : Progress, pre p → p.skeleton.record.HasRoom → p.skeleton.record.Sound →
      ∀ c, (f p.skeleton).1.record.expected c =
        p.skeleton.record.expected c + (debt (f p.skeleton).2).count c) :
    Spec (fun p => p.Keeps debts ∧ pre p) (onSkeleton f)
      (fun a p => p.Keeps (debt a ++ debts)) := by
  refine fun p => ⟨hgrow p.skeleton, fun hroom ⟨h, hp⟩ => ⟨hsound _ h.sound, fun c => ?_⟩⟩
  have hbalance := h.balance c
  have hold : p.skeleton.record.HasRoom := hroom.of_extends (hgrow p.skeleton)
  change p.placed c + (debt (f p.skeleton).2 ++ debts).count c = (f p.skeleton).1.record.expected c
  rw [hexpected p hp hold h.sound, List.count_append]
  omega

theorem spec_newStatement (range : Location) :
    Spec (·.Keeps debts) (newStatement range)
      (fun id p => p.Keeps (.statement id :: debts)) :=
  (spec_onSkeleton (fun _ => True) (fun id => [.statement id])
    (fun k => k.extends_newStatement range) (fun _ h => Skeleton.sound_newStatement h range)
    fun _ _ hroom _ => Skeleton.expected_newStatement hroom range).consequence
      (fun _ h => ⟨h, trivial⟩) fun _ _ h => h

theorem spec_newFunction (name : Option String) (decl body : Location) :
    Spec (·.Keeps debts) (newFunction name decl body)
      (fun id p => p.Keeps (.function id :: debts)) :=
  (spec_onSkeleton (fun _ => True) (fun id => [.function id])
    (fun k => k.extends_newFunction name decl body)
    (fun _ h => Skeleton.sound_newFunction h name decl body)
    fun _ _ hroom _ => Skeleton.expected_newFunction hroom name decl body).consequence
      (fun _ h => ⟨h, trivial⟩) fun _ _ h => h

theorem spec_newBranch (kind : BranchKind) (range : Location) :
    Spec (·.Keeps debts) (newBranch kind range)
      (fun id p => p.Keeps debts ∧ p.Knows [id]) := by
  have hkeeps : Spec (·.Keeps debts) (newBranch kind range) (fun _ p => p.Keeps debts) :=
    (spec_onSkeleton (fun _ => True) (fun _ => [])
      (fun k => k.extends_newBranch kind range)
      (fun _ h => Skeleton.sound_newBranch h kind range)
      fun _ _ hroom _ c => Skeleton.expected_newBranch hroom kind range c).consequence
        (fun _ h => ⟨h, trivial⟩) fun _ _ h => h
  refine fun p => ⟨(hkeeps p).1, fun hroom h => ⟨(hkeeps p).2 hroom h, ?_⟩⟩
  exact List.forall_mem_singleton.2 (p.skeleton.mem_branches_newBranch kind range)

/-- The counter of an outcome becomes a debt, unless the outcome is skipped. -/
theorem spec_newOutcome (branch : Id) (range : Location) :
    Spec (fun p => p.Keeps debts ∧ p.Knows [branch]) (newOutcome branch range)
      (fun c p => p.Keeps ((if range.skip then [] else [c]) ++ debts)) := by
  have hindex : Spec (fun p => p.Keeps debts ∧ p.Knows [branch])
      (onSkeleton (·.newOutcome branch range))
      (fun j p => p.Keeps ((if range.skip then [] else [.outcome branch j]) ++ debts)) :=
    spec_onSkeleton (·.Knows [branch])
      (fun j => if range.skip then [] else [.outcome branch j])
      (fun k => k.extends_newOutcome branch range)
      (fun _ h => Skeleton.sound_newOutcome h branch range)
      fun _ hknown _ h => Skeleton.expected_newOutcome h (hknown branch List.mem_cons_self) range
  exact hindex.bind fun j => .pure fun _ h => h

/-- An outcome for an expression is placed at once. -/
theorem spec_coverOutcome (s : Setting) (branch : Id) (n : Node) :
    Spec (fun p => p.Keeps debts ∧ p.Knows [branch]) (coverOutcome s branch n)
      (fun _ p => p.Keeps debts) :=
  (spec_newOutcome branch (s.range n)).bind fun c => spec_mark (.pair n.start n.stop c)

end Recording

/-! ### Debts -/

/-- The counters that a node in a slot has to place. -/
def owed : Slot → Node → List Counter
  | .arm (some c), _ => [c]
  | .elseClause c, n => if n.namedChildren.any fun n => !n.isComment then [c] else []
  | .functionBody f, _ => [.function f]
  | _, _ => []

/-- The counters that the children of a node have to place by its plan. -/
def owedBy : Plan → List Node → List Counter
  | _, [] => []
  | plan, c :: rest =>
    match plan.next c with
    | (some slot, plan) => owed slot c ++ owedBy plan rest
    | (none, plan) => owedBy plan rest

/-- The branches that a slot adds outcomes to. -/
def Slot.branches : Slot → List Id
  | .cases b | .case b | .outcome b | .operand b => [b]
  | _ => []

/-- The branches that the children of a node add outcomes to. -/
def Plan.branches : Plan → List Id
  | .cases b => [b]
  | .roles slots => slots.flatMap fun e => e.2.branches
  | _ => []

/-- A slot without debts. -/
def Slot.IsFree : Slot → Prop
  | .arm (some _) | .elseClause _ | .functionBody _ => False
  | _ => True

/-- A slot that any node may stand in; only cases stand as cases. -/
def Slot.IsOpen : Slot → Prop
  | .case _ => False
  | _ => True

/-- Whether a node may stand in a slot. -/
def Slot.Fits (slot : Slot) (n : Node) : Prop :=
  slot.IsOpen ∨ n.kind = .switchCase ∨ n.kind = .switchDefault

/-- A plan whose slots fit the children that get them. -/
def Plan.IsProper : Plan → Prop
  | .roles slots => ∀ e ∈ slots, e.2.IsOpen
  | _ => True

/-- A plan without debts. -/
def Plan.IsFree : Plan → Prop
  | .alternative _ => False
  | .roles slots => ∀ e ∈ slots, e.2.IsFree ∧ e.2.IsOpen
  | _ => True

theorem Plan.IsFree.isProper {plan : Plan} (h : plan.IsFree) : plan.IsProper := by
  cases plan with
  | roles slots => exact fun e he => (h e he).2
  | _ => trivial

theorem owed_of_isFree {slot : Slot} (h : slot.IsFree) (n : Node) : owed slot n = [] := by
  cases slot with
  | arm counter =>
    cases counter with
    | none => rfl
    | some c => exact h.elim
  | elseClause counter => exact h.elim
  | functionBody f => exact h.elim
  | _ => rfl

/-- A slot and the plan for what comes behind it have no branches and no debts but those of the
plan that they come from. -/
structure Plan.Yields (plan : Plan) (c : Node) (next : Option Slot × Plan) : Prop where
  slotFits : ∀ slot, next.1 = some slot → plan.IsProper → slot.Fits c
  slotBranches : ∀ slot, next.1 = some slot → ∀ id ∈ slot.branches, id ∈ plan.branches
  slotFree : ∀ slot, next.1 = some slot → plan.IsFree → slot.IsFree
  branches : ∀ id ∈ next.2.branches, id ∈ plan.branches
  free : plan.IsFree → next.2.IsFree
  proper : plan.IsProper → next.2.IsProper

theorem Plan.yields_none (plan : Plan) (c : Node) : plan.Yields c (none, plan) :=
  ⟨fun _ h => (nomatch h), fun _ h => (nomatch h), fun _ h => (nomatch h), fun _ h => h, id, id⟩

theorem Plan.yields_some (plan : Plan) {slot : Slot} {c : Node} (hfits : slot.Fits c)
    (hbranches : ∀ id ∈ slot.branches, id ∈ plan.branches) (hfree : slot.IsFree) :
    plan.Yields c (some slot, plan) := by
  refine ⟨?_, ?_, ?_, fun _ h => h, id, id⟩
  · intro slot' heq _
    cases heq
    exact hfits
  · intro slot' heq
    cases heq
    exact hbranches
  · intro slot' heq _
    cases heq
    exact hfree

theorem Plan.yields_next (plan : Plan) (c : Node) : plan.Yields c (plan.next c) := by
  have hnone : ∀ {plan : Plan} id, id ∈ ([] : List Id) → id ∈ plan.branches := fun _ h => nomatch h
  have hstep := plan.step_next c
  generalize plan.next c = next at hstep ⊢
  cases hstep with
  | skip => exact yields_none _ c
  | part => exact yields_some _ (.inl trivial) hnone trivial
  | member => exact yields_some _ (.inl trivial) hnone trivial
  | statement =>
    refine ⟨?_, ?_, ?_, fun _ h => (nomatch h), fun _ => trivial, fun _ => trivial⟩
    · exact fun _ h _ => by cases h; exact .inl trivial
    · exact fun _ h _ hid => by cases h; cases hid
    · exact fun _ h _ => by cases h; trivial
  | declarator => exact yields_some _ (.inl trivial) hnone trivial
  | declared => exact yields_some _ (.inl trivial) hnone trivial
  | declaration => exact yields_some _ (.inl trivial) hnone trivial
  | exported => exact yields_some _ (.inl trivial) hnone trivial
  | loopBody => exact yields_some _ (.inl trivial) hnone trivial
  | loopHead => exact yields_some _ (.inl trivial) hnone trivial
  | alternative =>
    refine ⟨?_, ?_, fun _ _ h => h.elim, fun _ h => (nomatch h), fun _ => trivial,
      fun _ => trivial⟩
    · exact fun _ h _ => by cases h; exact .inl trivial
    · exact fun _ h _ hid => by cases h; cases hid
  | case _ hkind => exact yields_some _ (.inr hkind) (fun _ h => h) trivial
  | caseValue => exact yields_some _ (.inl trivial) hnone trivial
  | caseBody => exact yields_some _ (.inl trivial) hnone trivial
  | role _ hmem =>
    refine ⟨?_, ?_, ?_, ?_, fun h e he => h e (List.mem_filter.1 he).1,
      fun h e he => h e (List.mem_filter.1 he).1⟩
    · intro slot' hslot h
      cases hslot
      exact .inl (h _ hmem)
    · intro slot' hslot id hid
      cases hslot
      exact List.mem_flatMap.2 ⟨_, hmem, hid⟩
    · intro slot' hslot h
      cases hslot
      exact (h _ hmem).1
    · intro id hid
      obtain ⟨e, he, hid⟩ := List.mem_flatMap.1 hid
      exact List.mem_flatMap.2 ⟨e, (List.mem_filter.1 he).1, hid⟩

theorem owedBy_of_isFree {plan : Plan} (h : plan.IsFree) (children : List Node) :
    owedBy plan children = [] := by
  induction children generalizing plan with
  | nil => rfl
  | cons c rest ih =>
    have hnext := plan.yields_next c
    rw [owedBy]
    split
    · rename_i slot plan' heq
      rw [heq] at hnext
      rw [owed_of_isFree (hnext.slotFree slot rfl h), ih (hnext.free h), List.nil_append]
    · rename_i plan' heq
      rw [heq] at hnext
      exact ih (hnext.free h)

/-- The first named child in a role. -/
def namedChild? (role : Role) (children : List Node) : Option Node :=
  children.find? fun c => c.isNamed && c.role = some role

theorem namedChild?_cons (role : Role) (c : Node) (rest : List Node) :
    namedChild? role (c :: rest) =
      if c.isNamed && c.role = some role then some c else namedChild? role rest := by
  rw [namedChild?, List.find?_cons]
  split <;> simp_all [namedChild?]

theorem perm_filter_ne {α κ : Type} [DecidableEq κ] {l : List (κ × α)} {e : κ × α}
    (hnodup : (l.map (·.1)).Nodup) (he : e ∈ l) : l.Perm (e :: l.filter fun x => x.1 ≠ e.1) := by
  obtain ⟨before, behind, rfl⟩ := List.append_of_mem he
  have hother : ∀ x ∈ before ++ behind, x.1 ≠ e.1 := by
    have hperm : ((before ++ e :: behind).map (·.1)).Perm ((e :: (before ++ behind)).map (·.1)) :=
      List.perm_middle.map _
    have hcons := hperm.nodup hnodup
    rw [List.map_cons, List.nodup_cons] at hcons
    exact fun x hx heq => hcons.1 (List.mem_map.2 ⟨x, hx, heq⟩)
  have hfilter : (before ++ e :: behind).filter (fun x => x.1 ≠ e.1) = before ++ behind := by
    have hself : (e :: behind).filter (fun x => x.1 ≠ e.1) =
        behind.filter (fun x => x.1 ≠ e.1) := by
      simp
    rw [List.filter_append, hself, ← List.filter_append, List.filter_eq_self]
    exact fun x hx => decide_eq_true (hother x hx)
  rw [hfilter]
  exact List.perm_middle

/-- In a plan by roles each slot falls to the first named child in its role. -/
theorem owedBy_roles (slots : List (Role × Slot)) (hnodup : (slots.map (·.1)).Nodup)
    (children : List Node) :
    (owedBy (.roles slots) children).Perm
      (slots.flatMap fun e => ((namedChild? e.1 children).map (owed e.2)).getD []) := by
  induction children generalizing slots with
  | nil =>
    have hnil : (slots.flatMap fun e =>
        ((namedChild? e.1 []).map (owed e.2)).getD []) = [] :=
      List.flatMap_eq_nil_iff.2 fun _ _ => rfl
    rw [owedBy, hnil]
  | cons c rest ih =>
    have hsame : ∀ l : List (Role × Slot), (∀ e ∈ l, (c.isNamed && c.role = some e.1) = false) →
        (l.flatMap fun e => ((namedChild? e.1 (c :: rest)).map (owed e.2)).getD []) =
          l.flatMap fun e => ((namedChild? e.1 rest).map (owed e.2)).getD [] := by
      intro l hl
      rw [List.flatMap_def, List.flatMap_def]
      refine congrArg List.flatten (List.map_congr_left fun e he => ?_)
      rw [namedChild?_cons, hl e he]
      rfl
    cases hnext : if c.isNamed then c.role.bind fun role => slots.find? (·.1 = role) else none with
    | none =>
      have hskip : (Plan.roles slots).next c = (none, .roles slots) := by
        rw [Plan.next.eq_def]
        cases hnamed : c.isNamed with
        | false => rfl
        | true =>
          rw [hnamed] at hnext
          simp only [if_true] at hnext
          simp only [Bool.not_true, Bool.false_eq_true, if_false, hnext]
      rw [owedBy, hskip, hsame]
      · exact ih slots hnodup
      · intro e he
        cases hnamed : c.isNamed with
        | false => rfl
        | true =>
          refine Bool.eq_false_iff.2 fun hrole => ?_
          rw [hnamed, if_pos rfl, of_decide_eq_true hrole, Option.bind_some,
            List.find?_eq_none] at hnext
          exact hnext e he (decide_eq_true rfl)
    | some e =>
      obtain ⟨hnamed, hbind⟩ := Option.ite_none_right_eq_some.1 hnext
      obtain ⟨role, hrole, hfind⟩ := Option.bind_eq_some_iff.1 hbind
      have hmem := List.mem_of_find?_eq_some hfind
      have hkey : e.1 = role := by simpa using List.find?_some hfind
      have hstep : (Plan.roles slots).next c =
          (some e.2, .roles (slots.filter fun x => x.1 ≠ e.1)) := by
        rw [Plan.next.eq_def]
        simp only [hnamed, Bool.not_true, Bool.false_eq_true, if_false, hbind]
      have hself : namedChild? e.1 (c :: rest) = some c := by
        rw [namedChild?_cons, hnamed, hrole, hkey]
        simp
      have hothers : ∀ x ∈ slots.filter (fun x => x.1 ≠ e.1),
          (c.isNamed && c.role = some x.1) = false := by
        intro x hx
        have hne : ¬ x.1 = e.1 := of_decide_eq_true (List.mem_filter.1 hx).2
        rw [hrole, ← hkey]
        simp [Ne.symm hne]
      have hrest := ih (slots.filter fun x => x.1 ≠ e.1)
        (hnodup.sublist (List.filter_sublist.map _))
      rw [owedBy, hstep]
      refine List.Perm.trans ?_ ((perm_filter_ne hnodup hmem).flatMap_right _).symm
      rw [List.flatMap_cons, hself, hsame _ hothers]
      exact hrest.append_left _

/-- The alternative of an `if` is the first child of its clause that is not a comment. -/
theorem owedBy_alternative (c : Counter) (children : List Node) :
    owedBy (.alternative c) children =
      if children.any fun n => n.isNamed && !n.isComment then [c] else [] := by
  induction children with
  | nil => rfl
  | cons n rest ih =>
    have hfree : Plan.nothing.IsFree := trivial
    have hnothing := owedBy_of_isFree hfree rest
    rw [owedBy, Plan.next.eq_def]
    cases hnamed : n.isNamed <;> cases hcomment : n.isComment <;>
      simp [hnamed, hcomment, ih, hnothing, owed]

theorem namedChild?_of_child? {n b : Node} {role : Role} (h : n.child? role = some b)
    (hnamed : b.isNamed = true) : namedChild? role n.children = some b := by
  rw [Node.child?] at h
  rw [namedChild?]
  generalize n.children = children at h ⊢
  induction children with
  | nil => cases h
  | cons c rest ih =>
    rw [List.find?_cons] at h ⊢
    cases hrole : decide (c.role = some role) with
    | true =>
      rw [hrole] at h
      cases h
      simp [hnamed]
    | false =>
      rw [hrole] at h
      simpa using ih h

theorem namedChild?_eq_none {n : Node} {role : Role} (h : n.child? role = none) :
    namedChild? role n.children = none := by
  rw [Node.child?, List.find?_eq_none] at h
  rw [namedChild?, List.find?_eq_none]
  intro c hc
  simp [h c hc]

/-! ### Entering a node -/

open Recording

/-- A node stands in a slot: the debts of the slot come on top. -/
structure Stands (n : Node) (debts : List Counter) (slot : Slot) (p : Progress) : Prop where
  keeps : p.Keeps (owed slot n ++ debts)
  knows : p.Knows slot.branches
  fits : slot.Fits n

/-- The children of a node that has been entered: the debts of the plan come on top. -/
structure Opens (children : List Node) (debts : List Counter) (plan : Plan) (p : Progress) :
    Prop where
  keeps : p.Keeps (owedBy plan children ++ debts)
  knows : p.Knows plan.branches
  proper : plan.IsProper

theorem Opens.of_perm {children : List Node} {debts own : List Counter} {plan : Plan}
    {p : Progress} (h : p.Keeps (own ++ debts)) (hperm : (owedBy plan children).Perm own)
    (hknown : p.Knows plan.branches) (hproper : plan.IsProper) : Opens children debts plan p :=
  ⟨h.perm (hperm.symm.append_right debts), hknown, hproper⟩

theorem Opens.of_isFree {children : List Node} {debts : List Counter} {plan : Plan} {p : Progress}
    (h : p.Keeps debts) (hfree : plan.IsFree) (hknown : p.Knows plan.branches) :
    Opens children debts plan p := by
  refine ⟨?_, hknown, hfree.isProper⟩
  rw [owedBy_of_isFree hfree]
  exact h

section Enter

variable {s : Setting} {n : Node} {debts : List Counter}

/-- A plan without debts and without branches. -/
theorem spec_plan (plan : Plan) (hfree : plan.IsFree) (hbranches : plan.branches = []) :
    Spec (·.Keeps debts) (pure plan) (Opens n.children debts) :=
  .pure fun _ h => .of_isFree h hfree (hbranches ▸ fun _ hid => nomatch hid)

theorem getD_map_owed_of_isFree {slot : Slot} (h : slot.IsFree) (c : Option Node) :
    (c.map (owed slot)).getD [] = [] := by
  cases c with
  | none => rfl
  | some c => exact owed_of_isFree h c

/-- The counter of a function is left to its body. -/
theorem spec_enterFunction (hn : WellShaped n) :
    Spec (·.Keeps debts) (enterFunction s n) (Opens n.children debts) := by
  rw [enterFunction]
  cases hbody : n.child? .body with
  | none => exact spec_plan _ trivial rfl
  | some body =>
    refine (spec_newFunction _ _ _).bind fun id => .pure fun p h => ?_
    have hnamed := namedChild?_of_child? hbody (hn.body body hbody)
    have hpart : Slot.part.IsFree := trivial
    have hdebts : p.Keeps ([.function id] ++ debts) := h
    refine .of_perm hdebts ((owedBy_roles _ ?_ n.children).trans ?_) ?_ ?_
    · split <;> simp
    · split <;> simp [getD_map_owed_of_isFree hpart, hnamed, owed]
    · intro id hid
      split at hid <;> simp [Plan.branches, Slot.branches] at hid
    · split <;> simp [Plan.IsProper, Slot.IsOpen]

/-- The alternative of an `if`: what its clause holds. -/
def alternativeOf (n : Node) : Option Node := do
  (← n.child? .alternative).namedChildren.find? fun c => !c.isComment

theorem any_isSome_find? {α : Type} (p : α → Bool) (l : List α) :
    (l.find? p).isSome = l.any p := by
  rw [Bool.eq_iff_iff, List.find?_isSome, List.any_eq_true]

/-- Both arms of an `if` place their counters, except for an arm that is left out and for an
alternative that is not there. -/
theorem owedBy_if (hn : WellShaped n) (hkind : n.kind = .ifStatement) (hint : Option Hint)
    (first second : Counter) :
    (owedBy (.roles ((.condition, .part) ::
      (if hint = some .ifArm then [] else [(.consequence, .arm (some first))]) ++
      (if hint = some .elseArm then [] else [(.alternative, .elseClause second)])))
      n.children).Perm
      ((if hint = some .ifArm then [] else [first]) ++
        (if hint = some .elseArm || (alternativeOf n).isNone then [] else [second])) := by
  have hpart : Slot.part.IsFree := trivial
  obtain ⟨c, hc, hnamed⟩ := hn.consequence hkind
  have hfirst := namedChild?_of_child? hc hnamed
  have hsecond : ((namedChild? .alternative n.children).map (owed (.elseClause second))).getD [] =
      if (alternativeOf n).isNone then [] else [second] := by
    cases ha : n.child? .alternative with
    | none => simp [namedChild?_eq_none ha, alternativeOf, ha]
    | some a =>
      have halt : alternativeOf n = a.namedChildren.find? fun c => !c.isComment := by
        rw [alternativeOf, ha]
        rfl
      rw [namedChild?_of_child? ha (hn.alternative a ha), halt, Option.map_some, Option.getD_some,
        owed, ← any_isSome_find?]
      cases a.namedChildren.find? fun c => !c.isComment <;> rfl
  refine (owedBy_roles _ ?_ n.children).trans ?_
  · split <;> split <;> simp
  · by_cases h₁ : hint = some .ifArm <;> by_cases h₂ : hint = some .elseArm <;>
      simp [h₁, h₂, getD_map_owed_of_isFree hpart, hfirst, hsecond, owed]

@[simp] theorem skip_range (s : Setting) (n : Node) : (s.range n).skip = false := rfl

/-- An arm that is left out has an outcome, but nothing to place. -/
theorem spec_newArm (branch : Id) {range : Location} (hrange : range.skip = false) (out : Prop)
    [Decidable out] :
    Spec (fun p => p.Keeps debts ∧ p.Knows [branch])
      (newOutcome branch (if out then range.skipped else range))
      (fun c p => p.Keeps ((if out then [] else [c]) ++ debts)) := by
  refine (spec_newOutcome branch _).consequence (fun _ h => h) fun c p h => ?_
  split at h <;> simp_all [Location.skipped]

theorem spec_enterIf (hn : WellShaped n) (hkind : n.kind = .ifStatement) :
    Spec (·.Keeps debts) (enterIf s n) (Opens n.children debts) := by
  rw [enterIf]
  refine (spec_newBranch _ _).bind fun branch => ?_
  refine (((spec_newArm branch (skip_range s n) _).frame [branch]).consequence
    (fun p h => ⟨h, h.2⟩) fun _ _ h => h).bind fun first => ?_
  refine (spec_newArm branch (by split <;> rfl) _).bind fun second => ?_
  have hplan := owedBy_if hn hkind (s.hint n) first second
  have hknown : ∀ p : Progress, p.Knows (Plan.branches (.roles ((.condition, .part) ::
      (if s.hint n = some .ifArm then [] else [(.consequence, .arm (some first))]) ++
      (if s.hint n = some .elseArm then [] else [(.alternative, .elseClause second)])))) := by
    intro p id hid
    split at hid <;> split at hid <;> simp [Plan.branches, Slot.branches] at hid
  have hproper : Plan.IsProper (.roles ((.condition, .part) ::
      (if s.hint n = some .ifArm then [] else [(.consequence, .arm (some first))]) ++
      (if s.hint n = some .elseArm then [] else [(.alternative, .elseClause second)]))) := by
    split <;> split <;> simp [Plan.IsProper, Slot.IsOpen]
  refine .ite (fun hcond => ?_) fun hcond => ?_
  · -- Without an alternative its counter becomes one.
    obtain ⟨hnone, hhint⟩ := Bool.and_eq_true_iff.1 hcond
    have hnone : (alternativeOf n).isNone = true := hnone
    have hhint : ¬ s.hint n = some .elseArm := of_decide_eq_true hhint
    simp only [if_neg hhint] at hplan hknown hproper ⊢
    refine (spec_mark (.alternative _ second)).bind fun _ => .pure fun p h => ?_
    refine .of_perm h (hplan.trans ?_) (hknown p) hproper
    simp [hnone, hhint]
  · have hsame : (if s.hint n = some .elseArm || (alternativeOf n).isNone then []
        else [second]) = if s.hint n = some .elseArm then [] else [second] := by
      by_cases hhint : s.hint n = some .elseArm
      · simp [hhint]
      · have hsome : (alternativeOf n).isNone = false := by
          refine Bool.eq_false_iff.2 fun hnone => hcond ?_
          exact Bool.and_eq_true_iff.2 ⟨hnone, decide_eq_true hhint⟩
        simp [hhint, hsome]
    rw [hsame] at hplan
    refine .pure fun p h => .of_perm ?_ (hplan.trans List.perm_append_comm) (hknown p) hproper
    rw [List.append_assoc]
    exact h

theorem spec_enterSwitch : Spec (·.Keeps debts) (enterSwitch s n) (Opens n.children debts) := by
  refine (spec_newBranch _ _).bind fun branch => .pure fun p h => ?_
  refine .of_isFree h.1 ?_ h.2
  intro e he
  simp only [List.mem_cons, List.not_mem_nil, or_false] at he
  rcases he with rfl | rfl <;> exact ⟨trivial, trivial⟩

theorem spec_enterConditional :
    Spec (·.Keeps debts) (enterConditional s n) (Opens n.children debts) := by
  refine (spec_newBranch _ _).bind fun branch => .pure fun p h => ?_
  refine .of_isFree h.1 ?_ ?_
  · intro e he
    simp only [List.mem_cons, List.not_mem_nil, or_false] at he
    rcases he with rfl | rfl | rfl <;> exact ⟨trivial, trivial⟩
  · intro id hid
    simp only [Plan.branches, Slot.branches, List.flatMap_cons, List.flatMap_nil, List.nil_append,
      List.append_nil, List.mem_append, or_self] at hid
    exact h.2 id hid

theorem opens_operands {branch : Id} {p : Progress} (h : p.Keeps debts) (hb : p.Knows [branch]) :
    Opens n.children debts (operands branch) p := by
  refine .of_isFree h ?_ ?_
  · intro e he
    simp only [List.mem_cons, List.not_mem_nil, or_false] at he
    rcases he with rfl | rfl <;> exact ⟨trivial, trivial⟩
  · intro id hid
    simp only [operands, Plan.branches, Slot.branches, List.flatMap_cons, List.flatMap_nil,
      List.append_nil, List.mem_append, or_self] at hid
    exact hb id hid

theorem spec_enterLogical : Spec (·.Keeps debts) (enterLogical s n) (Opens n.children debts) :=
  (spec_newBranch _ _).bind fun _ => .pure fun _ h => opens_operands h.1 h.2

theorem spec_enterConstruct (hn : WellShaped n) (offset : Nat) :
    Spec (·.Keeps debts) (enterConstruct s offset n) (Opens n.children debts) := by
  rw [enterConstruct]
  split
  case h_1 hkind => exact spec_enterIf hn hkind
  case h_2 => exact spec_enterSwitch
  case h_3 =>
    refine spec_plan _ (fun e he => ?_) rfl
    rw [List.mem_singleton.1 he]
    exact ⟨trivial, trivial⟩
  case h_13 =>
    refine .ite (fun _ => spec_enterFunction hn) fun _ => spec_plan _ trivial rfl
  all_goals exact spec_plan _ trivial rfl

/-- A statement with a counter of its own places it in front. -/
theorem spec_enterStatement (hn : WellShaped n) (offset : Nat) :
    Spec (·.Keeps debts) (enterStatement s offset n) (Opens n.children debts) := by
  rw [enterStatement]
  refine .ite (fun _ => spec_plan _ trivial rfl) fun _ => ?_
  refine .ite (fun _ => ?_) fun _ => spec_enterConstruct hn offset
  refine (spec_newStatement _).bind fun id => ?_
  refine (spec_mark (.count offset (.statement id))).bind fun _ => ?_
  exact spec_enterConstruct hn offset

theorem spec_enterPart (hn : WellShaped n) :
    Spec (·.Keeps debts) (enterPart s n) (Opens n.children debts) := by
  have hroles : ∀ slots : List (Role × Slot), (∀ e ∈ slots, e.2 = .part ∨
      (∃ l, e.2 = .defaultValue l) ∨ e.2 = .initializer none) →
      Spec (·.Keeps debts) (pure (Plan.roles slots)) (Opens n.children debts) := by
    intro slots h
    refine spec_plan _ (fun e he => ?_) (List.flatMap_eq_nil_iff.2 fun e he => ?_)
    · rcases h e he with heq | ⟨_, heq⟩ | heq <;> rw [heq] <;> exact ⟨trivial, trivial⟩
    · rcases h e he with heq | ⟨_, heq⟩ | heq <;> rw [heq] <;> rfl
  rw [enterPart]
  refine .ite (fun _ => spec_plan _ trivial rfl) fun _ => ?_
  split
  · exact spec_enterConditional
  · exact .ite (fun _ => spec_enterLogical) fun _ => spec_plan _ trivial rfl
  · exact hroles _ (by simp)
  · exact hroles _ (by simp)
  · exact spec_plan _ trivial rfl
  · exact spec_plan _ trivial rfl
  · exact hroles _ (by simp)
  · exact spec_plan _ trivial rfl
  · exact spec_plan _ trivial rfl
  · refine .ite (fun _ => spec_enterFunction hn) fun _ => ?_
    exact .ite (fun _ => spec_enterStatement hn n.start) fun _ => spec_plan _ trivial rfl

/-- An arm places its counter, whether it is a block or gets one. -/
theorem spec_enterArm (hn : WellShaped n) (counter : Option Counter) :
    Spec (·.Keeps (owed (.arm counter) n ++ debts)) (enterArm s counter n)
      (Opens n.children debts) := by
  rw [enterArm]
  refine .ite (fun _ => ?_) fun _ => ?_
  · have hrest : Spec (·.Keeps debts)
        (pure (if s.leavesOut n then Plan.nothing else Plan.statements false))
        (Opens n.children debts) := by
      split <;> exact spec_plan _ trivial rfl
    cases counter with
    | none => exact hrest
    | some c => exact (spec_mark (.count (n.start + 1) c)).bind fun _ => hrest
  · refine (spec_mark (.block n.start n.stop)).bind fun _ => ?_
    cases counter with
    | none => exact spec_enterStatement hn n.start
    | some c =>
      exact (spec_mark (.count n.start c)).bind fun _ => spec_enterStatement hn n.start

theorem spec_enterInitializer (hn : WellShaped n) (offset : Option Nat) :
    Spec (·.Keeps debts) (enterInitializer s offset n) (Opens n.children debts) := by
  rw [enterInitializer]
  refine (spec_newStatement _).bind fun id => ?_
  have hpair : Spec (·.Keeps (.statement id :: debts))
      (mark (.pair n.start n.stop (.statement id))) (fun _ p => p.Keeps debts) :=
    spec_mark (.pair n.start n.stop (.statement id))
  cases offset with
  | none => exact hpair.bind fun _ => spec_enterPart hn
  | some offset =>
    refine .ite (fun _ => ?_) fun _ => hpair.bind fun _ => spec_enterPart hn
    exact (spec_mark (.count offset (.statement id))).bind fun _ => spec_enterPart hn

/-- The body of a function places the counter of the function. -/
theorem spec_enterBody (hn : WellShaped n) (f : Id) :
    Spec (·.Keeps (owed (.functionBody f) n ++ debts)) (enterBody s f n)
      (Opens n.children debts) := by
  rw [enterBody]
  refine .ite (fun _ => ?_) fun _ => ?_
  · exact (spec_mark (.entry _ _ (.function f))).bind fun _ => spec_plan _ trivial rfl
  · refine (spec_newStatement _).bind fun id => ?_
    have hbody : Spec (·.Keeps (.statement id :: (owed (.functionBody f) n ++ debts)))
        (mark (.body n.start n.stop (.function f) (.statement id))) (fun _ p => p.Keeps debts) :=
      (spec_mark (.body n.start n.stop (.function f) (.statement id))).consequence
        (fun p h => h.perm (List.Perm.swap ..)) fun _ _ h => h
    exact hbody.bind fun _ => spec_enterPart hn

theorem spec_enterCase (hn : WellShaped n) (branch : Id) :
    Spec (Stands n debts (.case branch)) (enterCase s branch n) (Opens n.children debts) := by
  rw [enterCase]
  refine .ite (fun _ => ?_) fun _ => ?_
  · exact (spec_plan .nothing trivial rfl).consequence (fun _ h => h.keeps)
      fun _ _ h => h
  · have houtcome : Spec (Stands n debts (.case branch)) (newOutcome branch (s.range n))
        (fun c p => p.Keeps (c :: debts) ∧ Slot.Fits (.case branch) n) :=
      ((spec_newOutcome branch (s.range n)).also (Slot.Fits (.case branch) n)).consequence
        (fun _ h => ⟨⟨h.keeps, h.knows⟩, h.fits⟩) fun _ _ h => h
    refine houtcome.bind fun c => ?_
    cases hfind : n.children.find? fun c => c.isToken ":" with
    | none =>
      -- Only cases stand in this slot, and they have a colon.
      refine .pure fun p h => ?_
      obtain hopen | hkind := h.2
      · exact hopen.elim
      · obtain ⟨colon, hmem, hcolon⟩ := hn.colon hkind
        exact absurd hcolon (List.find?_eq_none.1 hfind colon hmem)
    | some colon =>
      refine Spec.consequence ?_ (fun _ h => h.1) fun _ _ h => h
      exact (spec_mark (.count colon.stop c)).bind fun _ => spec_plan .case trivial rfl

/-- An expression that is an outcome of a branch. -/
theorem spec_enterOutcome (hn : WellShaped n) (branch : Id) :
    Spec (fun p => p.Keeps debts ∧ p.Knows [branch])
      (do coverOutcome s branch n; enterPart s n) (Opens n.children debts) :=
  (spec_coverOutcome s branch n).bind fun _ => spec_enterPart hn

theorem spec_enterOperand (hn : WellShaped n) (branch : Id) :
    Spec (fun p => p.Keeps debts ∧ p.Knows [branch]) (enterOperand s branch n)
      (Opens n.children debts) := by
  rw [enterOperand]
  refine .ite (fun _ => ?_) fun _ => ?_
  · exact (spec_plan .nothing trivial rfl).consequence (fun _ h => h.1) fun _ _ h => h
  · refine .ite (fun _ => .pure fun _ h => opens_operands h.1 h.2) fun _ => ?_
    exact spec_enterOutcome hn branch

/-- Entering any node keeps the balance: the debts of its slot are placed or handed on. -/
theorem spec_enter (hn : WellShaped n) (slot : Slot) :
    Spec (Stands n debts slot) (enter s slot n) (Opens n.children debts) := by
  have hkeeps : ∀ {x : Recording Plan},
      Spec (·.Keeps (owed slot n ++ debts)) x (Opens n.children debts) →
      Spec (Stands n debts slot) x (Opens n.children debts) :=
    fun h => h.consequence (fun _ hp => hp.keeps) fun _ _ h => h
  rw [enter.eq_def]
  cases slot with
  | part => exact hkeeps (spec_enterPart hn)
  | statement offset => exact hkeeps (spec_enterStatement hn offset)
  | arm counter => exact hkeeps (spec_enterArm hn counter)
  | elseClause counter =>
    refine .pure fun p h => .of_perm h.keeps ?_ (List.forall_mem_nil _) trivial
    rw [owedBy_alternative, owed, Node.namedChildren, List.any_filter]
  | loopHead => exact hkeeps (.ite (fun _ => spec_plan _ trivial rfl) fun _ => spec_enterPart hn)
  | declaration offset => exact hkeeps (spec_plan _ trivial rfl)
  | declarator offset =>
    refine hkeeps (spec_plan _ (fun e he => ?_) rfl)
    simp only [List.mem_cons, List.not_mem_nil, or_false] at he
    rcases he with rfl | rfl <;> exact ⟨trivial, trivial⟩
  | initializer offset => exact hkeeps (spec_enterInitializer hn offset)
  | member => exact hkeeps (.ite (fun _ => spec_plan _ trivial rfl) fun _ => spec_enterPart hn)
  | functionBody f => exact hkeeps (spec_enterBody hn f)
  | cases branch => exact .pure fun p h => .of_isFree h.keeps trivial h.knows
  | case branch => exact spec_enterCase hn branch
  | outcome branch =>
    refine .ite (fun _ => hkeeps (spec_plan _ trivial rfl)) fun _ => ?_
    exact (spec_enterOutcome hn branch).consequence (fun _ h => ⟨h.keeps, h.knows⟩)
      fun _ _ h => h
  | operand branch =>
    exact (spec_enterOperand hn branch).consequence (fun _ h => ⟨h.keeps, h.knows⟩)
      fun _ _ h => h
  | defaultValue pattern =>
    exact hkeeps ((spec_newBranch .defaultValue pattern).bind fun branch =>
      spec_enterOutcome hn branch)

end Enter

/-! ### The whole walk -/

mutual

/-- The walk through a node places all that its slot owes. -/
theorem spec_walk (s : Setting) (debts : List Counter) (slot : Slot) : (n : Node) → Regular n →
    Spec (Stands n debts slot) (walk s slot n) (fun _ p => p.Keeps debts)
  | ⟨kind, role, start, stop, children⟩, .node _ shape hchildren => by
    rw [walk]
    refine (spec_enter shape slot).bind fun plan => ?_
    exact spec_walkAll s debts plan children hchildren

/-- The walk through the children of a node places all that its plan owes. -/
theorem spec_walkAll (s : Setting) (debts : List Counter) (plan : Plan) :
    (children : List Node) → (∀ c ∈ children, Regular c) →
    Spec (Opens children debts plan) (walkAll s plan children) (fun _ p => p.Keeps debts)
  | [], _ => by
    rw [walkAll]
    exact .pure fun p h => h.keeps
  | c :: rest, hregular => by
    have hc : Regular c := hregular c List.mem_cons_self
    have hrest : ∀ c ∈ rest, Regular c := fun c h => hregular c (List.mem_cons_of_mem _ h)
    have hnext := plan.yields_next c
    rw [walkAll]
    split
    · rename_i slot plan' heq
      rw [heq] at hnext
      have hwalk := spec_walk s (owedBy plan' rest ++ debts) slot c hc
      refine (((hwalk.frame plan'.branches).also plan'.IsProper).consequence ?_ ?_).bind
        fun _ => spec_walkAll s debts plan' rest hrest
      · intro p h
        have howed : owedBy plan (c :: rest) = owed slot c ++ owedBy plan' rest := by
          rw [owedBy, heq]
        have hkeeps := h.keeps
        rw [howed, List.append_assoc] at hkeeps
        refine ⟨⟨⟨hkeeps, ?_, hnext.slotFits slot rfl h.proper⟩, ?_⟩, hnext.proper h.proper⟩
        · exact fun id hid => h.knows id (hnext.slotBranches slot rfl id hid)
        · exact fun id hid => h.knows id (hnext.branches id hid)
      · exact fun _ p h => ⟨h.1.1, h.1.2, h.2⟩
    · rename_i plan' heq
      rw [heq] at hnext
      refine (spec_walkAll s debts plan' rest hrest).consequence (fun p h => ?_) fun _ _ h => h
      have howed : owedBy plan (c :: rest) = owedBy plan' rest := by
        rw [owedBy, heq]
      exact ⟨howed ▸ h.keeps, fun id hid => h.knows id (hnext.branches id hid),
        hnext.proper h.proper⟩

end

end Coverage.Instrument
