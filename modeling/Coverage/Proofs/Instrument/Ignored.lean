import Coverage.Proofs.Instrument.Hints
import Coverage.Proofs.Instrument.Placement
import Coverage.Proofs.Script.Nesting

/-!
# What is recorded of a node that is left out

A hint leaves a node out where the walk asks for it: `Slot.checks` says in which slots it does.
Entering a node records its own range, the range of a function body below it, or the range of the
pattern that it is a default value of (`clears_enter`). Entering one that is left out through a slot
that asks records none of what is in it and stops the walk (`stops_enter`). So the walk records
nothing within such a node (`clear_walk`).

The main result is `instrumentProgram_ignored`. The nodes that are entered without being asked for
are those that `overlooks` lists; where a hint stands in front of one of them, what is in it is
recorded all the same.
-/

namespace Coverage

/-- The ranges that a record describes: those of statements, of function bodies, and of branches. -/
def FileRecord.ranges (r : FileRecord) : List Location :=
  r.statements.entries.map (·.2) ++ r.functions.entries.map (·.2.body) ++
    r.branches.entries.filterMap (·.2.range)

namespace Instrument

open Coverage.Script (Node Kind Role)

/-! ### Nodes that are entered whatever the hints are -/

/-- Whether a node in a role is entered without being asked for: the body of a function or of a
`switch`, the value of a variable or of a field, and the alternative of an `if`. -/
def overlooksRole (kind : Kind) : Role → Bool
  | .body => kind.isFunction || kind = .switchStatement
  | .value => kind = .variableDeclarator || kind = .fieldDefinition
  | .alternative => kind = .ifStatement
  | _ => false

/-- Whether a child of a node is entered without being asked for. Besides those in certain roles
these are variables with their values and declarations of variables that are exported. -/
def overlooks (m c : Node) : Bool :=
  (m.kind.declaresVariables && c.kind = .variableDeclarator) ||
    (m.kind = .exportStatement && c.kind.declaresVariables) ||
    match c.role with
    | some role => overlooksRole m.kind role
    | none => false

namespace Slot

/-- Whether a node in a slot is left out when a hint says so. -/
def checks : Slot → Bool
  | .elseClause _ | .declaration _ | .declarator _ | .initializer _ | .functionBody _ | .cases _ =>
    false
  | _ => true

/-- A slot that a node can stand in, and that records only free ranges of its own. -/
def Suits (free : Location → Prop) (c : Node) : Slot → Prop
  | .declaration _ => c.kind.declaresVariables = true
  | .declarator _ => c.kind = .variableDeclarator
  | .defaultValue pattern => free pattern
  | _ => True

/-- A slot that a child of a node is given. -/
structure Given (free : Location → Prop) (m c : Node) (slot : Slot) : Prop where
  suits : slot.Suits free c
  seen : slot.checks = true ∨ overlooks m c = true

end Slot

/-- A plan that gives the children of a node their slots. -/
def Plan.Sound (free : Location → Prop) (m : Node) : Plan → Prop
  | .declarators _ => m.kind.declaresVariables = true
  | .exports _ => m.kind = .exportStatement
  | .roles slots => ∀ e ∈ slots, ∀ c : Node, c.role = some e.1 → e.2.Given free m c
  | _ => True

/-- A child is given its slot, and the plan is one for the children behind it. -/
structure NextSound (free : Location → Prop) (m c : Node) (next : Option Slot × Plan) : Prop where
  slot : ∀ slot, next.1 = some slot → slot.Given free m c
  plan : next.2.Sound free m

section Next

variable {free : Location → Prop} {m c : Node} {slot : Slot} {plan : Plan}

theorem Slot.Given.of_checks (hsuits : slot.Suits free c) (hchecks : slot.checks = true) :
    slot.Given free m c := ⟨hsuits, .inl hchecks⟩

/-- In a role that is overlooked a slot need not ask. -/
theorem Plan.Sound.of_roles {slots : List (Role × Slot)}
    (h : ∀ e ∈ slots, (e.2.checks = true ∨ overlooksRole m.kind e.1 = true) ∧
      ∀ c : Node, e.2.Suits free c) : (Plan.roles slots).Sound free m := by
  intro e he c hc
  obtain ⟨hseen, hsuits⟩ := h e he
  refine ⟨hsuits c, hseen.imp_right fun hrole => ?_⟩
  simp only [overlooks, hc, hrole, Bool.or_true]

theorem NextSound.skip (h : plan.Sound free m) : NextSound free m c (none, plan) := ⟨nofun, h⟩

theorem NextSound.fill (h : plan.Sound free m) (hslot : slot.Given free m c) :
    NextSound free m c (some slot, plan) :=
  ⟨fun _ heq => Option.some.inj heq ▸ hslot, h⟩

/-- Every child is given its slot by the plan. -/
theorem Plan.Sound.next (h : plan.Sound free m) (c : Node) : NextSound free m c (plan.next c) := by
  have hchecked : ∀ {slot : Slot}, slot.Suits free c → slot.checks = true →
      slot.Given free m c := Slot.Given.of_checks
  have hstep := plan.step_next c
  generalize plan.next c = next at hstep ⊢
  cases hstep with
  | skip => exact .skip h
  | part => exact .fill h (hchecked trivial rfl)
  | member => exact .fill h (hchecked trivial rfl)
  | statement => exact .fill trivial (hchecked trivial rfl)
  | declarator _ hkind =>
    have hm : m.kind.declaresVariables = true := h
    exact .fill h ⟨hkind, .inr (by simp [overlooks, hm, hkind])⟩
  | declared => exact .fill h (hchecked trivial rfl)
  | declaration _ hkind =>
    have hm : m.kind = .exportStatement := h
    exact .fill h ⟨hkind, .inr (by simp [overlooks, hm, hkind])⟩
  | exported => exact .fill h (hchecked trivial rfl)
  | loopBody => exact .fill h (hchecked trivial rfl)
  | loopHead => exact .fill h (hchecked trivial rfl)
  | alternative => exact .fill trivial (hchecked trivial rfl)
  | case => exact .fill h (hchecked trivial rfl)
  | caseValue => exact .fill h (hchecked trivial rfl)
  | caseBody => exact .fill h (hchecked trivial rfl)
  | role hrole hslot => exact .fill (fun e he => h e (List.mem_filter.1 he).1) (h _ hslot c hrole)

end Next

/-! ### Growing skeletons -/

/-- All ranges that have been recorded are free. -/
structure Skeleton.Clear (free : Location → Prop) (k : Skeleton) : Prop where
  statements : ∀ id l, k.record.statements.get? id = some l → free l
  functions : ∀ id f, k.record.functions.get? id = some f → free f.body
  branches : ∀ id b, k.record.branches.get? id = some b → ∀ l, b.range = some l → free l

namespace Skeleton.Clear

variable {free : Location → Prop} {k : Skeleton}

theorem newStatement (h : k.Clear free) {range : Location} (hrange : free range) :
    (k.newStatement range).1.Clear free :=
  ⟨Table.forall_get?_insert h.statements _ hrange, h.functions, h.branches⟩

theorem newFunction (h : k.Clear free) (name : Option String) (decl : Location) {body : Location}
    (hbody : free body) : (k.newFunction name decl body).1.Clear free := by
  have hnew := Table.forall_get?_insert (P := fun f : FunctionEntry => free f.body) h.functions
  exact ⟨h.statements, hnew _ hbody, h.branches⟩

theorem newBranch (h : k.Clear free) (kind : BranchKind) {range : Location} (hrange : free range) :
    (k.newBranch kind range).1.Clear free := by
  have hnew := Table.forall_get?_insert (P := fun b : BranchEntry => ∀ l, b.range = some l → free l)
    h.branches
  refine ⟨h.statements, h.functions, hnew _ ?_⟩
  rintro l ⟨⟩
  exact hrange

/-- An outcome is added to a branch, which keeps its own range. -/
theorem newOutcome (h : k.Clear free) (branch : Id) (range : Location) :
    (k.newOutcome branch range).1.Clear free := by
  rw [Skeleton.newOutcome]
  split
  · next b counts hb _ =>
    have hnew := Table.forall_get?_insert
      (P := fun b : BranchEntry => ∀ l, b.range = some l → free l) h.branches
    exact ⟨h.statements, h.functions, hnew branch (h.branches branch b hb)⟩
  · exact h

theorem freeze (h : k.Clear free) : ∀ l ∈ k.freeze.ranges, free l := by
  intro l hl
  simp only [FileRecord.ranges, List.mem_append, List.mem_map, List.mem_filterMap] at hl
  rcases hl with (⟨e, he, rfl⟩ | ⟨e, he, rfl⟩) | ⟨e, he, hl⟩
  · exact h.statements e.1 e.2 (Table.get?_eq_some_iff.2 he)
  · exact h.functions e.1 e.2 (Table.get?_eq_some_iff.2 he)
  · have hget := Table.get?_eq_some_iff.2 he
    rw [get?_branches_freeze, Option.filter_eq_some_iff] at hget
    exact h.branches e.1 e.2 hget.1 l hl

end Skeleton.Clear

namespace Recording

variable {α : Type} {free : Location → Prop}

theorem clear_mark (m : Mark) :
    Ensures (·.skeleton.Clear free) (mark m) (fun _ => True) := fun _ hp => ⟨hp, trivial⟩

theorem clear_onSkeleton {f : Skeleton → Skeleton × α}
    (h : ∀ k : Skeleton, k.Clear free → (f k).1.Clear free) :
    Ensures (·.skeleton.Clear free) (onSkeleton f) (fun _ => True) :=
  fun _ hp => ⟨h _ hp, trivial⟩

theorem clear_newStatement {range : Location} (h : free range) :
    Ensures (·.skeleton.Clear free) (newStatement range) (fun _ => True) :=
  clear_onSkeleton fun _ hk => hk.newStatement h

theorem clear_newFunction (name : Option String) (decl : Location) {body : Location}
    (h : free body) :
    Ensures (·.skeleton.Clear free) (newFunction name decl body) (fun _ => True) :=
  clear_onSkeleton fun _ hk => hk.newFunction name decl h

theorem clear_newBranch (kind : BranchKind) {range : Location} (h : free range) :
    Ensures (·.skeleton.Clear free) (newBranch kind range) (fun _ => True) :=
  clear_onSkeleton fun _ hk => hk.newBranch kind h

theorem clear_newOutcome (branch : Id) (range : Location) :
    Ensures (·.skeleton.Clear free) (newOutcome branch range) (fun _ => True) :=
  (clear_onSkeleton fun _ hk => hk.newOutcome branch range).bind fun _ _ => .pure trivial

theorem clear_coverOutcome (s : Setting) (branch : Id) (n : Node) :
    Ensures (·.skeleton.Clear free) (coverOutcome s branch n) (fun _ => True) :=
  (clear_newOutcome branch _).bind fun _ _ => clear_mark _

end Recording

/-! ### Entering a node -/

section Enter

open Recording

variable {s : Setting} {free : Location → Prop} {m : Node}

/-- Entering a node records free ranges and gives a plan for its children. -/
abbrev Clears (free : Location → Prop) (m : Node) (x : Recording Plan) : Prop :=
  Ensures (·.skeleton.Clear free) x (·.Sound free m)

theorem clears_if (hkind : m.kind = .ifStatement) (hm : free (s.range m)) :
    Clears free m (enterIf s m) := by
  rw [enterIf]
  refine (clear_newBranch _ hm).bind fun branch _ => ?_
  refine (clear_newOutcome branch _).bind fun first _ => ?_
  refine (clear_newOutcome branch _).bind fun second _ => ?_
  have hplan : Clears free m (pure (Plan.roles ((.condition, .part) ::
      (if s.hint m = some .ifArm then [] else [(.consequence, .arm (some first))]) ++
      (if s.hint m = some .elseArm then [] else [(.alternative, .elseClause second)])))) := by
    refine .pure (Plan.Sound.of_roles ?_)
    split <;> split <;> simp [Slot.checks, Slot.Suits, overlooksRole, hkind]
  exact .ite (fun _ => (clear_mark _).bind fun _ _ => hplan) fun _ => hplan

theorem EntryPlan.sound {slot : Slot} {plan : Plan} (h : EntryPlan s m slot plan)
    (hm : free (s.range m)) (hslot : slot.Suits free m) : plan.Sound free m := by
  cases h with
  | declarators hkind => exact hkind
  | declared hkind => exact hkind
  | exports hkind => exact hkind
  | declaration heq =>
    subst heq
    exact hslot
  | declarator heq =>
    subst heq
    have hkind : m.kind = .variableDeclarator := hslot
    exact Plan.Sound.of_roles (by simp [Slot.checks, Slot.Suits, overlooksRole, hkind])
  | function hkind computed =>
    apply Plan.Sound.of_roles
    cases computed <;> simp [Slot.checks, Slot.Suits, overlooksRole, hkind]
  | switch hkind =>
    exact Plan.Sound.of_roles (by simp [Slot.checks, Slot.Suits, overlooksRole, hkind])
  | field hkind =>
    exact Plan.Sound.of_roles (by simp [Slot.checks, Slot.Suits, overlooksRole, hkind])
  | pattern => exact Plan.Sound.of_roles (by simpa [Slot.checks, Slot.Suits] using hm)
  | labeled | conditional | operands =>
    exact Plan.Sound.of_roles (by simp [Slot.checks, Slot.Suits])
  | _ => trivial

/-- Entering a node whose ranges are free records free ranges only. -/
theorem clears_enter {slot : Slot} (hm : free (s.range m))
    (hbody : m.kind.isFunction = true → ∀ b, m.child? .body = some b → free (s.range b))
    (hslot : slot.Suits free m) : Clears free m (enter s slot m) := by
  have hentry := entry_enter s slot m
  generalize enter s slot m = x at hentry
  induction hentry with
  | plan hplan => exact .pure (hplan.sound hm hslot)
  | ifElse hkind => exact clears_if hkind hm
  | function hkind hb name _ _ ih =>
    exact (clear_newFunction name _ (hbody hkind _ hb)).bind fun id _ => ih id
  | statement _ ih => exact (clear_newStatement hm).bind fun id _ => ih id
  | branch kind _ ih => exact (clear_newBranch kind hm).bind fun branch _ => ih branch
  | defaultValue heq _ ih =>
    subst heq
    exact (clear_newBranch .defaultValue hslot).bind fun branch _ => ih branch
  | outcome branch _ ih => exact (clear_newOutcome branch _).bind fun c _ => ih c
  | mark _ _ ih => exact (clear_mark _).bind fun _ _ => ih

end Enter

/-! ### Entering a node that is left out -/

section Ignored

open Recording

variable {s : Setting} {free : Location → Prop} {m : Node}

/-- Nothing is walked below a node, except for the expression of a statement in the head of a
loop. -/
def Stops (m : Node) (plan : Plan) : Prop :=
  plan = .nothing ∨ plan = .parts ∧ m.kind = .expressionStatement

/-- A step records free ranges and walks nothing below a node. -/
abbrev Ignores (free : Location → Prop) (x : Recording Plan) : Prop :=
  Ensures (·.skeleton.Clear free) x (· = .nothing)

variable (hhint : s.leavesOut m = true)

include hhint

theorem ignores_part : Ignores free (enterPart s m) := by
  have hout : (m.isComment || s.leavesOut m) = true := by rw [hhint, Bool.or_true]
  rw [enterPart]
  exact .ite (fun _ => .pure rfl) fun hnot => absurd hout hnot

theorem ignores_statement (offset : Nat) : Ignores free (enterStatement s offset m) := by
  have hout : (m.isComment || s.leavesOut m) = true := by rw [hhint, Bool.or_true]
  rw [enterStatement]
  exact .ite (fun _ => .pure rfl) fun hnot => absurd hout hnot

/-- The counter of an arm is put in first. Then a block is left out, or the arm is a statement. -/
theorem ignores_arm (counter : Option Counter) : Ignores free (enterArm s counter m) := by
  have hstatement : Ignores free (enterStatement s m.start m) := ignores_statement hhint m.start
  have hblock : Ignores free
      (pure (if s.leavesOut m then Plan.nothing else Plan.statements false)) :=
    .pure (if_pos hhint)
  rw [enterArm]
  refine .ite (fun _ => ?_) fun _ => (clear_mark _).bind fun _ _ => ?_
  · cases counter with
    | none => exact hblock
    | some c => exact (clear_mark _).bind fun _ _ => hblock
  · cases counter with
    | none => exact hstatement
    | some c => exact (clear_mark _).bind fun _ _ => hstatement

/-- A node that is left out records free ranges only and stops the walk, in a slot that asks. -/
theorem stops_enter {slot : Slot} (hchecks : slot.checks = true) (hslot : slot.Suits free m) :
    Ensures (·.skeleton.Clear free) (enter s slot m) (Stops m) := by
  have hpart : Ignores free (enterPart s m) := ignores_part hhint
  have hout : ∀ x : Recording Plan,
      Ignores free (if s.leavesOut m then pure Plan.nothing else x) := fun x =>
    .ite (fun _ => .pure rfl) fun hnot => absurd hhint hnot
  have hstops : ∀ plan : Plan, plan = .nothing → Stops m plan := fun _ => Or.inl
  rw [enter.eq_def]
  cases slot with
  | part => exact hpart.imp hstops
  | statement offset => exact (ignores_statement hhint offset).imp hstops
  | arm counter => exact (ignores_arm hhint counter).imp hstops
  | loopHead => exact .ite (fun hkind => .pure (.inr ⟨rfl, hkind⟩)) fun _ => hpart.imp hstops
  | member => exact .ite (fun _ => .pure (.inl rfl)) fun _ => hpart.imp hstops
  | case branch => exact (hout _).imp hstops
  | outcome branch => exact (hout _).imp hstops
  | operand branch => exact (hout _).imp hstops
  | defaultValue pattern =>
    refine (clear_newBranch .defaultValue hslot).bind fun branch _ => ?_
    exact (clear_coverOutcome s branch m).bind fun _ _ => hpart.imp hstops
  | elseClause | declaration | declarator | initializer | functionBody | cases => cases hchecks

end Ignored

/-! ### The walk -/

section Walk

open Recording

variable {s : Setting} {free : Location → Prop} {src : List Char} {n : Node}

theorem clear_walkAll_nothing (children : List Node) :
    Ensures (·.skeleton.Clear free) (walkAll s .nothing children) (fun _ => True) := by
  induction children with
  | nil =>
    rw [walkAll]
    exact .pure trivial
  | cons c rest ih =>
    have hnext : Plan.nothing.next c = (none, .nothing) := by
      rw [Plan.next.eq_def]
      split <;> rfl
    rw [walkAll, hnext]
    exact ih

/-- Nothing is recorded of a comment or of a part that is left out. -/
theorem clear_walk_part : (c : Node) →
    c.isRemark = true ∧ c.children = [] ∨ s.leavesOut c = true →
    Ensures (·.skeleton.Clear free) (walk s .part c) (fun _ => True)
  | ⟨kind, role, start, stop, children⟩, h => by
    rw [walk]
    rcases h with ⟨hremark, rfl⟩ | hhint
    · have henter : Ensures (·.skeleton.Clear free)
          (enter s .part ⟨kind, role, start, stop, []⟩) (fun _ => True) := by
        rw [Node.isRemark, Bool.or_eq_true] at hremark
        rw [enter.eq_def, enterPart]
        refine .ite (fun _ => .pure trivial) fun hnot => ?_
        have hkind : kind = .markupComment := by
          rcases hremark with hcomment | hmarkup
          · exact absurd (by rw [hcomment, Bool.true_or]) hnot
          · simpa using hmarkup
        subst hkind
        exact .pure trivial
      refine henter.bind fun plan _ => ?_
      rw [walkAll]
      exact .pure trivial
    · refine (ignores_part hhint).bind fun plan hplan => ?_
      rw [hplan]
      exact clear_walkAll_nothing children

theorem clear_walkAll_parts {children : List Node}
    (h : ∀ c ∈ children, c.isNamed = true →
      c.isRemark = true ∧ c.children = [] ∨ s.leavesOut c = true) :
    Ensures (·.skeleton.Clear free) (walkAll s .parts children) (fun _ => True) := by
  induction children with
  | nil =>
    rw [walkAll]
    exact .pure trivial
  | cons c rest ih =>
    obtain ⟨hc, hrest⟩ := List.forall_mem_cons.1 h
    rw [walkAll]
    cases hnamed : c.isNamed with
    | false =>
      have hnext : Plan.parts.next c = (none, .parts) := by simp [Plan.next, hnamed]
      rw [hnext]
      exact ih hrest
    | true =>
      have hnext : Plan.parts.next c = (some .part, .parts) := by simp [Plan.next, hnamed]
      rw [hnext]
      exact (clear_walk_part c (hc hnamed)).bind fun _ _ => ih hrest

mutual

/-- A walk records free ranges only where it asks at the nodes that have the extent of `n`. -/
theorem clear_walk (hfree : ∀ d : Node, d.Nested src → n.Outside d → free (s.range d))
    (hhint : s.leavesOut n = true) {slot : Slot} : (m : Node) → m.Nested src →
    slot.Suits free m →
    (n.Apart m ∨ n.InTree m) →
    (∀ p : Node, p.InTree m → ∀ c ∈ p.children, overlooks p c = true → ¬ c.SameExtent n) →
    (m.SameExtent n → slot.checks = true) →
    Ensures (·.skeleton.Clear free) (walk s slot m) (fun _ => True)
  | ⟨kind, role, start, stop, children⟩, hm, hslot, hwhere, hseen, hchecks => by
    rw [walk]
    have hout : ∀ c : Node, c.start = n.start → s.leavesOut c = true := by
      intro c hstart
      rw [Setting.leavesOut, Setting.hint, hstart]
      exact hhint
    by_cases hsame : Node.SameExtent ⟨kind, role, start, stop, children⟩ n
    · refine (stops_enter (hout _ hsame.1) (hchecks hsame) hslot).bind fun plan hplan => ?_
      rcases hplan with rfl | ⟨rfl, hkind⟩
      · exact clear_walkAll_nothing children
      · -- The expression starts where its statement does, so the hint stands in front of it too.
        refine clear_walkAll_parts fun c hc hnamed => ?_
        cases hremark : c.isRemark with
        | true => exact .inl ⟨rfl, (hm.child hc).own.remark hremark⟩
        | false =>
          right
          exact hout c ((hm.own.expression hkind c hc hnamed hremark).trans hsame.1)
    · have hchildren := Node.apart_or_inTree_child hm hwhere hsame
      have houtside : n.Outside ⟨kind, role, start, stop, children⟩ := by
        rcases hwhere with hapart | hin
        · exact hapart _ .self
        · exact (Node.sameExtent_or_outside hm hin).resolve_left hsame
      have hbody : kind.isFunction = true → ∀ b,
          Node.child? ⟨kind, role, start, stop, children⟩ .body = some b → free (s.range b) := by
        intro hkind b hb
        have hmem : b ∈ children := List.mem_of_find?_eq_some hb
        have hrole : b.role = some .body := by simpa using List.find?_some hb
        have hover : overlooks ⟨kind, role, start, stop, children⟩ b = true := by
          simp [overlooks, hrole, overlooksRole, hkind]
        apply hfree b (hm.child hmem)
        rcases hchildren b hmem with hapart | hin
        · exact hapart b .self
        · exact (Node.sameExtent_or_outside (hm.child hmem) hin).resolve_left
            (hseen _ .self b hmem hover)
      refine (clears_enter (hfree _ hm houtside) hbody hslot).bind fun plan hplan => ?_
      refine clear_walkAll hfree hhint hplan children (fun c hc => hm.child hc) hchildren ?_ ?_
      · exact fun c hc => hseen _ .self c hc
      · exact fun c hc p hp => hseen p (.inChild hc hp)

theorem clear_walkAll (hfree : ∀ d : Node, d.Nested src → n.Outside d → free (s.range d))
    (hhint : s.leavesOut n = true) {m : Node} {plan : Plan} (hplan : plan.Sound free m) :
    (children : List Node) → (∀ c ∈ children, c.Nested src) →
    (∀ c ∈ children, n.Apart c ∨ n.InTree c) →
    (∀ c ∈ children, overlooks m c = true → ¬ c.SameExtent n) →
    (∀ c ∈ children, ∀ p : Node, p.InTree c → ∀ d ∈ p.children, overlooks p d = true →
      ¬ d.SameExtent n) →
    Ensures (·.skeleton.Clear free) (walkAll s plan children) (fun _ => True)
  | [], _, _, _, _ => by
    rw [walkAll]
    exact .pure trivial
  | c :: rest, hnested, hwhere, hown, hseen => by
    obtain ⟨hc, hrest⟩ := List.forall_mem_cons.1 hnested
    obtain ⟨hwc, hwrest⟩ := List.forall_mem_cons.1 hwhere
    obtain ⟨hoc, horest⟩ := List.forall_mem_cons.1 hown
    obtain ⟨hsc, hsrest⟩ := List.forall_mem_cons.1 hseen
    have hnext := hplan.next c
    rw [walkAll]
    split
    · next slot plan' heq =>
      rw [heq] at hnext
      have hgiven := hnext.slot slot rfl
      have hchecks : c.SameExtent n → slot.checks = true := fun hsame =>
        hgiven.seen.resolve_right fun hover => hoc hover hsame
      refine (clear_walk hfree hhint c hc hgiven.suits hwc hsc hchecks).bind fun _ _ => ?_
      exact clear_walkAll hfree hhint hnext.plan rest hrest hwrest horest hsrest
    · next plan' heq =>
      rw [heq] at hnext
      exact clear_walkAll hfree hhint hnext.plan rest hrest hwrest horest hsrest

end

end Walk

/-! ### The whole program -/

/-- The parts of a program lie in each other, and their lines can be counted in 32 bits. -/
structure NestedProgram (src : List Char) (program : Node) : Prop where
  size : Text.byteLength src < 2 ^ 32 - 1
  nested : ∀ c ∈ program.children, c.Nested src
  ordered : program.children.Pairwise fun a b => ∀ d : Node, d.InTree a → d.stop ≤ b.start

/-- The range of a node that goes beyond another one is not within the range of that one. -/
theorem not_within_range {s : Setting} (hsize : Text.byteLength s.source < 2 ^ 32 - 1) {m n : Node}
    (hm : m.Nested s.source) (hn : n.Nested s.source) (h : n.Outside m) :
    ¬ (s.range m).Within (s.range n) := by
  rintro ⟨hstart, hstop⟩
  have hfit := Text.PositionsFit.of_small hsize
  have hle := Text.le_of_position_le hfit hn.own.start hm.own.start hstart
  have hle' := Text.le_of_position_le hfit hm.own.stop hn.own.stop hstop
  rw [Node.Outside] at h
  omega

/-- The walk records nothing within a node that a hint leaves out, unless some node of its extent is
entered without being asked for. -/
theorem walkProgram_ignored {s : Setting} {program n : Node} (path : String)
    (h : NestedProgram s.source program) (hin : ∃ c ∈ program.children, n.InTree c)
    (hhint : s.leavesOut n = true)
    (hseen : ∀ m : Node, m.InTree program → ∀ c ∈ m.children, overlooks m c = true →
      ¬ c.SameExtent n) :
    ∀ l ∈ (walkProgram s path program).1.freeze.ranges, ¬ l.Within (s.range n) := by
  obtain ⟨c, hc, hin⟩ := hin
  have hn : n.Nested s.source := hin.nested (h.nested c hc)
  have hfree : ∀ d : Node, d.Nested s.source → n.Outside d → ¬ (s.range d).Within (s.range n) :=
    fun d hd hout => not_within_range h.size hd hn hout
  have hwhere := Node.apart_or_inTree h.nested h.ordered hc hin
  have hstart : (Skeleton.empty path).Clear fun l => ¬ l.Within (s.range n) :=
    ⟨nofun, nofun, nofun⟩
  have hplan : (Plan.statements true).Sound (fun l => ¬ l.Within (s.range n)) program := trivial
  have hwalk := clear_walkAll hfree hhint hplan program.children h.nested hwhere
    (fun c hc => hseen program .self c hc) (fun c hc m hm => hseen m (.inChild hc hm))
  exact (hwalk ⟨.empty path, []⟩ hstart).1.freeze

theorem ranges_instrumentProgram (o : Options) (src : List Char) (path : String)
    (sourceMap : Option Json.Value) (program : Node) (comments : List Comment) :
    (instrumentProgram o src path sourceMap program comments).record.ranges =
      (walkProgram ⟨src, hintBefore src comments.reverse, o.ignoredMethods⟩ path
        program).1.freeze.ranges := by
  rw [instrumentProgram]
  cases sourceMap <;> dsimp only <;> split <;> rfl

/-- Nothing is recorded within a node that a comment in front of it says to leave out, wherever it
stands in a program, unless some node of its extent is entered without being asked for. -/
theorem instrumentProgram_ignored {o : Options} {src : List Char} {path : String}
    {sourceMap : Option Json.Value} {program n : Node} {comments : List Comment}
    (h : NestedProgram src program) (hin : ∃ c ∈ program.children, n.InTree c)
    (hhint : HintAhead src comments .next n.start)
    (hseen : ∀ m : Node, m.InTree program → ∀ c ∈ m.children, overlooks m c = true →
      ¬ c.SameExtent n) :
    ∀ l ∈ (instrumentProgram o src path sourceMap program comments).record.ranges,
      ¬ l.Within (.between (Text.position src n.start) (Text.position src n.stop)) := by
  intro l hl
  rw [ranges_instrumentProgram] at hl
  have hout : Setting.leavesOut ⟨src, hintBefore src comments.reverse, o.ignoredMethods⟩ n = true :=
    decide_eq_true (hintBefore_of_ahead hhint)
  exact walkProgram_ignored path h hin hout hseen l hl

/-- A program with two hints, of which the second stands in front of the value of a variable. -/
def twoHints : List Char :=
  "/* istanbul ignore next */ g; var x = /* istanbul ignore next */ f;".toList

def ignoredStatement : Node :=
  ⟨.expressionStatement, none, 27, 29, [.leaf .identifier 27 28, .leaf (.token ";") 28 29]⟩

def ignoredValue : Node := (Node.leaf .identifier 65 66).as .value

def ignoredVariable : Node :=
  ⟨.variableDeclarator, none, 34, 66, [(Node.leaf .identifier 34 35).as .name,
    .leaf (.token "=") 36 37, .leaf .comment 38 64, ignoredValue]⟩

def variableStatement : Node :=
  ⟨.variableDeclaration, none, 30, 67,
    [.leaf (.token "var") 30 33, ignoredVariable, .leaf (.token ";") 66 67]⟩

def twoHintsTree : Node :=
  ⟨.program, none, 0, 67, [.leaf .comment 0 26, ignoredStatement, variableStatement]⟩

def twoHintsComments : List Comment :=
  commentsOf twoHints [.leaf .comment 0 26, .leaf .comment 38 64]

theorem nestedProgram_twoHints : NestedProgram twoHints twoHintsTree := by
  have hboundary : ∀ k < 68, Text.Boundary twoHints k := by
    have hbytes : ∀ k < 68, Text.byteLength (Text.takeBytes k twoHints) = k := by decide +kernel
    intro k hk
    exact Text.boundary_of_byteLength (hbytes k hk)
  have hleaf : ∀ kind role start stop, start < stop → stop < 68 →
      Node.Nested twoHints ⟨kind, role, start, stop, []⟩ := by
    intro kind role start stop hproper hstop
    exact Node.nested_leaf hproper (hboundary start (by omega)) (hboundary stop hstop)
  have hstatement : ignoredStatement.Nested twoHints := by
    rw [Node.nested_iff]
    refine ⟨⟨by decide, hboundary 27 (by decide), hboundary 29 (by decide), ?_, ?_, ?_, ?_, ?_, ?_⟩,
      ?_⟩ <;>
    simp [ignoredStatement, Node.leaf, Node.inTree_mk, Node.isComment, Node.isRemark,
      hleaf, Node.isNamed]
  have hvariable : ignoredVariable.Nested twoHints := by
    rw [Node.nested_iff]
    refine ⟨⟨by decide, hboundary 34 (by decide), hboundary 66 (by decide), ?_, ?_, ?_, ?_, ?_, ?_⟩,
      ?_⟩ <;>
    simp [ignoredVariable, ignoredValue, Node.leaf, Node.as, Node.inTree_mk, Node.isComment,
      Node.isRemark, hleaf]
  have hdeclaration : variableStatement.Nested twoHints := by
    rw [Node.nested_iff]
    refine ⟨⟨by decide, hboundary 30 (by decide), hboundary 67 (by decide), ?_, ?_, ?_, ?_, ?_, ?_⟩,
      ?_⟩
    case refine_7 => simp [variableStatement, Node.leaf, hleaf, hvariable]
    all_goals
      simp [variableStatement, ignoredVariable, ignoredValue, Node.leaf, Node.as, Node.inTree_mk,
        Node.isComment, Node.isRemark]
  constructor
  · decide
  · simp [twoHintsTree, Node.leaf, hleaf, hstatement, hdeclaration]
  · simp [twoHintsTree, ignoredStatement, Node.inTree_mk, Node.leaf, variableStatement]

/-- The statement behind the first hint is not recorded. The value behind the second one is recorded
as a statement all the same. -/
theorem instrumentProgram_ignored_twoHints :
    let record := (instrumentProgram .default twoHints "a.js" none twoHintsTree
      twoHintsComments).record
    HintAhead twoHints twoHintsComments .next ignoredStatement.start ∧
      (∀ l ∈ record.ranges, ¬ l.Within (.between (Text.position twoHints ignoredStatement.start)
        (Text.position twoHints ignoredStatement.stop))) ∧
      HintAhead twoHints twoHintsComments .next ignoredValue.start ∧
      .between (Text.position twoHints ignoredValue.start)
        (Text.position twoHints ignoredValue.stop) ∈ record.ranges := by
  intro record
  have hhint : HintAhead twoHints twoHintsComments .next ignoredStatement.start := by
    refine ⟨[], _, [], [_], rfl, by decide, ?_, by decide⟩
    show OnlyGaps twoHints 26 27
    exact onlyGaps_of_all (by decide) (by decide)
  have hhint' : HintAhead twoHints twoHintsComments .next ignoredValue.start := by
    refine ⟨[_], _, [], [], rfl, by decide, ?_, by decide⟩
    show OnlyGaps twoHints 64 65
    exact onlyGaps_of_all (by decide) (by decide)
  have hin : ∃ c ∈ twoHintsTree.children, ignoredStatement.InTree c :=
    ⟨ignoredStatement, by simp [twoHintsTree], .self⟩
  have hseen : ∀ m : Node, m.InTree twoHintsTree → ∀ c ∈ m.children, overlooks m c = true →
      ¬ c.SameExtent ignoredStatement := by
    intro m hm
    simp only [twoHintsTree, variableStatement, ignoredStatement, ignoredVariable, ignoredValue,
      Node.leaf, Node.as, Node.inTree_mk, List.mem_cons, List.not_mem_nil, or_false,
      exists_eq_or_imp, exists_eq_left, false_and, exists_false] at hm
    rcases hm with rfl | rfl | (rfl | rfl | rfl) | rfl | rfl | (rfl | rfl | rfl | rfl | rfl) |
      rfl <;>
      simp [overlooks, Kind.declaresVariables, Node.SameExtent, ignoredStatement]
  have hrecorded : .between (Text.position twoHints ignoredValue.start)
      (Text.position twoHints ignoredValue.stop) ∈ record.ranges := by
    show _ ∈ (instrumentProgram .default twoHints "a.js" none twoHintsTree
      twoHintsComments).record.ranges
    rw [ranges_instrumentProgram]
    decide
  exact ⟨hhint, instrumentProgram_ignored nestedProgram_twoHints hin hhint hseen, hhint', hrecorded⟩

end Instrument

end Coverage
