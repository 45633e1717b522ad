import Coverage.Proofs.Instrument.Steps
import Coverage.Proofs.Script.Tokens

/-!
# Where the walk puts things in

Entering a node leaves marks at tokens, and what these marks wrap is the node itself
(`adds_enter`). So what is wrapped below a node lies within the node, and what is wrapped below its
children lies apart: by induction over the tree all wrapped ranges of a walk are nested or apart,
and the enclosing one is left first (`leaves_walk`).

Comments in the manner of markup are parts like any other, apart from the first comment of an
`else`, which is taken for the alternative. `PlainClauses` says that there is none.
-/

namespace Coverage.Instrument

open Coverage.Script (Node Kind Role Prologue prologue prologueFrom offset_prologueFrom)

/-! ### Marks -/

namespace Mark

/-- The places at which a mark puts something in. -/
def offsets : Mark → List Nat
  | count offset _ | entry offset _ _ | alternative offset _ => [offset]
  | pair start stop _ | block start stop | body start stop _ _ => [start, stop]

/-- The range that a mark wraps with something that opens and something that closes. -/
def range? : Mark → Option (Nat × Nat)
  | pair start stop _ | block start stop | body start stop _ _ => some (start, stop)
  | _ => none

/-- A mark puts something in at tokens only, and wraps nothing but a node. -/
structure Fits (tree n : Node) (m : Mark) : Prop where
  tokens : ∀ k ∈ m.offsets, tree.AtToken k
  range : ∀ r, m.range? = some r → r = (n.start, n.stop)

/-- Two marks wrap ranges that are apart, or the second one wraps a part of what the first one
wraps. -/
def Encloses (a b : Mark) : Prop :=
  ∀ r r', a.range? = some r → b.range? = some r' →
    (r.1 ≤ r'.1 ∧ r'.2 ≤ r.2) ∨ r.2 ≤ r'.1 ∨ r'.2 ≤ r.1

/-- Marks put things in at tokens, wrap ranges between two offsets that are not empty, and nest. -/
structure Nest (tree : Node) (low high : Nat) (marks : List Mark) : Prop where
  tokens : ∀ m ∈ marks, ∀ k ∈ m.offsets, tree.AtToken k
  range : ∀ m ∈ marks, ∀ r, m.range? = some r → low ≤ r.1 ∧ r.1 < r.2 ∧ r.2 ≤ high
  nested : marks.Pairwise Encloses

variable {tree n : Node} {low high : Nat} {marks more : List Mark}

theorem nest_nil (tree : Node) (low high : Nat) : Nest tree low high [] := ⟨nofun, nofun, .nil⟩

theorem Nest.widen {low' high' : Nat} (h : Nest tree low high marks) (hlow : low' ≤ low)
    (hhigh : high ≤ high') : Nest tree low' high' marks := by
  refine ⟨h.tokens, fun m hm r hr => ?_, h.nested⟩
  obtain ⟨hstart, hproper, hstop⟩ := h.range m hm r hr
  exact ⟨Nat.le_trans hlow hstart, hproper, Nat.le_trans hstop hhigh⟩

/-- Marks behind others wrap ranges apart from theirs. -/
theorem Nest.append {middle : Nat} (h : Nest tree low middle marks) (hmore : Nest tree middle high more)
    (hlow : low ≤ middle) (hhigh : middle ≤ high) : Nest tree low high (marks ++ more) := by
  have h' := h.widen (Nat.le_refl low) hhigh
  have hmore' := hmore.widen hlow (Nat.le_refl high)
  constructor
  · exact List.forall_mem_append.2 ⟨h.tokens, hmore.tokens⟩
  · exact List.forall_mem_append.2 ⟨h'.range, hmore'.range⟩
  · refine List.pairwise_append.2 ⟨h.nested, hmore.nested, fun a ha b hb r r' hr hr' => ?_⟩
    have hstop := (h.range a ha r hr).2.2
    have hstart := (hmore.range b hb r' hr').1
    exact .inr (.inl (Nat.le_trans hstop hstart))

/-- Marks on a node wrap what marks within the node do. -/
theorem Nest.within (h : Nest tree n.start n.stop more) (hproper : n.start < n.stop)
    (hmarks : ∀ m ∈ marks, m.Fits tree n) : Nest tree n.start n.stop (marks ++ more) := by
  constructor
  · exact List.forall_mem_append.2 ⟨fun m hm => (hmarks m hm).tokens, h.tokens⟩
  · refine List.forall_mem_append.2 ⟨fun m hm r hr => ?_, h.range⟩
    rw [(hmarks m hm).range r hr]
    exact ⟨Nat.le_refl _, hproper, Nat.le_refl _⟩
  · have hall : ∀ a ∈ marks, ∀ b, (∀ r, b.range? = some r → n.start ≤ r.1 ∧ r.2 ≤ n.stop) →
        Encloses a b := by
      intro a ha b hb r r' hr hr'
      rw [(hmarks a ha).range r hr]
      exact .inl (hb r' hr')
    refine List.pairwise_append.2 ⟨?_, h.nested, fun a ha b hb => hall a ha b fun r hr => ?_⟩
    · refine List.pairwise_of_forall_mem_list fun a ha b hb => hall a ha b fun r hr => ?_
      rw [(hmarks b hb).range r hr]
      exact ⟨Nat.le_refl _, Nat.le_refl _⟩
    · have hr := h.range b hb r hr
      exact ⟨hr.1, hr.2.2⟩

end Mark

/-! ### Steps of the walk -/

namespace Recording

variable {α β : Type} {P : Mark → Prop} {post post' : α → Prop}

/-- A step leaves marks of some sort, the last one first, and gives what `post` says. -/
def Adds (P : Mark → Prop) (x : Recording α) (post : α → Prop) : Prop :=
  ∀ p, (∃ marks : List Mark, (x.run p).2.marks = marks.reverse ++ p.marks ∧ ∀ m ∈ marks, P m) ∧
    post (x.run p).1

namespace Adds

theorem pure {a : α} (h : post a) : Adds P (pure a) post := fun _ => ⟨⟨[], rfl, nofun⟩, h⟩

theorem bind {x : Recording α} {f : α → Recording β} {post' : β → Prop} (hx : Adds P x post)
    (hf : ∀ a, post a → Adds P (f a) post') : Adds P (x >>= f) post' := by
  intro p
  obtain ⟨⟨marks, hmarks, hall⟩, ha⟩ := hx p
  obtain ⟨⟨more, hmore, hall'⟩, hb⟩ := hf (x.run p).1 ha (x.run p).2
  refine ⟨⟨marks ++ more, ?_, List.forall_mem_append.2 ⟨hall, hall'⟩⟩, hb⟩
  rw [List.reverse_append, List.append_assoc, ← hmarks]
  exact hmore

theorem ite {c : Prop} [Decidable c] {x y : Recording α} (hx : c → Adds P x post)
    (hy : ¬ c → Adds P y post) : Adds P (if c then x else y) post := by
  split
  · exact hx ‹_›
  · exact hy ‹_›

end Adds

theorem adds_mark {m : Mark} (h : P m) : Adds P (mark m) (fun _ => True) :=
  fun _ => ⟨⟨[m], rfl, List.forall_mem_singleton.2 h⟩, trivial⟩

theorem adds_onSkeleton (f : Skeleton → Skeleton × α) : Adds P (onSkeleton f) (fun _ => True) :=
  fun _ => ⟨⟨[], rfl, nofun⟩, trivial⟩

theorem adds_newOutcome (branch : Id) (range : Location) :
    Adds P (newOutcome branch range) (fun _ => True) :=
  (adds_onSkeleton _).bind fun _ _ => .pure trivial

end Recording

/-! ### Slots and plans -/

/-- Whether a comment can stand in a slot. -/
def Slot.takesRemarks : Slot → Bool
  | .part | .statement _ | .loopHead | .member => true
  | _ => false

/-- The first part of a node that can be an alternative is no comment. -/
def PlainAlternative (n : Node) : Prop :=
  ∀ a, n.namedChildren.find? (fun c => !c.isComment) = some a → a.isRemark = false

/-- A node can stand in a slot, and the place that the slot keeps is at a token. -/
structure Slot.Ready (tree c : Node) (slot : Slot) : Prop where
  remark : c.isRemark = true → slot.takesRemarks = true
  offset : c.isRemark = false → ∀ k, slot.offset? = some k → tree.AtToken k
  clause : ∀ counter, slot = .elseClause counter → PlainAlternative c

/-- The slots that a plan gives are ready for the children that get them. -/
def Plan.Ready (tree : Node) (children : List Node) : Plan → Prop
  | .declarators offset => ∀ k, offset = some k → tree.AtToken k
  | .exports offset => tree.AtToken offset
  | .alternative _ => ∀ a, (children.filter Node.isNamed).find? (fun c => !c.isComment) = some a →
      a.isRemark = false
  | .roles slots => ∀ e ∈ slots, ∀ c ∈ children, c.role = some e.1 → e.2.Ready tree c
  | _ => True

/-- Nodes that the walk goes on to find their slots and plans ready. -/
structure NextReady (tree c : Node) (rest : List Node) (next : Option Slot × Plan) : Prop where
  slot : ∀ slot, next.1 = some slot → slot.Ready tree c
  plan : next.2.Ready tree rest

section Next

variable {tree c : Node} {rest : List Node} {plan : Plan}

theorem ready_of_takesRemarks {slot : Slot} (h : slot.takesRemarks = true)
    (hoffset : c.isRemark = false → ∀ k, slot.offset? = some k → tree.AtToken k) :
    slot.Ready tree c := by
  refine ⟨fun _ => h, hoffset, fun counter heq => ?_⟩
  rw [heq] at h
  cases h

theorem ready_part : Slot.part.Ready tree c := ready_of_takesRemarks rfl fun _ _ => nofun

theorem NextReady.skip (h : plan.Ready tree rest) : NextReady tree c rest (none, plan) := ⟨nofun, h⟩

theorem NextReady.fill {slot : Slot} (hslot : slot.Ready tree c) (h : plan.Ready tree rest) :
    NextReady tree c rest (some slot, plan) :=
  ⟨fun _ heq => Option.some.inj heq ▸ hslot, h⟩

/-- A slot for what is no comment is ready if it keeps no place and is not for a clause. -/
theorem ready_of_code {slot : Slot} (hcode : c.isRemark = false)
    (hoffset : ∀ k, slot.offset? = some k → tree.AtToken k)
    (hclause : ∀ counter, slot = .elseClause counter → PlainAlternative c) : slot.Ready tree c := by
  refine ⟨fun hremark => ?_, fun _ => hoffset, hclause⟩
  rw [hcode] at hremark
  cases hremark

theorem code_of_kind {kind : Kind} (h : c.kind = kind) (hcomment : kind ≠ .comment)
    (hmarkup : kind ≠ .markupComment) : c.isRemark = false := by
  simp [Node.isRemark, Node.isComment, h, hcomment, hmarkup]

theorem Plan.Ready.tail (h : plan.Ready tree (c :: rest))
    (halternative : ∀ counter, plan = .alternative counter → c.isNamed = false ∨ c.isComment = true) :
    plan.Ready tree rest := by
  cases plan with
  | alternative counter =>
    intro a ha
    refine h a ?_
    rcases halternative counter rfl with hnamed | hcomment
    · rw [List.filter_cons_of_neg (by simp [hnamed])]
      exact ha
    · rw [List.filter_cons]
      split
      · rw [List.find?_cons_of_neg (by simp [hcomment])]
        exact ha
      · exact ha
  | roles slots => exact fun e he d hd => h e he d (List.mem_cons_of_mem _ hd)
  | _ => exact h

/-- A child finds its slot ready, and the children behind it find the plan ready. -/
theorem Plan.Ready.next (h : plan.Ready tree (c :: rest))
    (hrole : c.isRemark = true → c.role = none)
    (hstart : c.isRemark = false → tree.AtToken c.start) :
    NextReady tree c rest (plan.next c) := by
  have hcode : ∀ role, c.role = some role → c.isRemark = false := by
    intro role hc
    cases hremark : c.isRemark with
    | false => rfl
    | true =>
      rw [hrole hremark] at hc
      cases hc
  have hstatement : (Slot.statement c.start).Ready tree c :=
    ready_of_takesRemarks rfl fun hcode k hk => Option.some.inj hk ▸ hstart hcode
  have hstep := plan.step_next c
  generalize plan.next c = next at hstep ⊢
  cases hstep with
  | skip _ hskip => exact .skip (h.tail hskip)
  | part => exact .fill ready_part trivial
  | member => exact .fill (ready_of_takesRemarks rfl fun _ _ => nofun) trivial
  | statement => exact .fill hstatement trivial
  | declarator _ hkind => exact .fill (ready_of_code (code_of_kind hkind nofun nofun) h nofun) h
  | declared => exact .fill ready_part h
  | declaration _ hkind =>
    refine .fill (ready_of_code ?_ (fun k hk => Option.some.inj hk ▸ h) nofun) h
    cases hc : c.kind <;> simp [hc, Kind.declaresVariables] at hkind <;>
      exact code_of_kind hc nofun nofun
  | exported => exact .fill ready_part h
  | loopBody hbody => exact .fill (ready_of_code (hcode .body hbody) nofun nofun) trivial
  | loopHead => exact .fill (ready_of_takesRemarks rfl fun _ _ => nofun) trivial
  | alternative _ hnamed hcomment =>
    refine .fill (ready_of_code (h c ?_) nofun nofun) trivial
    rw [List.filter_cons_of_pos hnamed, List.find?_cons_of_pos (by simpa using hcomment)]
  | case _ hkind =>
    refine .fill (ready_of_code ?_ nofun nofun) trivial
    obtain hkind | hkind := hkind <;> exact code_of_kind hkind nofun nofun
  | caseValue => exact .fill ready_part trivial
  | caseBody => exact .fill hstatement trivial
  | role hrole hslot =>
    refine .fill (h _ hslot c List.mem_cons_self hrole) fun e he d hd => ?_
    exact h e (List.mem_filter.1 he).1 d (List.mem_cons_of_mem _ hd)

end Next

/-! ### Entering a node -/

section Enter

open Recording

variable {tree n : Node} {s : Setting}

/-- The clauses of an `if` have alternatives that are no comments. -/
def PlainClauses (n : Node) : Prop :=
  n.kind = .ifStatement → ∀ a ∈ n.children, a.role = some .alternative → PlainAlternative a

/-- A node of a tree that is no comment. -/
structure IsPart (tree n : Node) : Prop where
  tidy : n.Tidy
  inTree : n.InTree tree
  code : n.isRemark = false

theorem IsPart.start (h : IsPart tree n) : tree.AtToken n.start :=
  (h.tidy.atToken_start h.code).mono h.inTree

theorem IsPart.stop (h : IsPart tree n) : tree.AtToken n.stop :=
  (h.tidy.atToken_stop h.code).mono h.inTree

theorem IsPart.child (h : IsPart tree n) {c : Node} (hc : c ∈ n.children) (hcode : c.isRemark = false) :
    IsPart tree c :=
  ⟨h.tidy.child hc, (Node.InTree.inChild hc .self).trans h.inTree, hcode⟩

/-- What plays a role is no comment. -/
theorem IsPart.code_of_role (h : IsPart tree n) {c : Node} (hc : c ∈ n.children) {role : Role}
    (hrole : c.role = some role) : c.isRemark = false := by
  cases hremark : c.isRemark with
  | false => rfl
  | true =>
    rw [h.tidy.own.role c hc hremark] at hrole
    cases hrole

theorem IsPart.childIn (h : IsPart tree n) {role : Role} {c : Node} (hc : n.child? role = some c) :
    IsPart tree c := by
  have hmem := List.mem_of_find?_eq_some hc
  have hrole : c.role = some role := by simpa using List.find?_some hc
  exact h.child hmem (h.code_of_role hmem hrole)

/-- A block has a token that ends behind its brace. -/
theorem IsPart.brace (h : IsPart tree n) (hkind : n.kind = .statementBlock) :
    tree.AtToken (n.start + 1) := by
  obtain ⟨c, hc, htoken, hleaf, -, hstop⟩ := h.tidy.own.brace hkind
  have hcode : c.isRemark = false :=
    code_of_kind (of_decide_eq_true htoken) nofun nofun
  exact ⟨c, (h.child hc hcode).inTree, hleaf, hcode, .inr hstop.symm⟩

/-- The place behind directives is at a token. -/
theorem IsPart.prologue {p : Prologue} (hp : tree.AtToken p.offset) {nodes : List Node}
    (hnodes : ∀ c ∈ nodes, c.isRemark = false → IsPart tree c) :
    tree.AtToken (prologueFrom p nodes).offset := by
  obtain hstart | ⟨c, hc, hkind, hstop⟩ := offset_prologueFrom p nodes
  · exact hstart ▸ hp
  · have hcode : c.isRemark = false := by
      obtain hkind | hkind := hkind <;> exact code_of_kind hkind nofun nofun
    exact hstop ▸ (hnodes c hc hcode).stop

/-- A step leaves marks that fit a node, and a plan whose slots are ready for its children. -/
abbrev AddsTo (tree n : Node) (x : Recording Plan) : Prop :=
  Adds (·.Fits tree n) x (·.Ready tree n.children)

/-- Slots that keep no places are ready for what plays a role. -/
theorem ready_roles (hn : IsPart tree n) {slots : List (Role × Slot)}
    (h : ∀ e ∈ slots, (∀ k, e.2.offset? = some k → tree.AtToken k) ∧
      ∀ counter, e.2 = .elseClause counter → ∀ c ∈ n.children, c.role = some e.1 →
        PlainAlternative c) :
    (Plan.roles slots).Ready tree n.children := by
  intro e he c hc hrole
  obtain ⟨hoffset, hclause⟩ := h e he
  exact ready_of_code (hn.code_of_role hc hrole) hoffset
    fun counter heq => hclause counter heq c hc hrole

theorem adds_if (hn : IsPart tree n)
    (hclauses : ∀ a ∈ n.children, a.role = some .alternative → PlainAlternative a) :
    AddsTo tree n (enterIf s n) := by
  rw [enterIf]
  refine (adds_onSkeleton _).bind fun branch _ => ?_
  refine (adds_newOutcome _ _).bind fun first _ => (adds_newOutcome _ _).bind fun second _ => ?_
  have hplan : AddsTo tree n (pure (Plan.roles ((.condition, .part) ::
      (if s.hint n = some .ifArm then [] else [(.consequence, .arm (some first))]) ++
      (if s.hint n = some .elseArm then [] else [(.alternative, .elseClause second)])))) := by
    refine .pure (ready_roles hn fun e he => ?_)
    rw [List.cons_append, List.mem_cons, List.mem_append] at he
    rcases he with rfl | he | he
    · exact ⟨nofun, nofun⟩
    · split at he
      · cases he
      · rw [List.mem_singleton.1 he]
        exact ⟨nofun, nofun⟩
    · split at he
      · cases he
      · rw [List.mem_singleton.1 he]
        exact ⟨nofun, fun _ _ => hclauses⟩
  refine .ite (fun _ => (adds_mark ⟨List.forall_mem_singleton.2 ?_, nofun⟩).bind fun _ _ => hplan)
    fun _ => hplan
  split
  · next c hc => exact (hn.childIn hc).stop
  · exact hn.stop

/-- Slots that keep no places and are not for clauses. -/
def Plain (slots : List (Role × Slot)) : Prop :=
  ∀ e ∈ slots, e.2.offset? = none ∧ ∀ counter, e.2 ≠ .elseClause counter

theorem ready_plain (hn : IsPart tree n) {slots : List (Role × Slot)} (h : Plain slots) :
    (Plan.roles slots).Ready tree n.children := by
  refine ready_roles hn fun e he => ?_
  obtain ⟨hoffset, hclause⟩ := h e he
  constructor
  · intro k hk
    rw [hoffset] at hk
    cases hk
  · exact fun counter heq => absurd heq (hclause counter)

variable {slot : Slot}

theorem EntryPlace.atToken {offset : Nat} (h : EntryPlace n slot offset) (hn : IsPart tree n)
    (hslot : slot.Ready tree n) : tree.AtToken offset := by
  obtain rfl | hoffset := h
  · exact hn.start
  · exact hslot.offset hn.code offset hoffset

theorem EntryMark.fits {m : Mark} (h : EntryMark n slot m) (hn : IsPart tree n)
    (hslot : slot.Ready tree n) : m.Fits tree n := by
  have hone : ∀ {k}, tree.AtToken k → ∀ k' ∈ [k], tree.AtToken k' := List.forall_mem_singleton.2
  have hboth : ∀ k ∈ [n.start, n.stop], tree.AtToken k :=
    List.forall_mem_cons.2 ⟨hn.start, hone hn.stop⟩
  have hrange : ∀ r, some (n.start, n.stop) = some r → r = (n.start, n.stop) :=
    fun r hr => (Option.some.inj hr).symm
  cases h with
  | count hplace => exact ⟨hone (hplace.atToken hn hslot), nofun⟩
  | brace hkind => exact ⟨hone (hn.brace hkind), nofun⟩
  | colon hmem htoken =>
    have hcode := code_of_kind (of_decide_eq_true htoken) nofun nofun
    exact ⟨hone (hn.child hmem hcode).stop, nofun⟩
  | entry hkind =>
    refine ⟨hone (IsPart.prologue (hn.brace hkind) fun c hc hcode => ?_), nofun⟩
    exact hn.child (List.mem_filter.1 hc).1 hcode
  | pair => exact ⟨hboth, hrange⟩
  | block => exact ⟨hboth, hrange⟩
  | body => exact ⟨hboth, hrange⟩

theorem EntryPlan.ready {plan : Plan} (h : EntryPlan s n slot plan) (hn : IsPart tree n)
    (hslot : slot.Ready tree n) : plan.Ready tree n.children := by
  have hkeep : ∀ {offset k : Nat}, EntryPlace n slot offset → some offset = some k →
      tree.AtToken k := fun hplace hk => Option.some.inj hk ▸ hplace.atToken hn hslot
  cases h with
  | declarators _ hplace => exact fun _ => hkeep hplace
  | declared => exact nofun
  | exports _ hplace => exact hplace.atToken hn hslot
  | labeled hplace =>
    refine ready_roles hn (List.forall_mem_singleton.2 ⟨fun _ => hkeep hplace, nofun⟩)
  | declaration heq => exact fun k hk => hslot.offset hn.code k (heq ▸ hk)
  | declarator heq =>
    refine ready_roles hn (List.forall_mem_cons.2 ⟨⟨nofun, nofun⟩, ?_⟩)
    exact List.forall_mem_singleton.2 ⟨fun k hk => hslot.offset hn.code k (heq ▸ hk), nofun⟩
  | alternative heq => exact hslot.clause _ heq
  | function _ computed => exact ready_plain hn (by cases computed <;> simp [Plain, Slot.offset?])
  | switch | conditional | operands | pattern | field =>
    exact ready_plain hn (by simp [Plain, Slot.offset?])
  | _ => trivial

/-- Entering a node leaves marks at tokens which wrap nothing but the node. -/
theorem adds_enter (hn : IsPart tree n) (hclauses : PlainClauses n) (hslot : slot.Ready tree n) :
    AddsTo tree n (enter s slot n) := by
  have hentry := entry_enter s slot n
  generalize enter s slot n = x at hentry
  induction hentry with
  | plan hplan => exact .pure (hplan.ready hn hslot)
  | ifElse hkind => exact adds_if hn (hclauses hkind)
  | function _ _ _ _ _ ih => exact (adds_onSkeleton _).bind fun id _ => ih id
  | statement _ ih => exact (adds_onSkeleton _).bind fun id _ => ih id
  | branch _ _ ih => exact (adds_onSkeleton _).bind fun branch _ => ih branch
  | defaultValue _ _ ih => exact (adds_onSkeleton _).bind fun branch _ => ih branch
  | outcome _ _ ih => exact (adds_newOutcome _ _).bind fun c _ => ih c
  | mark hm _ ih => exact (adds_mark (hm.fits hn hslot)).bind fun _ _ => ih

/-! ### Comments -/

theorem quiet_statement (hremark : n.isRemark = true) (offset : Nat) :
    Adds (fun _ => False) (enterStatement s offset n) (fun _ => True) := by
  rw [enterStatement]
  refine .ite (fun _ => .pure trivial) fun hcode => ?_
  have hkind : n.kind = .markupComment := by
    cases hcomment : n.isComment with
    | true => simp [hcomment] at hcode
    | false => simpa [Node.isRemark, hcomment] using hremark
  rw [enterConstruct, hkind]
  exact .pure trivial

theorem quiet_part (hremark : n.isRemark = true) :
    Adds (fun _ => False) (enterPart s n) (fun _ => True) := by
  rw [enterPart]
  refine .ite (fun _ => .pure trivial) fun hcode => ?_
  have hkind : n.kind = .markupComment := by
    cases hcomment : n.isComment with
    | true => simp [hcomment] at hcode
    | false => simpa [Node.isRemark, hcomment] using hremark
  rw [hkind]
  exact .pure trivial

/-- A comment leaves no marks in the slots that it can stand in. -/
theorem quiet_enter (hremark : n.isRemark = true) {slot : Slot} (h : slot.takesRemarks = true) :
    Adds (fun _ => False) (enter s slot n) (fun _ => True) := by
  rw [enter.eq_def]
  cases slot with
  | part => exact quiet_part hremark
  | statement offset => exact quiet_statement hremark offset
  | loopHead => exact .ite (fun _ => .pure trivial) fun _ => quiet_part hremark
  | member => exact .ite (fun _ => .pure trivial) fun _ => quiet_part hremark
  | _ => cases h

end Enter

/-! ### The whole walk -/

section Walk

open Recording Mark

variable {tree : Node} {s : Setting} {low middle high : Nat}

/-- A step leaves marks that nest between two offsets. -/
def Leaves (tree : Node) (low high : Nat) (x : Recording Unit) : Prop :=
  ∀ p, ∃ marks : List Mark, (x.run p).2.marks = marks.reverse ++ p.marks ∧ Nest tree low high marks

/-- The clauses of every `if` of a tree have alternatives that are no comments. -/
def PlainTree (m : Node) : Prop := ∀ n : Node, n.InTree m → PlainClauses n

theorem PlainTree.child {m c : Node} (h : PlainTree m) (hc : c ∈ m.children) : PlainTree c :=
  fun n hn => h n (.inChild hc hn)

/-- Nodes of a tree that stand one behind the other. Comments among them are leaves and play no
role. -/
structure Row (tree : Node) (nodes : List Node) : Prop where
  part : ∀ c ∈ nodes, c.isRemark = false → IsPart tree c
  remark : ∀ c ∈ nodes, c.isRemark = true → c.children = [] ∧ c.role = none
  plain : ∀ c ∈ nodes, PlainTree c
  ordered : nodes.Pairwise fun a b => ∀ d : Node, d.InTree a → d.stop ≤ b.start

theorem Row.tail {c : Node} {rest : List Node} (h : Row tree (c :: rest)) : Row tree rest :=
  ⟨fun d hd => h.part d (List.mem_cons_of_mem _ hd), fun d hd => h.remark d (List.mem_cons_of_mem _ hd),
    fun d hd => h.plain d (List.mem_cons_of_mem _ hd), (List.pairwise_cons.1 h.ordered).2⟩

theorem IsPart.row {n : Node} (hn : IsPart tree n) (hplain : PlainTree n) : Row tree n.children where
  part _ hc hcode := hn.child hc hcode
  remark c hc hremark := ⟨(hn.tidy.child hc).own.remark hremark, hn.tidy.own.role c hc hremark⟩
  plain _ hc := hplain.child hc
  ordered := hn.tidy.own.ordered

/-- The code among some nodes stands between two offsets. -/
def Spans (low high : Nat) (nodes : List Node) : Prop :=
  ∀ c ∈ nodes, c.isRemark = false → low ≤ c.start ∧ c.stop ≤ high

theorem Spans.behind {c : Node} {rest : List Node} (h : Spans low high (c :: rest))
    (hrow : Row tree (c :: rest)) : Spans c.stop high rest := fun d hd hcode =>
  ⟨(List.pairwise_cons.1 hrow.ordered).1 d hd c .self, (h d (List.mem_cons_of_mem _ hd) hcode).2⟩

theorem Leaves.seq {x : Recording Unit} {y : Recording Unit} (hx : Leaves tree low middle x)
    (hy : Leaves tree middle high y) (hlow : low ≤ middle) (hhigh : middle ≤ high) :
    Leaves tree low high (do x; y) := by
  intro p
  obtain ⟨marks, hmarks, hnest⟩ := hx p
  obtain ⟨more, hmore, hnest'⟩ := hy (x.run p).2
  refine ⟨marks ++ more, ?_, hnest.append hnest' hlow hhigh⟩
  rw [List.reverse_append, List.append_assoc, ← hmarks]
  exact hmore

theorem leaves_remark {c : Node} (hremark : c.isRemark = true) (hleaf : c.children = []) {slot : Slot}
    (h : slot.takesRemarks = true) (offset : Nat) :
    Leaves tree offset offset (walk s slot c) := by
  obtain ⟨kind, role, start, stop, children⟩ := c
  cases hleaf
  intro p
  rw [walk]
  obtain ⟨⟨marks, hmarks, hnone⟩, -⟩ := quiet_enter (s := s) hremark h p
  have hnil : marks = [] := List.eq_nil_iff_forall_not_mem.2 hnone
  rw [hnil] at hmarks
  exact ⟨[], hmarks, nest_nil tree offset offset⟩

mutual

/-- Walking a node leaves marks that nest in it. -/
theorem leaves_walk {slot : Slot} : (n : Node) → IsPart tree n → PlainTree n →
    slot.Ready tree n → Leaves tree n.start n.stop (walk s slot n)
  | ⟨kind, role, start, stop, children⟩, hn, hplain, hslot => by
    intro p
    rw [walk]
    obtain ⟨⟨marks, hmarks, hfits⟩, hready⟩ := adds_enter (s := s) hn (hplain _ .self) hslot p
    have hspans : Spans start stop children :=
      fun c hc hcode => ⟨hn.tidy.own.inside c hc, hn.tidy.own.code c hc hcode⟩
    obtain ⟨more, hmore, hnest⟩ := leaves_walkAll children (hn.row hplain) hready start stop
      (Nat.le_of_lt hn.tidy.proper) hspans _
    refine ⟨marks ++ more, ?_, hnest.within hn.tidy.proper hfits⟩
    rw [List.reverse_append, List.append_assoc, ← hmarks]
    exact hmore

theorem leaves_walkAll {plan : Plan} : (children : List Node) → Row tree children →
    plan.Ready tree children → (low high : Nat) → low ≤ high → Spans low high children →
    Leaves tree low high (walkAll s plan children)
  | [], _, _, low, high, _, _ => fun p => ⟨[], rfl, nest_nil tree low high⟩
  | c :: rest, hrow, hready, low, high, hle, hspans => by
    have hnext := hready.next (fun hremark => (hrow.remark c List.mem_cons_self hremark).2)
      (fun hcode => (hrow.part c List.mem_cons_self hcode).start)
    have hrest : Spans low high rest := fun d hd => hspans d (List.mem_cons_of_mem _ hd)
    rw [walkAll]
    split
    · next slot plan' heq =>
      rw [heq] at hnext
      have hslot := hnext.slot slot rfl
      cases hremark : c.isRemark with
      | true =>
        have hleaf := (hrow.remark c List.mem_cons_self hremark).1
        have hwalk : Leaves tree low low (walk s slot c) :=
          leaves_remark hremark hleaf (hslot.remark hremark) low
        exact hwalk.seq (leaves_walkAll rest hrow.tail hnext.plan low high hle hrest)
          (Nat.le_refl low) hle
      | false =>
        have hpart := hrow.part c List.mem_cons_self hremark
        obtain ⟨hstart, hstop⟩ := hspans c List.mem_cons_self hremark
        have hwalk := leaves_walk c hpart (hrow.plain c List.mem_cons_self) hslot
        have hwiden : Leaves tree low c.stop (walk s slot c) := fun p => by
          obtain ⟨marks, hmarks, hnest⟩ := hwalk p
          exact ⟨marks, hmarks, hnest.widen hstart (Nat.le_refl _)⟩
        have hbehind := leaves_walkAll rest hrow.tail hnext.plan c.stop high hstop
          (hspans.behind hrow)
        exact hwiden.seq hbehind (Nat.le_trans hstart (Nat.le_of_lt hpart.tidy.proper)) hstop
    · next plan' heq =>
      rw [heq] at hnext
      exact leaves_walkAll rest hrow.tail hnext.plan low high hle hrest

end

/-- How the nodes of a program stand. Unlike other nodes a program may start with a comment. -/
structure TidyProgram (program : Node) : Prop where
  tidy : ∀ c ∈ program.children, c.Tidy
  ordered : program.children.Pairwise fun a b => ∀ d : Node, d.InTree a → d.stop ≤ b.start
  role : ∀ c ∈ program.children, c.isRemark = true → c.role = none

theorem exists_spans (nodes : List Node) : ∃ high, Spans 0 high nodes := by
  induction nodes with
  | nil => exact ⟨0, nofun⟩
  | cons c rest ih =>
    obtain ⟨high, hhigh⟩ := ih
    refine ⟨max c.stop high, List.forall_mem_cons.2 ⟨fun _ => ?_, fun d hd hcode => ?_⟩⟩
    · exact ⟨Nat.zero_le _, Nat.le_max_left _ _⟩
    · exact ⟨Nat.zero_le _, Nat.le_trans (hhigh d hd hcode).2 (Nat.le_max_right _ _)⟩

/-- The marks that the walk leaves in a program nest. -/
theorem nest_walkProgram {program : Node} (h : TidyProgram program) (hplain : PlainTree program)
    (s : Setting) (path : String) :
    ∃ high, Nest program 0 high (walkProgram s path program).2 := by
  have hrow : Row program program.children := by
    constructor
    · exact fun c hc hcode => ⟨h.tidy c hc, .inChild hc .self, hcode⟩
    · exact fun c hc hremark => ⟨(h.tidy c hc).own.remark hremark, h.role c hc hremark⟩
    · exact fun c hc => hplain.child hc
    · exact h.ordered
  have hready : (Plan.statements true).Ready program program.children := trivial
  obtain ⟨high, hhigh⟩ := exists_spans program.children
  obtain ⟨marks, hmarks, hnest⟩ := leaves_walkAll (s := s) program.children hrow hready 0 high
    (Nat.zero_le _) hhigh ⟨.empty path, []⟩
  refine ⟨high, ?_⟩
  change Nest program 0 high
    ((walkAll s (.statements true) program.children).run ⟨.empty path, []⟩).2.marks.reverse
  rw [hmarks, List.append_nil, List.reverse_reverse]
  exact hnest

end Walk

end Coverage.Instrument
