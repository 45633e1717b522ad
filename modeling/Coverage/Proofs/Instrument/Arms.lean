import Coverage.Proofs.Instrument.Edges

/-!
# Around the arms of an `if`

The places of a walk as seen from one node: not within it, not closed at its end, or neither
(`Spares`, `Frees`, `Avoids`). The nodes beside it avoid it, and those around it spare it.

So of the children of an `if` only the statement that it guards puts anything into that statement,
and only a block that is put around it, or its own walk, closes anything at its end
(`arms_walkAll`).
-/

namespace Coverage

namespace Script.Node

variable {m n : Node}

/-- Code ends in the nodes around it. -/
theorem Tidy.inTree_stop_le (h : m.Tidy) (hn : n.InTree m) (hcode : n.isRemark = false) :
    n.stop ≤ m.stop := by
  induction hn with
  | self => exact Nat.le_refl _
  | @inChild m c hc hin ih =>
    cases hremark : c.isRemark with
    | false => exact Nat.le_trans (ih (h.child hc)) (h.own.code c hc hremark)
    | true =>
      -- A comment has no nodes below it, so it is `n` itself, which is code.
      have heq := hin.eq_of_leaf ((h.child hc).own.remark hremark)
      rw [heq, hremark] at hcode
      cases hcode

end Script.Node

namespace Instrument

open Coverage.Script (Node Kind Role)

/-! ### Places around a node -/

/-- Nothing is put in within a node. -/
def Spares (q : Node) (_ : EditKind) (offset : Nat) : Prop := ¬ (q.start < offset ∧ offset < q.stop)

/-- Nothing is closed where a node ends. -/
def Frees (q : Node) (kind : EditKind) (offset : Nat) : Prop := kind = .closing → offset ≠ q.stop

/-- Nothing is put in within a node, and nothing is closed where it ends. -/
def Avoids (q : Node) (kind : EditKind) (offset : Nat) : Prop :=
  Spares q kind offset ∧ Frees q kind offset

theorem Mark.At.spares {m : Mark} {q : Node} (h : m.At (Avoids q)) : m.At (Spares q) :=
  h.mono fun _ _ h => h.1

theorem Mark.At.frees {m : Mark} {q : Node} (h : m.At (Avoids q)) : m.At (Frees q) :=
  h.mono fun _ _ h => h.2

section Edges

variable {ok ok' : EditKind → Nat → Prop} {m n c d q : Node} {offset : Nat}

theorem Edges.mono (h : Edges ok n) (himp : ∀ k o, ok k o → ok' k o) : Edges ok' n where
  start := himp _ _ h.start
  stop := himp _ _ h.stop
  brace hkind := himp _ _ (h.brace hkind)
  children c hc := ⟨himp _ _ (h.children c hc).1, himp _ _ (h.children c hc).2⟩

/-- The brace of a block is one of its children. -/
theorem Edges.of_tidy (hn : n.Tidy) (hstart : ok .opening n.start) (hstop : ok .closing n.stop)
    (hchildren : ∀ c ∈ n.children, ok .opening c.stop ∧ ok .closing c.stop) : Edges ok n where
  start := hstart
  stop := hstop
  brace hkind := by
    obtain ⟨c, hc, -, -, -, hbrace⟩ := hn.own.brace hkind
    exact hbrace ▸ (hchildren c hc).1
  children := hchildren

/-- The edges of a node whose tree ends in front of an offset. -/
theorem edges_before (hn : n.Tidy) (h : ∀ d : Node, d.InTree n → d.stop ≤ offset) :
    Edges (fun _ o => o ≤ offset) n := by
  refine .of_tidy hn ?_ (h n .self) fun c hc => ?_
  · exact Nat.le_trans (Nat.le_of_lt hn.proper) (h n .self)
  · have hstop := h c (.inChild hc .self)
    exact ⟨hstop, hstop⟩

/-- The edges of a node behind an offset. What is closed at them is closed behind the offset. -/
theorem edges_behind (hn : n.Tidy) (h : offset ≤ n.start) :
    Edges (fun k o => offset ≤ o ∧ (k = .closing → offset < o)) n := by
  have hclose : ∀ d : Node, d.Tidy → offset ≤ d.start → offset < d.stop := fun d hd hle =>
    Nat.lt_of_le_of_lt hle hd.proper
  refine .of_tidy hn ⟨h, nofun⟩ ?_ fun c hc => ?_
  · exact ⟨Nat.le_of_lt (hclose n hn h), fun _ => hclose n hn h⟩
  · have hstop := hclose c (hn.child hc) (Nat.le_trans h (hn.own.inside c hc))
    exact ⟨⟨Nat.le_of_lt hstop, nofun⟩, Nat.le_of_lt hstop, fun _ => hstop⟩

theorem avoids_before (hq : q.start < q.stop) (hn : n.Tidy)
    (h : ∀ d : Node, d.InTree n → d.stop ≤ q.start) : Edges (Avoids q) n := by
  refine (edges_before hn h).mono fun k o ho => ⟨fun hin => ?_, fun _ => ?_⟩ <;> omega

theorem avoids_behind (hn : n.Tidy) (h : q.stop ≤ n.start) : Edges (Avoids q) n := by
  refine (edges_behind hn h).mono fun k o ho => ⟨fun hin => ?_, fun hk => ?_⟩
  · omega
  · have := ho.2 hk
    omega

/-- The edges of a node around another one are not within that one. -/
theorem spares_around (hm : m.Tidy) (hc : c ∈ m.children) (hq : q.InTree c)
    (hcode : q.isRemark = false) : Edges (Spares q) m := by
  have hqm : q.InTree m := .inChild hc hq
  have hstart := hm.inTree_start_le hqm
  have hstop := hm.inTree_stop_le hqm hcode
  have hchild : ∀ d ∈ m.children, d.stop ≤ q.start ∨ q.stop ≤ d.stop := by
    intro d hd
    rcases Node.eq_or_of_pairwise hm.own.ordered hd hc with rfl | hbefore | hbehind
    · exact .inr ((hm.child hd).inTree_stop_le hq hcode)
    · exact .inl (Nat.le_trans (hbefore d .self) ((hm.child hc).inTree_start_le hq))
    · exact .inr (Nat.le_trans (hbehind q hq) (Nat.le_of_lt (hm.child hd).proper))
  refine .of_tidy hm (fun hin => ?_) (fun hin => ?_) fun d hd => ?_
  · omega
  · omega
  · have hside := hchild d hd
    constructor <;> (intro hin; omega)

end Edges

/-! ### Walking the arms of an `if` -/

/-- A block ends with a brace. -/
def Braced (n : Node) : Prop :=
  n.kind = .statementBlock → ∃ c ∈ n.children, c.isToken "\x7d" = true ∧ c.stop = n.stop

/-- What the syntax gives to the nodes of a tree without faults. -/
structure Formed (n : Node) : Prop where
  tidy : n.Tidy
  regular : Regular n
  braced : ∀ d : Node, d.InTree n → Braced d

theorem Formed.child {n c : Node} (h : Formed n) (hc : c ∈ n.children) : Formed c := by
  refine ⟨h.tidy.child hc, ?_, fun d hd => h.braced d (.inChild hc hd)⟩
  cases h.regular with
  | node _ _ children => exact children c hc

/-- The plan for what comes behind some children. -/
def Plan.after (plan : Plan) (nodes : List Node) : Plan :=
  nodes.foldl (fun plan c => (plan.next c).2) plan

section Arms

open Recording

variable {s : Setting} {n q : Node} {ok : EditKind → Nat → Prop}

/-- The children of a node are walked in two parts. -/
theorem walkAll_append (plan : Plan) (before behind : List Node) :
    walkAll s plan (before ++ behind) = (do
      walkAll s plan before
      walkAll s (plan.after before) behind) := by
  induction before generalizing plan with
  | nil =>
    rw [walkAll, pure_bind]
    rfl
  | cons c rest ih =>
    have hafter : plan.after (c :: rest) = (plan.next c).2.after rest := rfl
    rw [List.cons_append, walkAll, walkAll, hafter]
    split
    · next heq => rw [heq, ih, bind_assoc]
    · next heq => rw [heq, ih]

/-- Children in other roles leave the slot of a role to the first child in it. -/
theorem after_roles {role : Role} {nodes : List Node} (h : ∀ c ∈ nodes, c.role ≠ some role)
    (slots : List (Role × Slot)) : ∃ rest, (Plan.roles slots).after nodes = .roles rest ∧
      (∀ e ∈ rest, e ∈ slots) ∧
      rest.find? (fun e => e.1 = role) = slots.find? (fun e => e.1 = role) := by
  induction nodes generalizing slots with
  | nil => exact ⟨slots, rfl, fun _ he => he, rfl⟩
  | cons c nodes ih =>
    obtain ⟨hc, hnodes⟩ := List.forall_mem_cons.1 h
    have hnext : ∃ left, ((Plan.roles slots).next c).2 = .roles left ∧ (∀ e ∈ left, e ∈ slots) ∧
        left.find? (fun e => e.1 = role) = slots.find? (fun e => e.1 = role) := by
      have hstep := (Plan.roles slots).step_next c
      generalize (Plan.roles slots).next c = next at hstep ⊢
      cases hstep with
      | skip => exact ⟨slots, rfl, fun _ he => he, rfl⟩
      | @role _ other _ hother =>
        have hne : role ≠ other := fun heq => hc (heq ▸ hother)
        refine ⟨_, rfl, fun e he => (List.mem_filter.1 he).1, ?_⟩
        rw [List.find?_filter]
        congr 1
        funext e
        by_cases he : e.1 = role
        · simp [he, hne]
        · simp [he]
    obtain ⟨left, hleft, hsub, hfind⟩ := hnext
    obtain ⟨rest, hrest, hsub', hfind'⟩ := ih hnodes left
    refine ⟨rest, ?_, fun e he => hsub e (hsub' e he), hfind'.trans hfind⟩
    rw [← hrest, ← hleft]
    rfl

/-- The mark that a step starts with is the first one that it leaves. -/
theorem Recording.Puts.head {P : Mark → Prop} {m : Mark} {x : Recording Unit}
    (hx : Puts P x fun _ => True) {p : Progress} {marks : List Mark}
    (hmarks : ((do mark m; x).run p).2.marks = marks.reverse ++ p.marks) :
    ∃ rest, marks = m :: rest := by
  obtain ⟨⟨rest, hrest, -⟩, -⟩ := hx.marks { p with marks := m :: p.marks }
  have heq : marks.reverse ++ p.marks = rest.reverse ++ (m :: p.marks) := hmarks.symm.trans hrest
  refine ⟨rest, List.reverse_inj.1 (List.append_cancel_right (heq.trans ?_))⟩
  rw [List.reverse_cons, List.append_assoc, List.singleton_append]

/-- The first mark on an arm that is not a block puts one around it. -/
theorem block_walk {counter : Option Counter} {x : Recording Unit}
    (hx : Puts (·.At fun _ _ => True) x fun _ => True) : (q : Node) → q.kind ≠ .statementBlock →
    ∀ (p : Progress) (marks : List Mark),
      ((do walk s (.arm counter) q; x).run p).2.marks = marks.reverse ++ p.marks →
        ∃ rest, marks = .block q.start q.stop :: rest
  | ⟨kind, role, start, stop, children⟩, hkind, p, marks, hmarks => by
    have hslot : (Slot.arm counter).Sends fun _ _ => True := fun _ _ => trivial
    have hvisits : Visits (fun _ _ => True) s ⟨kind, role, start, stop, children⟩ _ :=
      visits_entry (edges_trivial _) hslot (entry_single counter)
    rw [walk, enter, enterArm, if_neg hkind, bind_assoc, bind_assoc] at hmarks
    refine Puts.head (hvisits.puts.bind fun plan _ => ?_) hmarks
    exact (puts_walkAll_anywhere plan children).bind fun _ _ => hx

/-- An arm that is a block has nothing in it that is closed where the block ends. -/
theorem frees_walk {counter : Option Counter} : (q : Node) → Formed q → q.kind = .statementBlock →
    Puts (·.At (Frees q)) (walk s (.arm counter) q) (fun _ => True)
  | ⟨kind, role, start, stop, children⟩, hq, hkind => by
    have henter : Puts (·.At (Frees ⟨kind, role, start, stop, children⟩))
        (enter s (.arm counter) ⟨kind, role, start, stop, children⟩)
        (·.Sends (Frees ⟨kind, role, start, stop, children⟩)) := by
      have hplan : ∀ c : Bool, Puts (·.At (Frees ⟨kind, role, start, stop, children⟩))
          (pure (if c then Plan.nothing else Plan.statements false))
          (·.Sends (Frees ⟨kind, role, start, stop, children⟩)) := by
        intro c
        refine .pure ?_
        split <;> trivial
      rw [enter, enterArm, if_pos hkind]
      cases counter with
      | none => exact hplan _
      | some c =>
        have hcount : (Mark.count (start + 1) c).At (Frees ⟨kind, role, start, stop, children⟩) :=
          List.forall_mem_singleton.2 fun hclosing => by cases hclosing
        exact (puts_mark hcount).bind fun _ _ => hplan _
    rw [walk]
    refine henter.bind fun plan hplan => puts_walkAll children (fun c hc hnamed d hd => ?_) hplan
    obtain ⟨brace, hbrace, htoken, hstop⟩ := hq.braced _ .self hkind
    have hd' := hd.tidy (hq.tidy.child hc)
    have hproper := (hq.tidy.child hbrace).proper
    rcases Node.eq_or_of_pairwise hq.tidy.own.ordered hc hbrace with rfl | hbefore | hbehind
    · rw [Node.isNamed, of_decide_eq_true htoken] at hnamed
      cases hnamed
    · refine (edges_before hd' fun e he => hbefore e (he.trans hd)).mono fun k o ho _ => ?_
      omega
    · have hstart := (hq.tidy.child hc).inTree_start_le hd
      have hle := Nat.le_trans (hbehind brace .self) hstart
      refine (edges_behind hd' hle).mono fun k o ho hk => ?_
      have := ho.2 hk
      omega

/-- The child in a role stands apart from all other children. -/
theorem split_child (hn : n.Tidy) {role : Role} (hq : n.child? role = some q) :
    q.role = some role ∧ ∃ pre post, n.children = pre ++ q :: post ∧
      (∀ c ∈ pre, c.role ≠ some role) ∧
      ∀ c, c ∈ pre ∨ c ∈ post → ∀ d : Node, d.InTree c → Edges (Avoids q) d := by
  obtain ⟨hrole, pre, post, hchildren, hpre⟩ := List.find?_eq_some_iff_append.1 hq
  have htidy : ∀ c ∈ pre ++ q :: post, c.Tidy := fun c hc => hn.child (hchildren ▸ hc)
  have hordered := hn.own.ordered
  rw [hchildren] at hordered
  obtain ⟨-, hbehind, hbefore⟩ := List.pairwise_append.1 hordered
  refine ⟨of_decide_eq_true hrole, pre, post, hchildren, fun c hc => by simpa using hpre c hc,
    fun c hc d hd => ?_⟩
  rcases hc with hc | hc
  · have hd' := hd.tidy (htidy c (List.mem_append_left _ hc))
    refine avoids_before (htidy q (by simp)).proper hd' fun e he => ?_
    exact hbefore c hc q List.mem_cons_self e (he.trans hd)
  · have hc' : c.Tidy := htidy c (by simp [hc])
    refine avoids_behind (hd.tidy hc') (Nat.le_trans ?_ (hc'.inTree_start_le hd))
    exact (List.pairwise_cons.1 hbehind).1 c hc q .self

/-- A child in a role is no comment. -/
theorem code_of_child (hn : n.Tidy) {role : Role} (hq : n.child? role = some q) :
    q.isRemark = false := by
  cases hremark : q.isRemark with
  | false => rfl
  | true =>
    have hrole := (split_child hn hq).1
    rw [hn.own.role q (List.mem_of_find?_eq_some hq) hremark] at hrole
    cases hrole

/-- An `if` without faults does something. -/
theorem Formed.consequence (hn : Formed n) (hkind : n.kind = .ifStatement) :
    ∃ q, n.child? .consequence = some q ∧ q.isNamed = true := by
  cases hn.regular with
  | node _ shape _ => exact shape.consequence hkind

variable {slots : List (Role × Slot)} {p : Progress} {marks : List Mark}

/-- How the children of a node are walked by their roles: first what stands before the child in a
role, then that child in its slot, if there is one, and then the rest. -/
theorem walkAll_child (hn : n.Tidy) {role : Role} (hq : n.child? role = some q)
    (hnamed : q.isNamed = true) (hfree : ∀ e ∈ slots, e.2.offset? = none) :
    ∃ x y : Recording Unit, Puts (·.At (Avoids q)) x (fun _ => True) ∧
      Puts (·.At (Avoids q)) y (fun _ => True) ∧
      walkAll s (.roles slots) n.children = (do
        x
        match slots.find? fun e => e.1 = role with
        | some e => walk s e.2 q
        | none => pure ()
        y) := by
  obtain ⟨hrole, pre, post, hchildren, hpre, hedges⟩ := split_child hn hq
  obtain ⟨left, hafter, hleft, hfind⟩ := after_roles hpre slots
  have hbehind : ∀ rest : List (Role × Slot), (∀ e ∈ rest, e ∈ left) →
      Puts (·.At (Avoids q)) (walkAll s (.roles rest) post) (fun _ => True) :=
    fun rest hrest => puts_walkAll post (fun c hc _ => hedges c (.inr hc))
      (sends_roles fun e he => hfree e (hleft e (hrest e he)))
  have hbefore : Puts (·.At (Avoids q)) (walkAll s (.roles slots) pre) (fun _ => True) :=
    puts_walkAll pre (fun c hc _ => hedges c (.inl hc)) (sends_roles hfree)
  rw [hchildren, walkAll_append, hafter, walkAll, ← hfind]
  cases hfound : left.find? fun e => e.1 = role with
  | none =>
    have hnext : (Plan.roles left).next q = (none, .roles left) := by
      simp [Plan.next, hrole, hfound]
    refine ⟨_, _, hbefore, hbehind left fun _ he => he, ?_⟩
    rw [hnext]
  | some e =>
    have hnext : (Plan.roles left).next q =
        (some e.2, .roles (left.filter fun d => d.1 ≠ e.1)) := by
      simp [Plan.next, hnamed, hrole, hfound]
    refine ⟨_, walkAll s (.roles (left.filter fun d => d.1 ≠ e.1)) post, hbefore,
      hbehind _ fun d hd => (List.mem_filter.1 hd).1, ?_⟩
    rw [hnext]

/-- The marks on the arms of an `if`. Where a hint leaves out what the `if` does, nothing is put
into that. Otherwise it is a block, or a block is put around it. -/
theorem arms_walkAll (hn : Formed n) (hkind : n.kind = .ifStatement)
    (hq : n.child? .consequence = some q) {first : Counter}
    (hfree : ∀ e ∈ slots, e.2.offset? = none)
    (hslot : slots.find? (fun e => e.1 = .consequence) =
      if s.hint n = some .ifArm then none else some (.consequence, .arm (some first)))
    (hmarks : ((walkAll s (.roles slots) n.children).run p).2.marks = marks.reverse ++ p.marks) :
    if s.hint n = some .ifArm then ∀ m ∈ marks, m.At (Avoids q)
    else if q.kind = .statementBlock then ∀ m ∈ marks, m.At (Frees q)
    else ∃ middle rest, marks = middle ++ .block q.start q.stop :: rest ∧
      ∀ m ∈ middle, m.At (Frees q) := by
  obtain ⟨c, hc, hnamed⟩ := hn.consequence hkind
  rw [hq, Option.some.injEq] at hc
  obtain ⟨x, y, hx, hy, hwalk⟩ := walkAll_child (s := s) hn.tidy hq (hc ▸ hnamed) hfree
  rw [hwalk, hslot] at hmarks
  split
  · next hhint =>
    rw [if_pos hhint] at hmarks
    exact (hx.bind fun _ _ => hy).forall_mem hmarks
  · next hhint =>
    rw [if_neg hhint] at hmarks
    split
    · next hblock =>
      have harm : Puts (·.At (Frees q)) (walk s (.arm (some first)) q) (fun _ => True) :=
        frees_walk q (hn.child (List.mem_of_find?_eq_some hq)) hblock
      have hall := (hx.imp fun _ h => h.frees).bind fun _ _ =>
        harm.bind fun _ _ => hy.imp fun _ h => h.frees
      exact hall.forall_mem hmarks
    · next hblock =>
      have hy' : Puts (·.At fun _ _ => True) y (fun _ => True) :=
        hy.imp fun m h => h.mono fun _ _ _ => trivial
      have harm : Puts (·.At fun _ _ => True) (walk s (.arm (some first)) q) (fun _ => True) :=
        puts_walk_anywhere _ q
      obtain ⟨middle, more, rfl, hmiddle, hmore⟩ := hx.split (harm.bind fun _ _ => hy') hmarks
      obtain ⟨rest, rfl⟩ := block_walk hy' q hblock _ more hmore
      exact ⟨middle, rest, rfl, fun m hm => (hx.forall_mem hmiddle m hm).frees⟩

end Arms

end Instrument

end Coverage
