import Coverage.Instrument.Program
import Coverage.Proofs.FileRecord.Json
import Coverage.Proofs.Instrument.Skeleton
import Coverage.Proofs.Instrument.Steps
import Coverage.Proofs.Text.Lines

/-!
# Marks stand behind the registration

The nodes of a program that is laid out in order are walked from the first statement behind its
directives on. So no mark is left before the place of the registration, and nothing that a mark
closes ends there (`behind_walkProgram`). On the way all columns that are recorded stay numbers
that a coverage object can be read back with.
-/

namespace Coverage

namespace Position

theorem exact_of_column {p : Position} {column : Nat} (h : p.column = Int64.ofNat column)
    (hsize : column < 2 ^ 53) : p.Exact := by
  have hint : p.column.toInt = column := by
    rw [h, Int64.toInt_ofNat_of_lt (Nat.lt_trans hsize (by decide))]
  refine .inr (.of_lt ?_)
  rw [hint, Int.natAbs_natCast]
  exact hsize

end Position

namespace Instrument

open Coverage.Script (Node Kind Role Prologue prologue prologueFrom offset_prologueFrom)

/-! ### Where nodes stand -/

/-- The nodes of a tree hold something and start no earlier than the nodes above them. Offsets are
words of 32 bits. -/
inductive Laid : Node → Prop where
  | node (n : Node) (proper : n.start < n.stop) (size : n.stop < 2 ^ 32)
      (inside : ∀ c ∈ n.children, n.start ≤ c.start) (children : ∀ c ∈ n.children, Laid c) : Laid n

theorem Laid.proper {n : Node} (h : Laid n) : n.start < n.stop := by
  cases h
  assumption

theorem Laid.size {n : Node} (h : Laid n) : n.stop < 2 ^ 32 := by
  cases h
  assumption

theorem Laid.inside {n c : Node} (h : Laid n) (hc : c ∈ n.children) : n.start ≤ c.start := by
  cases h with
  | node _ _ _ hinside _ => exact hinside c hc

theorem Laid.child {n c : Node} (h : Laid n) (hc : c ∈ n.children) : Laid c := by
  cases h with
  | node _ _ _ _ hchildren => exact hchildren c hc

/-- The parts of a program stand one behind the other, and none of them starts with the end of a
line. -/
structure LaidOut (src : List Char) (program : Node) : Prop where
  laid : ∀ c ∈ program.children, Laid c
  ordered : program.children.Pairwise fun a b => a.stop ≤ b.start
  lineFeed : ∀ c ∈ program.children, ∀ rest, Text.dropBytes c.start src ≠ '\n' :: rest

/-! ### What is recorded -/

/-- A record under construction that is sound, with columns that are read back. -/
structure Skeleton.Written (path : String) (k : Skeleton) : Prop where
  path : k.record.path = path
  sourceMap : k.record.sourceMap = none
  sound : k.record.Sound
  exact : k.record.Exact

/-- The edits of a mark are behind an offset: what it opens may stand there, but what it closes
may not. -/
def Mark.Behind (bound : Nat) : Mark → Prop
  | .count offset _ | .entry offset _ _ => bound ≤ offset
  | .pair start stop _ | .block start stop | .body start stop _ _ => bound ≤ start ∧ bound < stop
  | .alternative offset _ => bound < offset

/-- What a walk has recorded that started behind an offset. -/
structure Progress.Behind (bound : Nat) (path : String) (p : Progress) : Prop where
  written : p.skeleton.Written path
  marks : ∀ m ∈ p.marks, m.Behind bound

/-- A slot that sends no counter in front of an offset. -/
def Slot.Behind (bound : Nat) : Slot → Prop
  | .statement offset | .declaration offset => bound ≤ offset
  | .declarator offset | .initializer offset => ∀ n, offset = some n → bound ≤ n
  | .defaultValue pattern => pattern.Exact
  | _ => True

/-- A plan that sends no counter in front of an offset. -/
def Plan.Behind (bound : Nat) : Plan → Prop
  | .declarators offset => ∀ n, offset = some n → bound ≤ n
  | .exports offset => bound ≤ offset
  | .roles slots => ∀ e ∈ slots, e.2.Behind bound
  | _ => True

/-- A slot and the plan for what comes behind it send no counter in front of an offset. -/
structure NextBehind (bound : Nat) (next : Option Slot × Plan) : Prop where
  slot : ∀ slot, next.1 = some slot → slot.Behind bound
  plan : next.2.Behind bound

section Next

variable {bound : Nat} {plan : Plan} {c : Node}

theorem NextBehind.skip (h : plan.Behind bound) : NextBehind bound (none, plan) := ⟨nofun, h⟩

theorem NextBehind.fill (plan : Plan) {slot : Slot} (h : plan.Behind bound)
    (hslot : slot.Behind bound) : NextBehind bound (some slot, plan) :=
  ⟨fun _ heq => Option.some.inj heq ▸ hslot, h⟩

/-- A child behind the offset gets a slot that sends no counter in front of it. -/
theorem Plan.Behind.next (h : plan.Behind bound) (hc : bound ≤ c.start) :
    NextBehind bound (plan.next c) := by
  have hstep := plan.step_next c
  generalize plan.next c = next at hstep ⊢
  cases hstep with
  | skip => exact .skip h
  | part => exact .fill _ h trivial
  | member => exact .fill _ h trivial
  | statement => exact .fill (.statements false) trivial hc
  | declarator => exact .fill _ h h
  | declared => exact .fill _ h trivial
  | declaration => exact .fill _ h h
  | exported => exact .fill _ h trivial
  | loopBody => exact .fill _ h trivial
  | loopHead => exact .fill _ h trivial
  | alternative => exact .fill .nothing trivial trivial
  | case => exact .fill _ h trivial
  | caseValue => exact .fill _ h trivial
  | caseBody => exact .fill _ h hc
  | role _ hslot =>
    exact .fill (.roles _) (fun e he => h e (List.mem_filter.1 he).1) (h _ hslot)

end Next

/-! ### Growing skeletons -/

namespace Skeleton.Written

variable {path : String} {k : Skeleton}

theorem newStatement (h : k.Written path) {range : Location} (hrange : range.Exact) :
    (k.newStatement range).1.Written path := by
  refine ⟨h.path, h.sourceMap, sound_newStatement h.sound range, ?_⟩
  exact ⟨Table.forall_get?_insert h.exact.statements _ hrange, h.exact.functions,
    h.exact.branches⟩

theorem newFunction (h : k.Written path) (name : Option String) {decl body : Location}
    (hdecl : decl.Exact) (hbody : body.Exact) :
    (k.newFunction name decl body).1.Written path := by
  refine ⟨h.path, h.sourceMap, sound_newFunction h.sound name decl body, ?_⟩
  exact ⟨h.exact.statements, Table.forall_get?_insert h.exact.functions _ ⟨hdecl, hbody⟩,
    h.exact.branches⟩

theorem newBranch (h : k.Written path) (kind : BranchKind) {range : Location}
    (hrange : range.Exact) : (k.newBranch kind range).1.Written path := by
  refine ⟨h.path, h.sourceMap, sound_newBranch h.sound kind range, ?_⟩
  refine ⟨h.exact.statements, h.exact.functions, Table.forall_get?_insert h.exact.branches _ ?_⟩
  refine ⟨fun l hl => ?_, List.forall_mem_nil _⟩
  cases hl
  exact hrange

theorem newOutcome (h : k.Written path) (branch : Id) {range : Location} (hrange : range.Exact) :
    (k.newOutcome branch range).1.Written path := by
  have hsound := sound_newOutcome h.sound branch range
  cases hb : k.record.branches.get? branch with
  | none =>
    simp only [Skeleton.newOutcome, hb] at hsound ⊢
    exact h
  | some b =>
    obtain ⟨counts, -, -, hnew⟩ := newOutcome_eq h.sound hb range
    rw [hnew] at hsound ⊢
    refine ⟨h.path, h.sourceMap, hsound, h.exact.statements, h.exact.functions, ?_⟩
    have hold := h.exact.branches branch b hb
    apply Table.forall_get?_insert h.exact.branches
    refine ⟨hold.range, fun l hl => ?_⟩
    rcases List.mem_append.1 hl with hl | hl
    · exact hold.outcomes l hl
    · exact List.mem_singleton.1 hl ▸ hrange

theorem exact_freeze (h : k.Written path) : k.freeze.Exact := by
  refine ⟨h.exact.statements, h.exact.functions, fun id b hget => ?_⟩
  rw [get?_branches_freeze, Option.filter_eq_some_iff] at hget
  exact h.exact.branches id b hget.1

end Skeleton.Written

/-! ### Steps of the walk -/

namespace Recording

variable {α β : Type} {inv : Progress → Prop} {post post' : α → Prop}

/-- A step keeps an invariant and ends with what `post` says. -/
def Ensures (inv : Progress → Prop) (x : Recording α) (post : α → Prop) : Prop :=
  ∀ p, inv p → inv (x.run p).2 ∧ post (x.run p).1

namespace Ensures

theorem pure {a : α} (h : post a) : Ensures inv (pure a) post := fun _ hp => ⟨hp, h⟩

theorem imp {x : Recording α} (hx : Ensures inv x post) (h : ∀ a, post a → post' a) :
    Ensures inv x post' := by
  intro p hp
  obtain ⟨hinv, ha⟩ := hx p hp
  exact ⟨hinv, h _ ha⟩

theorem bind {x : Recording α} {f : α → Recording β} {post' : β → Prop}
    (hx : Ensures inv x post) (hf : ∀ a, post a → Ensures inv (f a) post') :
    Ensures inv (x >>= f) post' := by
  intro p hp
  obtain ⟨hinv, ha⟩ := hx p hp
  exact hf (x.run p).1 ha (x.run p).2 hinv

theorem ite {c : Prop} [Decidable c] {x y : Recording α} (hx : c → Ensures inv x post)
    (hy : ¬ c → Ensures inv y post) : Ensures inv (if c then x else y) post := by
  split
  · exact hx ‹_›
  · exact hy ‹_›

end Ensures

variable {bound : Nat} {path : String}

theorem ensures_mark (m : Mark) (h : m.Behind bound) :
    Ensures (·.Behind bound path) (mark m) (fun _ => True) :=
  fun _ hp => ⟨⟨hp.written, List.forall_mem_cons.2 ⟨h, hp.marks⟩⟩, trivial⟩

theorem ensures_onSkeleton {f : Skeleton → Skeleton × α}
    (h : ∀ k : Skeleton, k.Written path → (f k).1.Written path) :
    Ensures (·.Behind bound path) (onSkeleton f) (fun _ => True) :=
  fun _ hp => ⟨⟨h _ hp.written, hp.marks⟩, trivial⟩

theorem ensures_newStatement {range : Location} (h : range.Exact) :
    Ensures (·.Behind bound path) (newStatement range) (fun _ => True) :=
  ensures_onSkeleton fun _ hk => hk.newStatement h

theorem ensures_newFunction (name : Option String) {decl body : Location} (hdecl : decl.Exact)
    (hbody : body.Exact) :
    Ensures (·.Behind bound path) (newFunction name decl body) (fun _ => True) :=
  ensures_onSkeleton fun _ hk => hk.newFunction name hdecl hbody

theorem ensures_newBranch (kind : BranchKind) {range : Location} (h : range.Exact) :
    Ensures (·.Behind bound path) (newBranch kind range) (fun _ => True) :=
  ensures_onSkeleton fun _ hk => hk.newBranch kind h

theorem ensures_newOutcome (branch : Id) {range : Location} (h : range.Exact) :
    Ensures (·.Behind bound path) (newOutcome branch range) (fun _ => True) :=
  (ensures_onSkeleton fun _ hk => hk.newOutcome branch h).bind fun _ _ => .pure trivial

end Recording

/-! ### Entering nodes -/

section Enter

open Recording

variable {s : Setting} {bound : Nat} {path : String} {n : Node}

theorem exact_position (s : Setting) {offset : Nat} (h : offset < 2 ^ 32) :
    (Text.position s.source offset).Exact := by
  obtain ⟨column, hle, hcolumn⟩ := Text.exists_column_position s.source offset
  exact Position.exact_of_column hcolumn (by omega)

theorem exact_range (s : Setting) (hn : Laid n) : (s.range n).Exact :=
  ⟨exact_position s (Nat.lt_trans hn.proper hn.size), exact_position s hn.size⟩

theorem exact_firstColumn (s : Setting) (hn : Laid n) : (s.firstColumn n).Exact := by
  have hstart : n.start < 2 ^ 32 := Nat.lt_trans hn.proper hn.size
  obtain ⟨column, hle, hcolumn⟩ := Text.exists_column_position s.source n.start
  have hnext : (Text.position s.source n.start).column + 1 = Int64.ofNat (column + 1) := by
    rw [hcolumn, Int64.ofNat_add]
    rfl
  exact ⟨exact_position s hstart, Position.exact_of_column hnext (by omega)⟩

theorem laid_child? (hn : Laid n) {role : Role} {c : Node} (h : n.child? role = some c) :
    Laid c ∧ n.start ≤ c.start :=
  have hmem := List.mem_of_find?_eq_some h
  ⟨hn.child hmem, hn.inside hmem⟩

/-- The prologue of the children of a node ends behind its start. -/
theorem le_prologueFrom {p : Prologue} {nodes : List Node} (hp : bound ≤ p.offset)
    (h : ∀ c ∈ nodes, bound ≤ c.stop) : bound ≤ (prologueFrom p nodes).offset := by
  obtain hstart | ⟨c, hc, -, hstop⟩ := offset_prologueFrom p nodes
  · exact hstart ▸ hp
  · exact hstop ▸ h c hc

/-- Entering a node behind an offset puts nothing in front of it. -/
abbrev Enters (bound : Nat) (path : String) (x : Recording Plan) : Prop :=
  Ensures (·.Behind bound path) x (·.Behind bound)

theorem enters_if (hn : Laid n) (hb : bound ≤ n.start) : Enters bound path (enterIf s n) := by
  have hrange := exact_range s hn
  have harm : ∀ {l : Location} (skip : Prop) [Decidable skip], l.Exact →
      (if skip then l.skipped else l).Exact := by
    intro l skip _ hl
    split
    · exact ⟨hl.start, hl.stop⟩
    · exact hl
  rw [enterIf]
  refine (ensures_newBranch _ hrange).bind fun branch _ => ?_
  refine (ensures_newOutcome branch (harm _ hrange)).bind fun first _ => ?_
  refine (ensures_newOutcome branch (harm _ ?_)).bind fun second _ => ?_
  · split
    · next a ha =>
      obtain ⟨clause, hclause, hfind⟩ := Option.bind_eq_some_iff.1 ha
      have hmem := (List.mem_filter.1 (List.mem_of_find?_eq_some hfind)).1
      exact exact_range s ((laid_child? hn hclause).1.child hmem)
    · exact hrange
  have hplan : Enters bound path (pure (Plan.roles ((.condition, .part) ::
      (if s.hint n = some .ifArm then [] else [(.consequence, .arm (some first))]) ++
      (if s.hint n = some .elseArm then [] else [(.alternative, .elseClause second)])))) := by
    refine .pure ?_
    split <;> split <;> simp [Plan.Behind, Slot.Behind]
  refine .ite (fun _ => (ensures_mark (.alternative _ _) ?_).bind fun _ _ => hplan) fun _ => hplan
  -- The consequence ends behind the start of the statement.
  split
  · next c hc =>
    obtain ⟨hlaid, hstart⟩ := laid_child? hn hc
    exact Nat.lt_of_le_of_lt (Nat.le_trans hb hstart) hlaid.proper
  · exact Nat.lt_of_le_of_lt hb hn.proper

variable {slot : Slot}

/-- The place that a slot keeps is not in front of the offset. -/
theorem Slot.Behind.le (h : slot.Behind bound) {offset : Nat} (hoffset : slot.offset? = some offset) :
    bound ≤ offset := by
  cases slot with
  | statement | declaration => exact Option.some.inj hoffset ▸ h
  | declarator | initializer => exact h offset hoffset
  | _ => cases hoffset

theorem EntryPlace.le {offset : Nat} (h : EntryPlace n slot offset) (hb : bound ≤ n.start)
    (hslot : slot.Behind bound) : bound ≤ offset := by
  obtain rfl | hoffset := h
  · exact hb
  · exact hslot.le hoffset

theorem EntryMark.behind {m : Mark} (h : EntryMark n slot m) (hn : Laid n) (hb : bound ≤ n.start)
    (hslot : slot.Behind bound) : m.Behind bound := by
  have hstop : ∀ c ∈ n.children, bound ≤ c.stop := fun c hc =>
    Nat.le_trans (Nat.le_trans hb (hn.inside hc)) (Nat.le_of_lt (hn.child hc).proper)
  have hwrap : bound ≤ n.start ∧ bound < n.stop := ⟨hb, Nat.lt_of_le_of_lt hb hn.proper⟩
  cases h with
  | count hplace => exact hplace.le hb hslot
  | brace => exact Nat.le_succ_of_le hb
  | colon hmem => exact hstop _ hmem
  | entry => exact le_prologueFrom (Nat.le_succ_of_le hb) fun c hc => hstop c (List.mem_filter.1 hc).1
  | pair => exact hwrap
  | block => exact hwrap
  | body => exact hwrap

theorem EntryPlan.behind {plan : Plan} (h : EntryPlan s n slot plan) (hn : Laid n)
    (hb : bound ≤ n.start) (hslot : slot.Behind bound) : plan.Behind bound := by
  cases h with
  | declarators _ hplace => exact fun _ h => Option.some.inj h ▸ hplace.le hb hslot
  | declared => exact nofun
  | exports _ hplace => exact hplace.le hb hslot
  | labeled hplace => simpa [Plan.Behind, Slot.Behind] using hplace.le hb hslot
  | pattern => simpa [Plan.Behind, Slot.Behind] using exact_range s hn
  | declaration heq =>
    subst heq
    exact fun _ h => Option.some.inj h ▸ hslot
  | declarator heq =>
    subst heq
    simpa [Plan.Behind, Slot.Behind] using hslot
  | function _ computed => cases computed <;> simp [Plan.Behind, Slot.Behind]
  | switch | conditional | operands | field =>
    simp [Coverage.Instrument.operands, Plan.Behind, Slot.Behind]
  | _ => trivial

/-- Entering any node behind an offset puts nothing in front of it. -/
theorem enters (hn : Laid n) (hb : bound ≤ n.start) (hslot : slot.Behind bound) :
    Enters bound path (enter s slot n) := by
  have hrange := exact_range s hn
  have hentry := entry_enter s slot n
  generalize enter s slot n = x at hentry
  induction hentry with
  | plan hplan => exact .pure (hplan.behind hn hb hslot)
  | ifElse => exact enters_if hn hb
  | function _ hbody name hdecl _ ih =>
    have hbody := exact_range s (laid_child? hn hbody).1
    refine (ensures_newFunction name ?_ hbody).bind fun id _ => ih id
    obtain rfl | ⟨m, hm, rfl⟩ := hdecl
    · exact exact_firstColumn s hn
    · exact exact_range s (hn.child hm)
  | statement _ ih => exact (ensures_newStatement hrange).bind fun id _ => ih id
  | branch kind _ ih => exact (ensures_newBranch kind hrange).bind fun branch _ => ih branch
  | defaultValue heq _ ih =>
    subst heq
    exact (ensures_newBranch .defaultValue hslot).bind fun branch _ => ih branch
  | outcome branch _ ih => exact (ensures_newOutcome branch hrange).bind fun c _ => ih c
  | mark hm _ ih => exact (ensures_mark _ (hm.behind hn hb hslot)).bind fun _ _ => ih

end Enter

/-! ### The whole walk -/

section Walk

open Recording

variable {s : Setting} {bound : Nat} {path : String}

mutual

theorem ensures_walk {slot : Slot} (hslot : slot.Behind bound) : (n : Node) → Laid n →
    bound ≤ n.start → Ensures (·.Behind bound path) (walk s slot n) (fun _ => True)
  | ⟨kind, role, start, stop, children⟩, hn, hb => by
    rw [walk]
    refine (enters hn hb hslot).bind fun plan hplan => ?_
    exact ensures_walkAll hplan children (fun c hc => hn.child hc)
      fun c hc => Nat.le_trans hb (hn.inside hc)

theorem ensures_walkAll {plan : Plan} (hplan : plan.Behind bound) : (children : List Node) →
    (∀ c ∈ children, Laid c) → (∀ c ∈ children, bound ≤ c.start) →
    Ensures (·.Behind bound path) (walkAll s plan children) (fun _ => True)
  | [], _, _ => by
    rw [walkAll]
    exact .pure trivial
  | c :: rest, hlaid, hb => by
    obtain ⟨hc, hrest⟩ := List.forall_mem_cons.1 hlaid
    obtain ⟨hbc, hbrest⟩ := List.forall_mem_cons.1 hb
    have hnext := hplan.next hbc
    rw [walkAll]
    split
    · next slot plan' heq =>
      rw [heq] at hnext
      refine (ensures_walk (hnext.slot slot rfl) c hc hbc).bind fun _ _ => ?_
      exact ensures_walkAll hnext.plan rest hrest hbrest
    · next plan' heq =>
      rw [heq] at hnext
      exact ensures_walkAll hnext.plan rest hrest hbrest

end

/-- Only what stands behind the directives of a program is walked. -/
theorem ensures_walkStatements {p : Prologue} {nodes : List Node}
    (hp : ∀ c ∈ nodes, p.offset ≤ c.start) (hlaid : ∀ c ∈ nodes, Laid c)
    (hordered : nodes.Pairwise fun a b => a.stop ≤ b.start)
    (hbound : ∀ c ∈ nodes, (prologueFrom p (nodes.filter Node.isNamed)).offset ≤ c.start →
      bound ≤ c.start) :
    Ensures (·.Behind bound path) (walkAll s (.statements true) nodes) (fun _ => True) := by
  induction nodes generalizing p with
  | nil => exact .pure trivial
  | cons c rest ih =>
    obtain ⟨hpc, hprest⟩ := List.forall_mem_cons.1 hp
    obtain ⟨hc, hrest⟩ := List.forall_mem_cons.1 hlaid
    obtain ⟨hbehind, hordered⟩ := List.pairwise_cons.1 hordered
    -- A node that is no statement leaves the plan as it is.
    have hskip : ∀ q : Prologue, (∀ d ∈ rest, q.offset ≤ d.start) →
        prologueFrom q (rest.filter Node.isNamed) =
          prologueFrom p ((c :: rest).filter Node.isNamed) →
        (Plan.statements true).next c = (none, .statements true) →
        Ensures (·.Behind bound path) (walkAll s (.statements true) (c :: rest))
          (fun _ => True) := by
      intro q hq hprologue hnext
      rw [walkAll, hnext]
      refine ih hq hrest hordered fun d hd hle => ?_
      exact hbound d (List.mem_cons_of_mem _ hd) (hprologue ▸ hle)
    by_cases hnamed : c.isNamed = true
    case neg => exact hskip p hprest (by simp [hnamed]) (by simp [Plan.next, hnamed])
    by_cases hcomment : c.isComment = true
    · refine hskip p hprest ?_ (by simp [Plan.next, Plan.statementSlot, hnamed, hcomment])
      rw [List.filter_cons_of_pos hnamed, prologueFrom, if_pos hcomment]
    by_cases hline : c.kind = .interpreterLine
    · refine hskip ⟨c.stop, false⟩ hbehind ?_
        (by simp [Plan.next, Plan.statementSlot, hnamed, hline])
      rw [List.filter_cons_of_pos hnamed, prologueFrom, if_neg hcomment, if_pos hline]
    by_cases hdirective : c.isDirective = true
    · refine hskip ⟨c.stop, !c.endsWithSemicolon⟩ hbehind ?_
        (by simp [Plan.next, Plan.statementSlot, hnamed, hdirective])
      rw [List.filter_cons_of_pos hnamed, prologueFrom, if_neg hcomment, if_neg hline,
        if_pos hdirective]
    · have hend : prologueFrom p ((c :: rest).filter Node.isNamed) = p := by
        rw [List.filter_cons_of_pos hnamed, prologueFrom, if_neg hcomment, if_neg hline,
          if_neg hdirective]
      rw [hend] at hbound
      have hbc : bound ≤ c.start := hbound c List.mem_cons_self hpc
      have hnext : (Plan.statements true).next c = (some (.statement c.start), .statements false) := by
        simp [Plan.next, Plan.statementSlot, hnamed, hcomment, hline, hdirective]
      have hslot : (Slot.statement c.start).Behind bound := hbc
      have hplan : (Plan.statements false).Behind bound := trivial
      rw [walkAll, hnext]
      refine (ensures_walk hslot c hc hbc).bind fun _ _ => ?_
      refine ensures_walkAll hplan rest hrest fun d hd => ?_
      exact hbound d (List.mem_cons_of_mem _ hd) (hprest d hd)

end Walk

theorem Skeleton.written_empty (path : String) : (Skeleton.empty path).Written path :=
  ⟨rfl, rfl, .empty path, nofun, nofun, nofun⟩

/-- The registration goes to the end of the directives or, behind the line that names an
interpreter, to the start of the next line. -/
theorem preamble_offset (src : List Char) (program : Node) :
    (preamble src program).offset = (prologue program.namedChildren 0).offset ∨
      (preamble src program).offset = (prologue program.namedChildren 0).offset + 1 ∧
        ∃ rest, Text.dropBytes (prologue program.namedChildren 0).offset src = '\n' :: rest := by
  rw [preamble]
  split
  · split
    · next rest heq => exact .inr ⟨rfl, rest, heq⟩
    · exact .inl rfl
  · exact .inl rfl

/-- What is recorded for a program stands behind the place of the registration. -/
theorem behind_walkProgram (s : Setting) (path : String) {src : List Char} {program : Node}
    (h : LaidOut src program) :
    (walkProgram s path program).1.Written path ∧
      ∀ m ∈ (walkProgram s path program).2, m.Behind (preamble src program).offset := by
  have hbound : ∀ c ∈ program.children, (prologue program.namedChildren 0).offset ≤ c.start →
      (preamble src program).offset ≤ c.start := by
    intro c hc hle
    rcases preamble_offset src program with heq | ⟨heq, rest, hfeed⟩
    · exact heq ▸ hle
    · -- No statement starts with the end of the first line.
      have hne : (prologue program.namedChildren 0).offset ≠ c.start := by
        intro hstart
        exact h.lineFeed c hc rest (hstart ▸ hfeed)
      rw [heq]
      exact Nat.lt_of_le_of_ne hle hne
  have hstart : Progress.Behind (preamble src program).offset path ⟨.empty path, []⟩ :=
    ⟨Skeleton.written_empty path, nofun⟩
  have hend := (ensures_walkStatements (fun c _ => Nat.zero_le c.start) h.laid h.ordered hbound
    (s := s) ⟨.empty path, []⟩ hstart).1
  exact ⟨hend.written, fun m hm => hend.marks m (List.mem_reverse.1 hm)⟩

end Instrument

end Coverage
