import Coverage.Proofs.Instrument.Arms
import Coverage.Proofs.Instrument.Brackets

/-!
# Which `if` a clause belongs to

An `if` without an alternative gets one that counts, as a clause behind what the `if` does. An
`else` belongs to the last `if` before it that is open, and the statement before it has to be over.
So what comes out in front of the clause has to be a block, or a statement that admits an `else`
behind it (`Node.admitsElse`, `Attached`).

The walk puts what an `if` does into a block, if it is none, and puts nothing between the brace and
the clause. Only where a hint leaves the arm out it comes out as it stands. Then the clause goes to
another `if` when the arm ends in one that is open.

The main result is `clauses_walkProgram`.
-/

namespace Coverage

namespace Script

/-- Whether a statement of a kind has to end with a semicolon where an `else` follows. That of a
`do` may be left out. -/
def Kind.takesSemicolon : Kind → Bool
  | .expressionStatement | .breakStatement | .continueStatement | .debuggerStatement
  | .returnStatement | .throwStatement | .variableDeclaration | .lexicalDeclaration => true
  | _ => false

namespace Node

/-! ### Statements that admit an `else` -/

/-- Whether a statement is an `if` without an alternative, which would take an `else` behind it, or
lacks its semicolon. -/
def spoilsElse (n : Node) : Bool :=
  (n.kind = .ifStatement && n.children.all fun c => c.role ≠ some .alternative) ||
    (n.kind.takesSemicolon && !n.endsWithSemicolon)

mutual

/-- Whether an `else` behind a node goes to the `if` around the node: no statement that the node
ends with spoils that. -/
def admitsElse : Node → Bool
  | ⟨kind, role, start, stop, children⟩ =>
    !spoilsElse ⟨kind, role, start, stop, children⟩ && lastAdmitsElse children

/-- Whether it does behind the last of some nodes. Comments behind that are passed over. -/
def lastAdmitsElse : List Node → Bool
  | [] => true
  | c :: rest => if rest.all isRemark then c.isRemark || c.admitsElse else lastAdmitsElse rest

end

end Node

end Script

namespace Instrument

open Coverage.Script (Node Kind Role)

/-! ### The marks around a clause -/

/-- The clause of an `if` among the marks of a walk, with the marks before it and behind it. -/
structure Belongs (s : Setting) (k : Skeleton) (n q : Node) (branch : Id) (before : List Mark)
    (offset : Nat) (c : Counter) (behind : List Mark) : Prop where
  lacks : LacksElse s n
  consequence : n.child? .consequence = some q
  offset : offset = q.stop
  counter : c = .outcome branch 1
  recorded : k.record.HasIf branch (s.range n)
  /-- What the `if` does comes out as it stands where a hint leaves it out. -/
  spared : s.hint n = some .ifArm → (∀ m ∈ before ++ behind, m.At (Spares q)) ∧
    ∀ m ∈ behind, m.At (Frees q)
  block : s.hint n ≠ some .ifArm → q.kind = .statementBlock → ∀ m ∈ behind, m.At (Frees q)
  wrapped : s.hint n ≠ some .ifArm → q.kind ≠ .statementBlock →
    ∃ middle rest, behind = middle ++ .block q.start q.stop :: rest ∧ ∀ m ∈ middle, m.At (Frees q)

section Marks

open Recording

variable {s : Setting} {k k' : Skeleton} {n q : Node} {branch : Id} {offset : Nat} {c : Counter}
  {before behind front more : List Mark}

/-- Marks in front of a clause change nothing about it if they spare what the `if` does. -/
theorem Belongs.prepend (h : Belongs s k n q branch before offset c behind)
    (hfront : ∀ m ∈ front, m.At (Spares q)) :
    Belongs s k n q branch (front ++ before) offset c behind := by
  refine { h with spared := fun hhint => ?_ }
  obtain ⟨hspares, hfrees⟩ := h.spared hhint
  rw [List.append_assoc]
  exact ⟨List.forall_mem_append.2 ⟨hfront, hspares⟩, hfrees⟩

/-- Marks behind it do not either if nothing is closed at them where the clause stands. -/
theorem Belongs.append (h : Belongs s k n q branch before offset c behind) (hgrows : k'.Grows k)
    (hroom : k'.record.HasRoom) (hmore : ∀ m ∈ more, m.At (Avoids q)) :
    Belongs s k' n q branch before offset c (behind ++ more) where
  lacks := h.lacks
  consequence := h.consequence
  offset := h.offset
  counter := h.counter
  recorded := hgrows.ifs hroom _ _ h.recorded
  spared hhint := by
    obtain ⟨hspares, hfrees⟩ := h.spared hhint
    rw [← List.append_assoc]
    exact ⟨List.forall_mem_append.2 ⟨hspares, fun m hm => (hmore m hm).spares⟩,
      List.forall_mem_append.2 ⟨hfrees, fun m hm => (hmore m hm).frees⟩⟩
  block hhint hblock :=
    List.forall_mem_append.2 ⟨h.block hhint hblock, fun m hm => (hmore m hm).frees⟩
  wrapped hhint hblock := by
    obtain ⟨middle, rest, rfl, hmiddle⟩ := h.wrapped hhint hblock
    exact ⟨middle, rest ++ more, by simp, hmiddle⟩

/-- Every clause among the marks of a step is that of an `if` that stands inside something. -/
def Settles (s : Setting) (inside : Node → Prop) (x : Recording Unit) : Prop :=
  ∀ (p : Progress) (marks : List Mark), (x.run p).2.HasRoom →
    (x.run p).2.marks = marks.reverse ++ p.marks →
    ∀ before offset c behind, marks = before ++ .alternative offset c :: behind →
      ∃ n q branch, inside n ∧ Belongs s (x.run p).2.skeleton n q branch before offset c behind

/-- A mark stands in the first or in the second one of two lists. -/
theorem cons_of_append {α : Type} {front more before behind : List α} {a : α}
    (h : front ++ more = before ++ a :: behind) :
    (∃ rest, front = before ++ a :: rest ∧ behind = rest ++ more) ∨
      ∃ rest, more = rest ++ a :: behind ∧ before = front ++ rest := by
  rcases List.append_eq_append_iff.1 h with ⟨rest, hbefore, hmore⟩ | ⟨rest, hfront, hrest⟩
  · exact .inr ⟨rest, hmore, hbefore⟩
  · cases rest with
    | nil => exact .inr ⟨[], hrest.symm, by simpa using hfront.symm⟩
    | cons b rest =>
      rw [List.cons_append, List.cons.injEq] at hrest
      exact .inl ⟨rest, hrest.1 ▸ hfront, hrest.2⟩

/-- The clause of an `if` is the last mark on it. -/
theorem Ending.eq_of_clause {plan : Plan} {marks : List Mark} (h : Ending s n k plan marks)
    (hmarks : marks = before ++ .alternative offset c :: behind) :
    behind = [] ∧ LacksElse s n ∧ offset = clauseOffset n ∧
      ∃ branch first slots, c = .outcome branch 1 ∧ k.record.HasIf branch (s.range n) ∧
        plan = .roles slots ∧ (∀ e ∈ slots, e.2.offset? = none) ∧
        slots.find? (fun e => e.1 = .consequence) =
          if s.hint n = some .ifArm then none else some (.consequence, .arm (some first)) := by
  have hmem : Mark.alternative offset c ∈ marks := hmarks ▸ by simp
  cases h with
  | plain hplain => cases hplain _ hmem
  | @clause slots marks branch first hplain hlacks hbranch hfree hslot =>
    rcases List.eq_nil_or_concat behind with rfl | ⟨rest, last, rfl⟩
    · obtain ⟨-, heq⟩ := List.append_inj' hmarks rfl
      rw [List.cons.injEq, Mark.alternative.injEq] at heq
      exact ⟨rfl, hlacks, heq.1.1.symm, branch, first, slots, heq.1.2.symm, hbranch, rfl, hfree,
        hslot⟩
    · rw [List.concat_eq_append, ← List.cons_append, ← List.append_assoc] at hmarks
      obtain ⟨hmarks, -⟩ := List.append_inj' hmarks rfl
      cases hplain (.alternative offset c) (hmarks ▸ by simp)

/-- Entering a node in a slot leaves the clause of the node, if it gets one. -/
theorem settles_enter {slot : Slot} (hn : Formed n)
    (hslot : ∀ q : Node, q.InTree n → q.isRemark = false → slot.Sends (Spares q))
    {p p' : Progress} (hgrows : p'.skeleton.Grows ((enter s slot n).run p).2.skeleton)
    (hroom : p'.skeleton.record.HasRoom)
    (hfront : ((enter s slot n).run p).2.marks =
      (before ++ .alternative offset c :: behind).reverse ++ p.marks)
    (hmore : ((walkAll s ((enter s slot n).run p).1 n.children).run
      ((enter s slot n).run p).2).2.marks =
      more.reverse ++ ((enter s slot n).run p).2.marks) :
    ∃ q branch, Belongs s p'.skeleton n q branch before offset c (behind ++ more) := by
  obtain ⟨found, hfound, -, hending⟩ := (visits_enter_anywhere slot n p).marks
  have heq : found = before ++ .alternative offset c :: behind :=
    List.reverse_inj.1 (List.append_cancel_right (hfound.symm.trans hfront))
  obtain ⟨rfl, hlacks, rfl, branch, first, slots, rfl, hbranch, hplan, hfree, hfind⟩ :=
    hending.eq_of_clause heq
  obtain ⟨q, hq, -⟩ := hn.consequence hlacks.kind
  have hmem : q ∈ n.children := List.mem_of_find?_eq_some hq
  have hcode := code_of_child hn.tidy hq
  rw [hplan] at hmore
  have harms := arms_walkAll hn hlacks.kind hq hfree hfind hmore
  have hspares := (visits_enter (spares_around hn.tidy hmem .self hcode)
    (hslot q (.inChild hmem .self) hcode)).puts.forall_mem hfront
  refine ⟨q, branch, hlacks, hq, by rw [clauseOffset, hq], rfl,
    hgrows.ifs hroom _ _ hbranch, fun hhint => ?_, fun hhint hblock => ?_, fun hhint hblock => ?_⟩
  · rw [if_pos hhint] at harms
    refine ⟨List.forall_mem_append.2 ⟨?_, ?_⟩, ?_⟩
    · exact fun m hm => hspares m (List.mem_append_left _ hm)
    · exact fun m hm => (harms m hm).spares
    · exact fun m hm => (harms m hm).frees
  · rw [if_neg hhint, if_pos hblock] at harms
    exact harms
  · rw [if_neg hhint, if_neg hblock] at harms
    exact harms

/-- What an `if` does stands in every tree that the `if` stands in. -/
theorem Belongs.inTree {m : Node} (h : Belongs s k n q branch before offset c behind)
    (hn : n.InTree m) : q.InTree m :=
  (Node.InTree.inChild (List.mem_of_find?_eq_some h.consequence) .self).trans hn

/-- The first of some trees spares what stands in one of those behind it. -/
theorem spares_walk {m : Node} {slot : Slot} (hm : m.Tidy) (hq : q.Tidy)
    (hle : ∀ d : Node, d.InTree m → d.stop ≤ q.start) (hslot : slot.Sends (Spares q)) :
    Puts (·.At (Spares q)) (walk s slot m) (fun _ => True) := by
  refine puts_walk m (fun d hd => ?_) hslot
  exact (avoids_before hq.proper (hd.tidy hm) fun e he => hle e (he.trans hd)).mono fun _ _ h => h.1

/-- The trees behind the first one avoid what stands in that. -/
theorem avoids_walkAll {plan : Plan} {rest : List Node} (hrest : ∀ c ∈ rest, c.Tidy)
    (hle : ∀ c ∈ rest, q.stop ≤ c.start) (hplan : plan.Sends (Spares q)) :
    Puts (·.At (Avoids q)) (walkAll s plan rest) (fun _ => True) := by
  refine puts_walkAll rest (fun c hc _ d hd => ?_) (hplan.mono fun _ h => ⟨h, nofun⟩)
  have hc' := hrest c hc
  exact avoids_behind (hd.tidy hc') (Nat.le_trans (hle c hc) (hc'.inTree_start_le hd))

/-- The next of some trees finds its slot in order, and the others find the plan in order. -/
theorem sends_next {plan : Plan} {m : Node} {rest : List Node} (hformed : ∀ c ∈ m :: rest, Formed c)
    (hbehind : ∀ c ∈ rest, ∀ d : Node, d.InTree m → d.stop ≤ c.start)
    (hq : ∃ c ∈ m :: rest, q.InTree c) (hplan : plan.Sends (Spares q)) :
    NextSends (Spares q) (plan.next m) := by
  obtain ⟨c, hc, hq⟩ := hq
  have hstart := (hformed c hc).tidy.inTree_start_le hq
  refine hplan.next fun hin => ?_
  rcases List.mem_cons.1 hc with rfl | hc
  · omega
  · have hstop := hbehind c hc m .self
    have hproper := (hformed m List.mem_cons_self).tidy.proper
    omega

mutual

/-- Every clause that the walk through a tree leaves is that of an `if` in the tree. -/
theorem settles_walk {slot : Slot} : (m : Node) → Formed m →
    (∀ q : Node, q.InTree m → q.isRemark = false → slot.Sends (Spares q)) →
    Settles s (·.InTree m) (walk s slot m)
  | ⟨kind, role, start, stop, children⟩, hm, hslot => by
    intro p marks hroom hmarks before offset c behind hsplit
    rw [walk] at hroom hmarks ⊢
    have henter : Puts (·.At fun _ _ => True) (enter s slot ⟨kind, role, start, stop, children⟩)
        (·.Sends fun _ _ => True) := (visits_enter_anywhere slot _).puts
    have hwalk := puts_walkAll_anywhere (s := s)
      ((enter s slot ⟨kind, role, start, stop, children⟩).run p).1 children
    obtain ⟨front, more, rfl, hfront, hmore⟩ := henter.split hwalk hmarks
    rcases cons_of_append hsplit with ⟨rest, rfl, rfl⟩ | ⟨rest, rfl, rfl⟩
    · obtain ⟨q, branch, hbelongs⟩ :=
        settles_enter hm hslot (hwalk.grows _) hroom hfront hmore
      exact ⟨_, q, branch, .self, hbelongs⟩
    · -- The clause stands below the node, around which nothing is put into what the `if` does.
      have hputs : ∀ q : Node, (∃ c ∈ children, q.InTree c) → q.isRemark = false →
          Puts (·.At (Spares q)) (enter s slot ⟨kind, role, start, stop, children⟩)
            (·.Sends (Spares q)) := by
        rintro q ⟨c, hc, hq⟩ hcode
        exact (visits_enter (spares_around hm.tidy hc hq hcode)
          (hslot q (.inChild hc hq) hcode)).puts
      obtain ⟨n, q, branch, ⟨c', hc', hn⟩, hbelongs⟩ := settles_walkAll children
        (fun c hc => hm.child hc) hm.tidy.own.ordered
        (fun q hq hcode => ((hputs q hq hcode).marks p).2) _ _ hroom hmore rest offset c behind rfl
      have hcode := code_of_child (hn.tidy (hm.tidy.child hc')) hbelongs.consequence
      have hspares := (hputs q ⟨c', hc', hbelongs.inTree hn⟩ hcode).forall_mem hfront
      exact ⟨n, q, branch, .inChild hc' hn, hbelongs.prepend hspares⟩

/-- Every clause that the walk through some trees leaves is that of an `if` in one of them. -/
theorem settles_walkAll {plan : Plan} : (children : List Node) → (∀ c ∈ children, Formed c) →
    children.Pairwise (fun a b => ∀ d : Node, d.InTree a → d.stop ≤ b.start) →
    (∀ q : Node, (∃ c ∈ children, q.InTree c) → q.isRemark = false → plan.Sends (Spares q)) →
    Settles s (fun n => ∃ c ∈ children, n.InTree c) (walkAll s plan children)
  | [], _, _, _ => by
    intro p marks hroom hmarks before offset c behind hsplit
    rw [walkAll] at hmarks
    have hnil : marks.reverse = [] := List.append_cancel_right hmarks.symm
    rw [hsplit, List.reverse_eq_nil_iff] at hnil
    cases (List.append_eq_nil_iff.1 hnil).2
  | m :: rest, hformed, hordered, hplan => by
    obtain ⟨hm, hrest⟩ := List.forall_mem_cons.1 hformed
    obtain ⟨hbehind, hordered⟩ := List.pairwise_cons.1 hordered
    have hnext : ∀ q : Node, (∃ c ∈ m :: rest, q.InTree c) → q.isRemark = false →
        NextSends (Spares q) (plan.next m) :=
      fun q hq hcode => sends_next hformed hbehind hq (hplan q hq hcode)
    have hsub : ∀ q : Node, (∃ c ∈ rest, q.InTree c) → ∃ c ∈ m :: rest, q.InTree c :=
      fun q ⟨c, hc, hq⟩ => ⟨c, List.mem_cons_of_mem m hc, hq⟩
    rw [walkAll]
    split
    · next slot plan' heq =>
      rw [heq] at hnext
      intro p marks hroom hmarks before offset c behind hsplit
      have hwalkAll := puts_walkAll_anywhere (s := s) plan' rest
      obtain ⟨front, more, rfl, hfront, hmore⟩ := (puts_walk_anywhere slot m).split hwalkAll hmarks
      have hgrows := hwalkAll.grows ((walk s slot m).run p).2
      rcases cons_of_append hsplit with ⟨left, rfl, rfl⟩ | ⟨left, rfl, rfl⟩
      · obtain ⟨n, q, branch, hn, hbelongs⟩ := settles_walk m hm
          (fun q hq hcode => (hnext q ⟨m, List.mem_cons_self, hq⟩ hcode).slot slot rfl) p _
          (hroom.of_extends hgrows.record) hfront before offset c left rfl
        have hq := hbelongs.inTree hn
        have hcode := code_of_child (hn.tidy hm.tidy) hbelongs.consequence
        have hputs := avoids_walkAll (s := s) (fun c hc => (hrest c hc).tidy)
          (fun c hc => hbehind c hc q hq) (hnext q ⟨m, List.mem_cons_self, hq⟩ hcode).plan
        exact ⟨n, q, branch, ⟨m, List.mem_cons_self, hn⟩,
          hbelongs.append hgrows hroom (hputs.forall_mem hmore)⟩
      · obtain ⟨n, q, branch, ⟨c', hc', hn⟩, hbelongs⟩ := settles_walkAll rest hrest hordered
          (fun q hq hcode => (hnext q (hsub q hq) hcode).plan) _ _ hroom hmore left offset c behind
          rfl
        have hc := (hrest c' hc').tidy
        have hq := hbelongs.inTree hn
        have hcode := code_of_child (hn.tidy hc) hbelongs.consequence
        have hputs := spares_walk (s := s) hm.tidy (hq.tidy hc)
          (fun d hd => Nat.le_trans (hbehind c' hc' d hd) (hc.inTree_start_le hq))
          ((hnext q (hsub q ⟨c', hc', hq⟩) hcode).slot slot rfl)
        exact ⟨n, q, branch, hsub n ⟨c', hc', hn⟩, hbelongs.prepend (hputs.forall_mem hfront)⟩
    · next plan' heq =>
      rw [heq] at hnext
      intro p marks hroom hmarks before offset c behind hsplit
      obtain ⟨n, q, branch, hn, hbelongs⟩ := settles_walkAll rest hrest hordered
        (fun q hq hcode => (hnext q (hsub q hq) hcode).plan) p marks hroom hmarks before offset c
        behind hsplit
      exact ⟨n, q, branch, hsub n hn, hbelongs⟩

end

end Marks

/-! ### The edits around a clause -/

/-- Two edits without an edit between them are made one right behind the other. -/
theorem Edit.adjacent {es : List Edit} (hsorted : es.Pairwise Edit.Ahead) {a b : Edit} (ha : a ∈ es)
    (hb : b ∈ es) (hab : a.Ahead b) (hnone : ∀ e ∈ es, a.Ahead e → ¬ e.Ahead b) :
    ∃ before behind, es = before ++ a :: b :: behind := by
  obtain ⟨before, rest, rfl⟩ := List.append_of_mem ha
  have hrest := Bracket.mem_rest_of_ahead hsorted hb hab
  obtain ⟨-, hsorted, -⟩ := List.pairwise_append.1 hsorted
  obtain ⟨hfirst, hsorted⟩ := List.pairwise_cons.1 hsorted
  cases rest with
  | nil => cases hrest
  | cons next behind =>
    rcases List.mem_cons.1 hrest with rfl | hlater
    · exact ⟨before, behind, rfl⟩
    · have hbetween := (List.pairwise_cons.1 hsorted).1 b hlater
      exact absurd hbetween (hnone next (by simp) (hfirst next List.mem_cons_self))

/-- An edit that closes something comes before another one at the same offset if it is of a later
turn. -/
theorem Edit.turn_of_ahead {a b : Edit} (h : a.Ahead b) (hstart : a.start = b.start)
    (hb : b.kind = .closing) : a.kind = .closing ∧ b.turn < a.turn := by
  rw [Edit.ahead_iff, hb] at h
  cases ha : a.kind with
  | closing =>
    simp only [Edit.order, ha, hb, EditKind.rank] at h
    exact ⟨rfl, by omega⟩
  | replacing | opening =>
    simp only [ha, EditKind.rank] at h
    omega

namespace Mark

variable {accessor : String} {turn : Nat} {m : Mark} {marks more : List Mark} {e : Edit}
  {ok : EditKind → Nat → Prop}

/-- An edit of a mark stands at one of its places. -/
theorem mem_places (h : e ∈ m.editsFrom accessor turn) : (e.kind, e.start) ∈ m.places := by
  cases m <;>
    simp only [editsFrom, addTo, Edits.pairUp, Edits.openAt, Edits.closeAt, Edits.add,
      List.nil_append, List.cons_append, List.mem_cons, List.not_mem_nil, or_false] at h
  case count | entry | alternative =>
    subst h
    exact List.mem_singleton_self _
  all_goals rcases h with rfl | rfl <;> simp [places]

theorem at_of_mem (h : e ∈ allEditsFrom accessor turn marks) (hall : ∀ m ∈ marks, m.At ok) :
    ok e.kind e.start := by
  induction marks generalizing turn with
  | nil => cases h
  | cons m rest ih =>
    obtain ⟨hm, hrest⟩ := List.forall_mem_cons.1 hall
    rcases List.mem_append.1 h with h | h
    · exact hm _ (mem_places h)
    · exact ih h hrest

theorem allEditsFrom_append (accessor : String) (turn : Nat) (marks more : List Mark) :
    allEditsFrom accessor turn (marks ++ more) = allEditsFrom accessor turn marks ++
      allEditsFrom accessor (turn + (allEditsFrom accessor turn marks).length) more := by
  induction marks generalizing turn with
  | nil => rfl
  | cons m rest ih =>
    rw [List.cons_append, allEditsFrom, ih, allEditsFrom, List.append_assoc, List.length_append,
      Nat.add_assoc]

theorem bracketsFrom_append (accessor : String) (turn : Nat) (marks more : List Mark) :
    bracketsFrom accessor turn (marks ++ more) = bracketsFrom accessor turn marks ++
      bracketsFrom accessor (turn + (allEditsFrom accessor turn marks).length) more := by
  induction marks generalizing turn with
  | nil => rfl
  | cons m rest ih =>
    rw [List.cons_append, bracketsFrom, ih, bracketsFrom, List.append_assoc, allEditsFrom,
      List.length_append, Nat.add_assoc]

end Mark

section Clause

open Mark (sortedEdits mem_sortedEdits ahead_sortedEdits allEditsFrom brackets)

/-- A clause stands right behind a node: nothing else that goes to the end of the node comes in
front of it. -/
def Follows (es : List Edit) (q : Node) (clause : Edit) : Prop :=
  ∀ e ∈ es, e.start = q.stop → ¬ e.Ahead clause

/-- A node comes out as it stands in the source. -/
def Verbatim (es : List Edit) (q : Node) : Prop :=
  ∀ e ∈ es, ¬ (q.start < e.start ∧ e.start < q.stop)

/-- What comes out in front of a clause is a block, or a statement that admits an `else` behind it.
So the clause belongs to the `if` around it. -/
inductive Attached (accessor : String) (marks : List Mark) (q : Node) (clause : Edit) : Prop where
  /-- The node is a block. -/
  | block (hkind : q.kind = .statementBlock)
      (hfollows : Follows (sortedEdits accessor marks) q clause)
  /-- There is a block around the node, and the clause is put in right behind its brace. -/
  | wrapped (bracket : Bracket) (before behind : List Edit)
      (hbracket : bracket ∈ brackets accessor marks)
      (hopening : bracket.opening.start = q.start ∧ bracket.opening.text = "\x7b")
      (hclosing : bracket.closing.start = q.stop ∧ bracket.closing.text = "\x7d")
      (hedits : sortedEdits accessor marks = before ++ bracket.closing :: clause :: behind)
  /-- The node comes out as it stands, and admits an `else` behind it. -/
  | verbatim (hadmits : q.admitsElse = true) (hverbatim : Verbatim (sortedEdits accessor marks) q)
      (hfollows : Follows (sortedEdits accessor marks) q clause)

variable {accessor : String} {before behind : List Mark} {c : Counter} {q : Node}

/-- The edit of the clause that stands behind some marks. -/
def clauseEdit (accessor : String) (before : List Mark) (q : Node) (c : Counter) : Edit :=
  ⟨q.stop, q.stop, .closing, 1 + (allEditsFrom accessor 1 before).length,
    " else \x7b" ++ c.text accessor ++ ";\x7d"⟩

theorem edits_clause (accessor : String) (before behind : List Mark) (q : Node) (c : Counter) :
    allEditsFrom accessor 1 (before ++ .alternative q.stop c :: behind) =
      allEditsFrom accessor 1 before ++ clauseEdit accessor before q c ::
        allEditsFrom accessor ((clauseEdit accessor before q c).turn + 1) behind := by
  rw [Mark.allEditsFrom_append]
  rfl

/-- An edit that is made at the end of a node in front of a clause there is of a mark behind it. -/
theorem mem_of_ahead {e : Edit}
    (he : e ∈ sortedEdits accessor (before ++ .alternative q.stop c :: behind))
    (hstart : e.start = q.stop) (hahead : e.Ahead (clauseEdit accessor before q c)) :
    e.kind = .closing ∧
      e ∈ allEditsFrom accessor ((clauseEdit accessor before q c).turn + 1) behind := by
  obtain ⟨hkind, hturn⟩ := Edit.turn_of_ahead hahead hstart rfl
  rw [mem_sortedEdits, edits_clause] at he
  have hturns := Mark.turns_allEditsFrom accessor 1 (before ++ .alternative q.stop c :: behind)
  rw [edits_clause] at hturns
  rcases List.mem_append.1 he with he | he
  · have hlt := (List.pairwise_append.1 hturns).2.2 e he _ List.mem_cons_self
    omega
  · rcases List.mem_cons.1 he with rfl | he
    · omega
    · exact ⟨hkind, he⟩

theorem follows_of_frees (accessor : String) (before : List Mark) (c : Counter)
    (h : ∀ m ∈ behind, m.At (Frees q)) :
    Follows (sortedEdits accessor (before ++ .alternative q.stop c :: behind)) q
      (clauseEdit accessor before q c) := by
  intro e he hstart hahead
  obtain ⟨hkind, hmem⟩ := mem_of_ahead he hstart hahead
  exact Mark.at_of_mem hmem h hkind hstart

theorem verbatim_of_spares (accessor : String) (c : Counter)
    (h : ∀ m ∈ before ++ behind, m.At (Spares q)) :
    Verbatim (sortedEdits accessor (before ++ .alternative q.stop c :: behind)) q := by
  intro e he
  rw [mem_sortedEdits] at he
  have hclause : (Mark.alternative q.stop c).At (Spares q) :=
    List.forall_mem_singleton.2 fun hin => Nat.lt_irrefl _ hin.2
  obtain ⟨hbefore, hbehind⟩ := List.forall_mem_append.1 h
  exact Mark.at_of_mem he
    (List.forall_mem_append.2 ⟨hbefore, List.forall_mem_cons.2 ⟨hclause, hbehind⟩⟩)

/-- The bracket of a block around a node, where the marks between the clause and the block are
`middle`. -/
def blockBracket (accessor : String) (before : List Mark) (q : Node) (c : Counter)
    (middle : List Mark) : Bracket :=
  let first := (clauseEdit accessor before q c).turn + 1
  let turn := first + (allEditsFrom accessor first middle).length
  ⟨⟨q.start, q.start, .opening, turn, "\x7b"⟩, ⟨q.stop, q.stop, .closing, turn + 1, "\x7d"⟩⟩

section Block

variable {middle rest : List Mark}

theorem edits_block (accessor : String) (before middle rest : List Mark) (q : Node) (c : Counter) :
    let b := blockBracket accessor before q c middle
    allEditsFrom accessor ((clauseEdit accessor before q c).turn + 1)
        (middle ++ .block q.start q.stop :: rest) =
      allEditsFrom accessor ((clauseEdit accessor before q c).turn + 1) middle ++
        b.opening :: b.closing :: allEditsFrom accessor (b.closing.turn + 1) rest := by
  rw [Mark.allEditsFrom_append]
  rfl

theorem mem_brackets_block (accessor : String) (before middle rest : List Mark) (q : Node)
    (c : Counter) : blockBracket accessor before q c middle ∈ brackets accessor
      (before ++ .alternative q.stop c :: (middle ++ .block q.start q.stop :: rest)) := by
  have hmem : blockBracket accessor before q c middle ∈ Mark.bracketsFrom accessor
      ((clauseEdit accessor before q c).turn + 1) (middle ++ .block q.start q.stop :: rest) := by
    rw [Mark.bracketsFrom_append]
    exact List.mem_append_right _ List.mem_cons_self
  rw [brackets, Mark.bracketsFrom_append]
  exact List.mem_append_right _ hmem

theorem ahead_block (accessor : String) (before middle : List Mark) (q : Node) (c : Counter) :
    (blockBracket accessor before q c middle).closing.Ahead (clauseEdit accessor before q c) := by
  rw [Edit.ahead_iff]
  refine .inr ⟨rfl, .inr ⟨rfl, ?_⟩⟩
  simp only [Edit.order, blockBracket, clauseEdit]
  omega

/-- What the marks between a clause and a block close is closed elsewhere, so nothing comes out
between the brace of the block and the clause. -/
theorem not_between_block (hmiddle : ∀ m ∈ middle, m.At (Frees q)) {e : Edit}
    (he : e ∈ sortedEdits accessor
      (before ++ .alternative q.stop c :: (middle ++ .block q.start q.stop :: rest)))
    (hfirst : (blockBracket accessor before q c middle).closing.Ahead e) :
    ¬ e.Ahead (clauseEdit accessor before q c) := by
  intro hsecond
  have hstart : e.start = q.stop := by
    rw [Edit.ahead_iff] at hfirst hsecond
    simp only [blockBracket, clauseEdit] at hfirst hsecond
    omega
  obtain ⟨hkind, hmem⟩ := mem_of_ahead he hstart hsecond
  have hturn := (Edit.turn_of_ahead hfirst hstart.symm hkind).2
  have hturns := Mark.turns_allEditsFrom accessor ((clauseEdit accessor before q c).turn + 1)
    (middle ++ .block q.start q.stop :: rest)
  rw [edits_block] at hmem hturns
  obtain ⟨-, hturns, -⟩ := List.pairwise_append.1 hturns
  obtain ⟨-, hturns⟩ := List.pairwise_cons.1 hturns
  rw [List.mem_append, List.mem_cons, List.mem_cons] at hmem
  rcases hmem with hmem | rfl | rfl | hmem
  · exact Mark.at_of_mem hmem hmiddle hkind hstart
  · cases hkind
  · omega
  · have := (List.pairwise_cons.1 hturns).1 e hmem
    omega

theorem attached_of_block (accessor : String) (before rest : List Mark) (c : Counter)
    (hmiddle : ∀ m ∈ middle, m.At (Frees q)) :
    Attached accessor (before ++ .alternative q.stop c :: (middle ++ .block q.start q.stop :: rest))
      q (clauseEdit accessor before q c) := by
  have hedits := edits_clause accessor before (middle ++ .block q.start q.stop :: rest) q c
  rw [edits_block] at hedits
  have hclosing : (blockBracket accessor before q c middle).closing ∈ sortedEdits accessor
      (before ++ .alternative q.stop c :: (middle ++ .block q.start q.stop :: rest)) := by
    rw [mem_sortedEdits, hedits]
    simp
  have hclause : clauseEdit accessor before q c ∈ sortedEdits accessor
      (before ++ .alternative q.stop c :: (middle ++ .block q.start q.stop :: rest)) := by
    rw [mem_sortedEdits, hedits]
    simp
  obtain ⟨front, more, hsorted⟩ := Edit.adjacent (ahead_sortedEdits accessor _) hclosing hclause
    (ahead_block accessor before middle q c) fun e he hfirst => not_between_block hmiddle he hfirst
  exact .wrapped _ front more (mem_brackets_block accessor before middle rest q c) ⟨rfl, rfl⟩
    ⟨rfl, rfl⟩ hsorted

end Block

end Clause

/-! ### The whole program -/

/-- Every clause that a program gets counts the second outcome of the branch of an `if` without an
alternative. It belongs to that `if`: what comes out in front of it is a block, or comes out as it
stands in the source and admits an `else` behind it. The exception is what an `if` does where a hint
leaves that out. It comes out as it stands too, whether it admits an `else` or not: if it ends in an
`if` that is open, the clause belongs to that one. -/
theorem clauses_walkProgram {program : Node} (h : TidyProgram program) (hregular : Regular program)
    (hbraced : ∀ d : Node, d.InTree program → Braced d) (s : Setting) (path accessor : String)
    (hroom : (walkProgram s path program).1.record.HasRoom) {before behind : List Mark}
    {offset : Nat} {c : Counter}
    (hmarks : (walkProgram s path program).2 = before ++ .alternative offset c :: behind) :
    ∃ n q branch, n.InTree program ∧ LacksElse s n ∧ n.child? .consequence = some q ∧
      c = .outcome branch 1 ∧ (walkProgram s path program).1.freeze.HasIf branch (s.range n) ∧
      ∃ clause ∈ Mark.sortedEdits accessor (walkProgram s path program).2,
        clause.start = q.stop ∧ clause.text = " else \x7b" ++ c.text accessor ++ ";\x7d" ∧
        (Attached accessor (walkProgram s path program).2 q clause ∨
          s.hint n = some .ifArm ∧ q.admitsElse = false ∧
            Verbatim (Mark.sortedEdits accessor (walkProgram s path program).2) q ∧
            Follows (Mark.sortedEdits accessor (walkProgram s path program).2) q clause) := by
  have hformed : ∀ d ∈ program.children, Formed d := by
    intro d hd
    refine ⟨h.tidy d hd, ?_, fun e he => hbraced e (.inChild hd he)⟩
    cases hregular with
    | node _ _ children => exact children d hd
  have hsettles : Settles s (fun n => ∃ d ∈ program.children, n.InTree d)
      (walkAll s (.statements true) program.children) :=
    settles_walkAll program.children hformed h.ordered fun _ _ _ => trivial
  have hrun : ((walkAll s (.statements true) program.children).run ⟨.empty path, []⟩).2.marks =
      (walkProgram s path program).2.reverse ++ [] := by
    rw [List.append_nil]
    exact (List.reverse_reverse _).symm
  obtain ⟨n, q, branch, ⟨d, hd, hn⟩, hlacks, hq, rfl, hc, hrecorded, hspared, hblock, hwrapped⟩ :=
    hsettles _ _ hroom hrun before offset c behind hmarks
  refine ⟨n, q, branch, .inChild hd hn, hlacks, hq, hc, Skeleton.hasIf_freeze hrecorded,
    clauseEdit accessor before q c, ?_, rfl, rfl, ?_⟩
  · rw [hmarks, Mark.mem_sortedEdits, edits_clause]
    simp
  rw [hmarks]
  by_cases hhint : s.hint n = some .ifArm
  · obtain ⟨hspares, hfrees⟩ := hspared hhint
    have hverbatim := verbatim_of_spares accessor c hspares
    have hfollows := follows_of_frees accessor before c hfrees
    cases hadmits : q.admitsElse with
    | true => exact .inl (.verbatim hadmits hverbatim hfollows)
    | false => exact .inr ⟨hhint, rfl, hverbatim, hfollows⟩
  · left
    by_cases hkind : q.kind = .statementBlock
    · exact .block hkind (follows_of_frees accessor before c (hblock hhint hkind))
    · obtain ⟨middle, rest, rfl, hmiddle⟩ := hwrapped hhint hkind
      exact attached_of_block accessor before rest c hmiddle

/-- `(a)` at an offset, as a condition. -/
def conditionAt (start : Nat) : Node :=
  ⟨.parenthesizedExpression, some .condition, start, start + 3,
    [.leaf (.token "(") start (start + 1), .leaf .identifier (start + 1) (start + 2),
      .leaf (.token ")") (start + 2) (start + 3)]⟩

/-- `c;`, the statement of `if (b) c;`. -/
def innerStatement : Node :=
  ⟨.expressionStatement, some .consequence, 39, 41,
    [.leaf .identifier 39 40, .leaf (.token ";") 40 41]⟩

/-- `if (b) c;`, the statement of `if (a) if (b) c;`. -/
def innerIf : Node :=
  ⟨.ifStatement, some .consequence, 32, 41,
    [.leaf (.token "if") 32 34, conditionAt 35, innerStatement]⟩

def outerIf : Node :=
  ⟨.ifStatement, none, 25, 41, [.leaf (.token "if") 25 27, conditionAt 28, innerIf]⟩

def nestedIfs : Node := ⟨.program, none, 0, 41, [.leaf .comment 0 24, outerIf]⟩

def nestedSource : List Char := "/* istanbul ignore if */ if (a) if (b) c;".toList

/-- The walk heeds the comment. -/
def heedingSetting : Setting :=
  let comments := commentsOf nestedSource [.leaf .comment 0 24]
  ⟨nestedSource, hintBefore nestedSource comments.reverse, []⟩

/-- The walk knows of no hints. -/
def plainSetting : Setting := ⟨nestedSource, fun _ => none, []⟩

theorem tidy_nestedIfs : TidyProgram nestedIfs := by
  have hcondition : ∀ start, (conditionAt start).Tidy := by
    intro start
    refine .node _ ?_ ?_
    · constructor <;>
        simp [conditionAt, Node.leaf, Node.isRemark, Node.isComment, Node.inTree_mk]
    · simp [conditionAt, Node.leaf, Node.tidy_leaf]
  have hstatement : innerStatement.Tidy := by
    refine .node _ ?_ ?_
    · constructor <;>
        simp [innerStatement, Node.leaf, Node.isRemark, Node.isComment, Node.inTree_mk]
    · simp [innerStatement, Node.leaf, Node.tidy_leaf]
  have hinner : innerIf.Tidy := by
    refine .node _ ?_ ?_
    · constructor <;>
        simp [innerIf, innerStatement, conditionAt, Node.leaf, Node.isRemark, Node.isComment,
          Node.inTree_mk]
    · simp [innerIf, hcondition, hstatement, Node.leaf, Node.tidy_leaf]
  have houter : outerIf.Tidy := by
    refine .node _ ?_ ?_
    · constructor <;>
        simp [outerIf, innerIf, innerStatement, conditionAt, Node.leaf, Node.isRemark,
          Node.isComment, Node.inTree_mk]
    · simp [outerIf, hcondition, hinner, Node.leaf, Node.tidy_leaf]
  constructor
  · simp [nestedIfs, houter, Node.leaf, Node.tidy_leaf]
  · simp [nestedIfs, outerIf, Node.leaf, Node.inTree_mk]
  · simp [nestedIfs, outerIf, Node.leaf, Node.isRemark, Node.isComment]

theorem regular_nestedIfs : Regular nestedIfs := by
  have hother : ∀ n : Node, n.kind ≠ .ifStatement → n.kind ≠ .switchCase →
      n.kind ≠ .switchDefault → n.child? .body = none → n.child? .alternative = none →
      (∀ c ∈ n.children, Regular c) → Regular n := by
    intro n hif hcase hdefault hbody halternative hchildren
    refine .node n ⟨?_, fun h => absurd h hif, ?_, ?_⟩ hchildren
    · simp [hbody]
    · simp [halternative]
    · rintro (h | h)
      · exact absurd h hcase
      · exact absurd h hdefault
  have hleaf : ∀ kind start stop, kind ≠ .ifStatement → kind ≠ .switchCase →
      kind ≠ .switchDefault → Regular (.leaf kind start stop) := by
    intro kind start stop hif hcase hdefault
    exact hother _ hif hcase hdefault rfl rfl nofun
  have hcondition : ∀ start, Regular (conditionAt start) := by
    intro start
    refine hother _ nofun nofun nofun rfl rfl ?_
    simp [conditionAt, hleaf]
  have hstatement : Regular innerStatement := by
    refine hother _ nofun nofun nofun rfl rfl ?_
    simp [innerStatement, hleaf]
  have hinner : Regular innerIf := by
    refine .node _ ⟨nofun, fun _ => ⟨innerStatement, rfl, rfl⟩, nofun, ?_⟩ ?_
    · rintro (h | h) <;> cases h
    · simp [innerIf, hcondition, hstatement, hleaf]
  have houter : Regular outerIf := by
    refine .node _ ⟨nofun, fun _ => ⟨innerIf, rfl, rfl⟩, nofun, ?_⟩ ?_
    · rintro (h | h) <;> cases h
    · simp [outerIf, hcondition, hinner, hleaf]
  refine hother _ nofun nofun nofun rfl rfl ?_
  simp [nestedIfs, houter, hleaf]

theorem braced_nestedIfs : ∀ d : Node, d.InTree nestedIfs → Braced d := by
  intro d hd hkind
  simp only [nestedIfs, outerIf, innerIf, innerStatement, conditionAt, Node.leaf, Node.inTree_mk,
    List.mem_cons, List.not_mem_nil, or_false, exists_eq_or_imp, exists_eq_left, false_and,
    exists_false] at hd
  rcases hd with rfl | rfl | rfl | rfl | (rfl | rfl | rfl | rfl) | rfl | rfl |
    (rfl | rfl | rfl | rfl) | rfl | rfl | rfl <;> cases hkind

/-- Without hints the clause of the outer `if` goes behind a block. -/
theorem clauses_walkProgram_nestedIfs :
    TidyProgram nestedIfs ∧ Regular nestedIfs ∧ (∀ d : Node, d.InTree nestedIfs → Braced d) ∧
      (walkProgram plainSetting "/a.js" nestedIfs).1.record.HasRoom ∧
      (∃ behind, (walkProgram plainSetting "/a.js" nestedIfs).2 =
        [.count 25 (.statement 0)] ++ .alternative 41 (.outcome 0 1) :: behind) ∧
      ∃ (n q : Node) (clause : Edit), n.InTree nestedIfs ∧ n.child? .consequence = some q ∧
        clause.text = " else \x7b" ++ (Counter.outcome 0 1).text "c" ++ ";\x7d" ∧
        Attached "c" (walkProgram plainSetting "/a.js" nestedIfs).2 q clause := by
  have hroom : (walkProgram plainSetting "/a.js" nestedIfs).1.record.HasRoom := by
    constructor <;> unfold Table.HasRoom <;> decide +kernel
  have hmarks : ∃ behind, (walkProgram plainSetting "/a.js" nestedIfs).2 =
      [.count 25 (.statement 0)] ++ .alternative 41 (.outcome 0 1) :: behind :=
    ⟨(walkProgram plainSetting "/a.js" nestedIfs).2.drop 2, by decide +kernel⟩
  refine ⟨tidy_nestedIfs, regular_nestedIfs, braced_nestedIfs, hroom, hmarks, ?_⟩
  obtain ⟨behind, hmarks⟩ := hmarks
  obtain ⟨n, q, _, hn, _, hq, _, _, clause, _, _, htext, hattached⟩ :=
    clauses_walkProgram tidy_nestedIfs regular_nestedIfs braced_nestedIfs plainSetting "/a.js" "c"
      hroom hmarks
  refine ⟨n, q, clause, hn, hq, htext, hattached.resolve_right fun hhint => ?_⟩
  have hnone : plainSetting.hint n = none := rfl
  rw [hnone] at hhint
  cases hhint.1

/-- With the hint the clause goes right behind the inner `if`, which is open. -/
example : (walkProgram heedingSetting "/a.js" nestedIfs).2 =
      [.count 25 (.statement 0), .alternative 41 (.outcome 0 1)] ∧
    heedingSetting.hint outerIf = some .ifArm ∧ innerIf.admitsElse = false := by
  decide +kernel

end Instrument

end Coverage
