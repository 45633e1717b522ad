import Coverage.Proofs.Instrument.Ignored
import Mathlib.Data.List.Induction

/-!
# The comments in front of a node

In front of a node there may be several comments with nothing but gaps behind each of them. They
are a run that cannot go on any further (`IsRun`). The search for a hint goes through this run from
the node back, up to the first comment with a hint, but only as far as the comments do not end with
a gap (`hintBefore_of_isRun`). So the nearest hint of the run is the one that counts, unless it is
hidden by such a comment (`hint_nearest`). A comment with a closing mark never ends with a gap.
-/

namespace Coverage.Instrument

open Coverage.Script (Node)

/-- Where some comments in front of an offset start, given from the nearest to the farthest. -/
def runStart (offset : Nat) : List Comment → Nat
  | [] => offset
  | c :: earlier => runStart c.start earlier

/-- There are only gaps behind each of some comments, given from the nearest to the farthest. -/
def Adjoins (src : List Char) (offset : Nat) : List Comment → Prop
  | [] => True
  | c :: earlier => OnlyGaps src c.stop offset ∧ Adjoins src c.start earlier

/-- Some comments of a text, given from the nearest to the farthest, are all those that stand
directly in front of an offset. -/
structure IsRun (src : List Char) (comments : List Comment) (offset : Nat) (run : List Comment) :
    Prop where
  adjoins : Adjoins src offset run
  /-- The comments that are not in the run end behind the offset, or there is more than gaps behind
  them. -/
  maximal : ∃ before behind, comments = before ++ (run.reverse ++ behind) ∧
    (∀ d ∈ behind, offset < d.stop) ∧
    ∀ c ∈ before.getLast?, c.stop ≤ runStart offset run ∧
      ¬ OnlyGaps src c.stop (runStart offset run)

/-- Comments stand one behind the other. -/
def InOrder (comments : List Comment) : Prop :=
  (∀ c ∈ comments, c.start ≤ c.stop) ∧ comments.Pairwise fun a b => a.stop ≤ b.start

/-- The hint that is seen from behind a run. -/
def seenHint? (run : List Comment) : Option Hint :=
  (run.takeWhile fun c => !c.endsInGap).findSome? (·.hint)

variable {src : List Char} {comments run : List Comment} {offset : Nat} {hint : Hint}

/-! ### The search -/

theorem takeBytes_of_startsInGaps (cs : List Char) (n : Nat) (h : startsInGaps n cs = true) :
    ∀ c ∈ Text.takeBytes n cs, isGap c = true := by
  induction cs generalizing n with
  | nil => cases n <;> exact nofun
  | cons c cs ih =>
    cases n with
    | zero => exact nofun
    | succ n =>
      rw [startsInGaps, Bool.and_eq_true] at h
      obtain ⟨hc, hrest⟩ := h
      rw [Text.takeBytes, utf8Size_of_isGap hc, Nat.add_sub_cancel, List.forall_mem_cons]
      exact ⟨hc, ih n hrest⟩

/-- The search does not go beyond a comment with more than gaps behind it. -/
theorem hintBefore_of_not_onlyGaps {c : Comment} (earlier : List Comment) (hle : c.stop ≤ offset)
    (h : ¬ OnlyGaps src c.stop offset) : hintBefore src (c :: earlier) offset = none := by
  have hgaps : startsInGaps (offset - c.stop) (Text.dropBytes c.stop src) = false := by
    rw [Bool.eq_false_iff]
    intro hstarts
    exact h ⟨hle, takeBytes_of_startsInGaps _ _ hstarts⟩
  rw [hintBefore, if_neg (Nat.not_lt_of_le hle), hgaps]
  simp

/-- The search does not go beyond a comment that ends with a gap. -/
theorem hintBefore_of_endsInGap {c : Comment} (earlier : List Comment) (hle : c.stop ≤ offset)
    (h : c.endsInGap = true) : hintBefore src (c :: earlier) offset = none := by
  rw [hintBefore, if_neg (Nat.not_lt_of_le hle), h]
  rfl

theorem seenHint?_cons (c : Comment) (earlier : List Comment) :
    seenHint? (c :: earlier) =
      if c.endsInGap = true then none else c.hint.or (seenHint? earlier) := by
  rw [seenHint?, List.takeWhile_cons]
  cases c.endsInGap with
  | true => rfl
  | false => cases hhint : c.hint <;> simp [seenHint?, hhint]

/-- The search finds what is seen from behind comments that adjoin an offset, if there is nothing to
be found before them. -/
theorem hintBefore_of_adjoins {earlier : List Comment} (h : Adjoins src offset run)
    (hend : hintBefore src earlier (runStart offset run) = none) :
    hintBefore src (run ++ earlier) offset = seenHint? run := by
  induction run generalizing offset with
  | nil => exact hend
  | cons c rest ih =>
    obtain ⟨hgaps, hrest⟩ := h
    rw [List.cons_append, seenHint?_cons]
    split
    · next hgap => exact hintBefore_of_endsInGap _ hgaps.1 hgap
    · next hopen =>
      rw [hintBefore_cons _ hgaps (Bool.eq_false_iff.2 hopen), ih hrest hend]

/-- The search finds what is seen from behind the run. -/
theorem hintBefore_of_isRun (h : IsRun src comments offset run) :
    hintBefore src comments.reverse offset = seenHint? run := by
  obtain ⟨before, behind, rfl, hbehind, hbefore⟩ := h.maximal
  have hreverse : (before ++ (run.reverse ++ behind)).reverse =
      behind.reverse ++ (run ++ before.reverse) := by simp
  rw [hreverse, hintBefore_append _ fun d hd => hbehind d (List.mem_reverse.1 hd)]
  apply hintBefore_of_adjoins h.adjoins
  cases hlast : before.reverse with
  | nil => rfl
  | cons c earlier =>
    obtain ⟨hle, hmore⟩ := hbefore c (by rw [List.getLast?_eq_head?_reverse, hlast]; rfl)
    exact hintBefore_of_not_onlyGaps earlier hle hmore

/-! ### The run -/

theorem InOrder.left {before behind : List Comment} (h : InOrder (before ++ behind)) :
    InOrder before :=
  ⟨fun c hc => h.1 c (List.mem_append_left _ hc), (List.pairwise_append.1 h.2).1⟩

theorem exists_isRun (src : List Char) (h : InOrder comments) (offset : Nat) :
    ∃ run, IsRun src comments offset run := by
  induction comments using List.reverseRecOn generalizing offset with
  | nil => exact ⟨[], trivial, [], [], rfl, nofun, nofun⟩
  | append_singleton earlier c ih =>
    by_cases hbehind : offset < c.stop
    · obtain ⟨run, hrun, before, behind, rfl, hall, hmore⟩ := ih h.left offset
      refine ⟨run, hrun, before, behind ++ [c], by simp, ?_, hmore⟩
      intro d hd
      rcases List.mem_append.1 hd with hd | hd
      · exact hall d hd
      · rwa [List.mem_singleton.1 hd]
    · by_cases hgaps : OnlyGaps src c.stop offset
      · obtain ⟨run, hrun, before, behind, rfl, hall, hmore⟩ := ih h.left c.start
        -- No comment of those before `c` ends behind the start of `c`.
        have hnone : behind = [] := by
          rw [List.eq_nil_iff_forall_not_mem]
          intro d hd
          have hstop := (List.pairwise_append.1 h.2).2.2 d (by simp [hd]) c List.mem_cons_self
          exact absurd (hall d hd) (Nat.not_lt_of_le hstop)
        subst hnone
        exact ⟨c :: run, ⟨hgaps, hrun⟩, before, [], by simp, nofun, hmore⟩
      · refine ⟨[], trivial, earlier ++ [c], [], by simp, nofun, ?_⟩
        intro d hd
        obtain rfl : c = d := by simpa using hd
        exact ⟨Nat.le_of_not_lt hbehind, hgaps⟩

/-! ### What is seen of a run -/

theorem seenHint?_eq_some_iff :
    seenHint? run = some hint ↔ ∃ nearer c farther, run = nearer ++ c :: farther ∧
      c.hint = some hint ∧ (∀ d ∈ nearer, d.hint = none) ∧
      ∀ d ∈ nearer ++ [c], d.endsInGap = false := by
  induction run with
  | nil => simp [seenHint?]
  | cons c rest ih =>
    rw [seenHint?_cons]
    constructor
    · split
      · exact nofun
      · next hopen =>
        rw [Bool.not_eq_true] at hopen
        intro h
        rcases Option.or_eq_some_iff.1 h with hc | ⟨hc, hrest⟩
        · exact ⟨[], c, rest, rfl, hc, nofun, by simpa using hopen⟩
        · obtain ⟨nearer, d, farther, rfl, hd, hnearer, hopens⟩ := ih.1 hrest
          exact ⟨c :: nearer, d, farther, rfl, hd, List.forall_mem_cons.2 ⟨hc, hnearer⟩,
            List.forall_mem_cons.2 ⟨hopen, hopens⟩⟩
    · rintro ⟨nearer, d, farther, heq, hd, hnearer, hopens⟩
      rcases nearer with _ | ⟨e, nearer⟩ <;> obtain ⟨rfl, hrest⟩ := List.cons.inj heq
      · rw [if_neg (by simp [hopens c (by simp)]), hd, Option.some_or]
      · obtain ⟨hc, hnearer⟩ := List.forall_mem_cons.1 hnearer
        obtain ⟨hopen, hopens⟩ := List.forall_mem_cons.1 hopens
        rw [if_neg (by simp [hopen]), hc, Option.none_or]
        exact ih.2 ⟨nearer, d, farther, hrest, hd, hnearer, hopens⟩

theorem seenHint?_eq_none_iff :
    seenHint? run = none ↔ ∀ nearer c farther, run = nearer ++ c :: farther → c.hint ≠ none →
      ∃ d ∈ nearer ++ [c], d.endsInGap = true := by
  induction run with
  | nil => simp [seenHint?]
  | cons c rest ih =>
    rw [seenHint?_cons]
    constructor
    · intro h nearer d farther heq hd
      rcases nearer with _ | ⟨e, nearer⟩ <;> obtain ⟨rfl, hrest⟩ := List.cons.inj heq
      · refine ⟨c, by simp, ?_⟩
        by_contra hopen
        rw [if_neg hopen, Option.or_eq_none_iff] at h
        exact hd h.1
      · by_cases hgap : c.endsInGap = true
        · exact ⟨c, by simp, hgap⟩
        · rw [if_neg hgap, Option.or_eq_none_iff] at h
          obtain ⟨e, he, hgap⟩ := ih.1 h.2 nearer d farther hrest hd
          exact ⟨e, List.mem_cons_of_mem _ he, hgap⟩
    · intro h
      split
      · rfl
      · next hopen =>
        rw [Option.or_eq_none_iff]
        constructor
        · by_contra hc
          obtain ⟨d, hd, hgap⟩ := h [] c rest rfl hc
          obtain rfl := List.mem_singleton.1 hd
          exact hopen hgap
        · apply ih.2
          rintro nearer d farther rfl hd
          obtain ⟨e, he, hgap⟩ := h (c :: nearer) d farther rfl hd
          rcases List.mem_cons.1 he with rfl | he
          · exact absurd hgap hopen
          · exact ⟨e, he, hgap⟩

/-! ### The comments of a tree -/

/-- A comment that is closed by a mark of its own does not end with a gap. -/
theorem endsInGap_ofNode_of_closed {n : Node} {text : List Char}
    (h : n.text src = text ++ ['*', '/']) : (Comment.ofNode src n).endsInGap = false := by
  rw [Comment.ofNode, h, List.getLast?_append]
  rfl

mutual

theorem commentsBefore_append : (n : Node) → (behind : List Node) →
    n.commentsBefore behind = n.commentsBefore [] ++ behind
  | ⟨kind, role, start, stop, children⟩, behind => by
    rw [Node.commentsBefore, Node.commentsBefore]
    split
    · rfl
    · exact commentsInBefore_append children behind

theorem commentsInBefore_append : (nodes behind : List Node) →
    Node.commentsInBefore nodes behind = Node.commentsInBefore nodes [] ++ behind
  | [], behind => rfl
  | n :: rest, behind => by
    rw [Node.commentsInBefore, Node.commentsInBefore, commentsBefore_append n,
      commentsInBefore_append rest, commentsBefore_append n (Node.commentsInBefore rest []),
      List.append_assoc]

end

theorem commentsInBefore_cons (n : Node) (rest : List Node) :
    Node.commentsInBefore (n :: rest) [] =
      n.commentsBefore [] ++ Node.commentsInBefore rest [] := by
  rw [Node.commentsInBefore, commentsBefore_append]

mutual

/-- The comments of a tree stand in it. -/
theorem inTree_of_mem_commentsBefore {d : Node} : (n : Node) → d ∈ n.commentsBefore [] →
    d.InTree n
  | ⟨kind, role, start, stop, children⟩, hd => by
    rw [Node.commentsBefore] at hd
    split at hd
    · rw [List.mem_singleton.1 hd]
      exact .self
    · obtain ⟨c, hc, hin⟩ := inTree_of_mem_commentsInBefore children hd
      exact .inChild hc hin

theorem inTree_of_mem_commentsInBefore {d : Node} : (nodes : List Node) →
    d ∈ Node.commentsInBefore nodes [] → ∃ c ∈ nodes, d.InTree c
  | n :: rest, hd => by
    rw [commentsInBefore_cons] at hd
    rcases List.mem_append.1 hd with hd | hd
    · exact ⟨n, List.mem_cons_self, inTree_of_mem_commentsBefore n hd⟩
    · obtain ⟨c, hc, hin⟩ := inTree_of_mem_commentsInBefore rest hd
      exact ⟨c, List.mem_cons_of_mem _ hc, hin⟩

end

mutual

theorem pairwise_commentsBefore : (n : Node) → n.Nested src →
    (n.commentsBefore []).Pairwise fun a b => a.stop ≤ b.start
  | ⟨kind, role, start, stop, children⟩, h => by
    rw [Node.commentsBefore]
    split
    · exact List.pairwise_singleton _ _
    · exact pairwise_commentsInBefore children (fun c hc => h.child hc) h.own.ordered

/-- The comments of trees that stand one behind the other do so as well. -/
theorem pairwise_commentsInBefore : (nodes : List Node) → (∀ c ∈ nodes, c.Nested src) →
    nodes.Pairwise (fun a b => ∀ d : Node, d.InTree a → d.stop ≤ b.start) →
    (Node.commentsInBefore nodes []).Pairwise fun a b => a.stop ≤ b.start
  | [], _, _ => .nil
  | n :: rest, h, hordered => by
    obtain ⟨hn, hrest⟩ := List.forall_mem_cons.1 h
    obtain ⟨hfirst, hordered⟩ := List.pairwise_cons.1 hordered
    rw [commentsInBefore_cons, List.pairwise_append]
    refine ⟨pairwise_commentsBefore n hn, pairwise_commentsInBefore rest hrest hordered, ?_⟩
    intro d hd e he
    obtain ⟨c, hc, hin⟩ := inTree_of_mem_commentsInBefore rest he
    calc d.stop
      _ ≤ c.start := hfirst c hc d (inTree_of_mem_commentsBefore n hd)
      _ ≤ e.start := hin.start_le (hrest c hc)

end

/-- The comments of a program whose parts lie in each other are in order. -/
theorem NestedProgram.inOrder {program : Node} (h : NestedProgram src program)
    (hkind : program.isComment = false) :
    InOrder (commentsOf src (program.commentsBefore [])) := by
  obtain ⟨kind, role, start, stop, children⟩ := program
  have hcomments : Node.commentsBefore ⟨kind, role, start, stop, children⟩ [] =
      Node.commentsInBefore children [] := by
    rw [Node.commentsBefore, if_neg (by simpa [Node.isComment] using hkind)]
  rw [hcomments, commentsOf]
  constructor
  · intro c hc
    obtain ⟨n, hn, rfl⟩ := List.mem_map.1 hc
    obtain ⟨m, hm, hin⟩ := inTree_of_mem_commentsInBefore children (List.mem_of_mem_filter hn)
    exact Nat.le_of_lt (hin.nested (h.nested m hm)).own.proper
  · rw [List.pairwise_map]
    exact (pairwise_commentsInBefore children h.nested h.ordered).filter _

/-- The hint in front of a node, wherever it stands, is that of the nearest comment with a hint of
the run in front of the node, unless this comment or one behind it ends with a gap. -/
theorem hint_nearest {program : Node} (methods : List String) (n : Node)
    (h : InOrder (commentsOf src (program.commentsBefore []))) :
    let comments := commentsOf src (program.commentsBefore [])
    let s : Setting := ⟨src, hintBefore src comments.reverse, methods⟩
    (∃ run, IsRun src comments n.start run) ∧ ∀ run, IsRun src comments n.start run →
      (∀ hint, s.hint n = some hint ↔ ∃ nearer c farther, run = nearer ++ c :: farther ∧
        c.hint = some hint ∧ (∀ d ∈ nearer, d.hint = none) ∧
        ∀ d ∈ nearer ++ [c], d.endsInGap = false) ∧
      (s.hint n = none ↔ ∀ nearer c farther, run = nearer ++ c :: farther → c.hint ≠ none →
        ∃ d ∈ nearer ++ [c], d.endsInGap = true) := by
  intro comments s
  refine ⟨exists_isRun src h n.start, fun run hrun => ?_⟩
  have hseen : s.hint n = seenHint? run := hintBefore_of_isRun hrun
  rw [hseen]
  exact ⟨fun hint => seenHint?_eq_some_iff, seenHint?_eq_none_iff⟩

/-- A program whose first hint ends with a blank, while a comment without a hint stands behind the
second one. -/
def hiddenHint : List Char :=
  "// istanbul ignore next \nf();\n/* istanbul ignore if */ // g\nif (a) b;".toList

def hiddenHintCall : Node :=
  ⟨.expressionStatement, none, 25, 29, [.leaf .callExpression 25 28, .leaf (.token ";") 28 29]⟩

def hiddenHintIf : Node :=
  ⟨.ifStatement, none, 60, 69, [.leaf (.token "if") 60 62,
    (Node.leaf .parenthesizedExpression 63 66).as .condition,
    (Node.leaf .expressionStatement 67 69).as .consequence]⟩

def hiddenHintTree : Node :=
  ⟨.program, none, 25, 69, [.leaf .comment 0 24, hiddenHintCall, .leaf .comment 30 54,
    .leaf .comment 55 59, hiddenHintIf]⟩

/-- The hint in front of the call is hidden, although it is the nearest one. -/
theorem hint_nearest_hiddenHint :
    let comments := commentsOf hiddenHint (hiddenHintTree.commentsBefore [])
    let s : Setting := ⟨hiddenHint, hintBefore hiddenHint comments.reverse, []⟩
    (∃ c, IsRun hiddenHint comments hiddenHintCall.start [c] ∧ c.hint = some .next ∧
      s.hint hiddenHintCall = none) ∧
    ∃ c d, IsRun hiddenHint comments hiddenHintIf.start [c, d] ∧ c.hint = none ∧
      d.hint = some .ifArm ∧ s.hint hiddenHintIf = some .ifArm := by
  have horder : InOrder (commentsOf hiddenHint (hiddenHintTree.commentsBefore [])) := by
    constructor <;> decide
  have hcall : IsRun hiddenHint (commentsOf hiddenHint (hiddenHintTree.commentsBefore [])) 25
      [Comment.ofNode hiddenHint (.leaf .comment 0 24)] := by
    refine ⟨⟨onlyGaps_of_all (by decide) (by decide), trivial⟩, [], _, rfl, by decide, nofun⟩
  have hif : IsRun hiddenHint (commentsOf hiddenHint (hiddenHintTree.commentsBefore [])) 60
      [Comment.ofNode hiddenHint (.leaf .comment 55 59),
        Comment.ofNode hiddenHint (.leaf .comment 30 54)] := by
    refine ⟨⟨onlyGaps_of_all (by decide) (by decide), onlyGaps_of_all (by decide) (by decide),
      trivial⟩, [_], [], rfl, nofun, ?_⟩
    rintro c ⟨⟩
    refine ⟨by decide, ?_⟩
    rintro ⟨-, hgaps⟩
    exact absurd (hgaps 'f' (by decide)) (by decide)
  refine ⟨⟨_, hcall, by decide, ?_⟩, _, _, hif, by decide, by decide, ?_⟩
  · refine (((hint_nearest [] hiddenHintCall horder).2 _ hcall).2).2 ?_
    rintro nearer c farther heq -
    obtain ⟨rfl, rfl, rfl⟩ : nearer = [] ∧ c = _ ∧ farther = [] := by
      simpa [List.append_eq_cons_iff, eq_comm] using heq
    exact ⟨_, List.mem_singleton.2 rfl, by decide⟩
  · refine (((hint_nearest [] hiddenHintIf horder).2 _ hif).1 .ifArm).2 ?_
    exact ⟨[_], _, [], rfl, by decide, by decide, by decide⟩

end Coverage.Instrument
