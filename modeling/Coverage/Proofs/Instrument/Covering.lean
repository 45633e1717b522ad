import Coverage.Proofs.Instrument.Numbering
import Coverage.Proofs.Script.Grammar
import Mathlib.Data.List.Basic

/-!
# Plans that cover the children of a node

Each link of a syntax tree has a tally: the function and the branches at its child. A plan covers
the children of a node when those that it gives slots to can stand in them, and nothing is to be
found in the others (`Plan.Covers`). There is one lemma for each plan that stays the same from child
to child, and one for plans by roles (`covers_of_roles?`).

The outcomes of a branch are added while other branches are met. What a slot or a plan still adds to
the branches before it is `Slot.outcomes` and `Plan.outcomes`.
-/

namespace Coverage.Instrument

open Coverage.Script (Node Kind Role)
open Coverage.Script.Node (decorates takesDefault)

/-! ### What there is to find -/

/-- A function with its body. -/
def functionsOf (n : Node) : List (Node × Node) :=
  if n.kind.isFunction then (n.child? .body).toList.map fun body => (n, body) else []

/-- The cases of a `switch`. -/
def casesOf (n : Node) : List Node :=
  (n.childrenIn .body).flatMap fun b => b.children.filter fun c => c.kind.isCase

namespace Setting

/-- The range of the second outcome of an `if`: that of its alternative or, without one, of all of
it. -/
def elseRange (s : Setting) (n : Node) : Location :=
  match alternativeOf n with
  | some a => s.range a
  | none => s.range n

/-- The branch of an `if`, a `switch`, a conditional expression or a chain of logical operations. -/
def branchesOf (s : Setting) (n : Node) : List BranchEntry :=
  match n.kind with
  | .ifStatement => [s.branchEntry .ifElse n [s.range n, s.elseRange n]]
  | .switchStatement => [s.branchEntry .switch n ((casesOf n).map s.range)]
  | .ternaryExpression =>
    let arms := n.children.filter fun c => c.role = some .consequence ∨ c.role = some .alternative
    [s.branchEntry .conditional n (arms.map s.range)]
  | .binaryExpression =>
    if n.isLogical then [s.branchEntry .logical n (n.chainOperands.map s.range)] else []
  | _ => []

/-- What there is to find at a node that is not an operation within a chain. -/
def own (s : Setting) (n : Node) : Tally := ⟨functionsOf n, s.branchesOf n⟩

/-- What there is to find at the child of a link: the branch of the default value that it is, and
what is to be found at the child itself, unless it is an operation within a chain. -/
def tallyAt (s : Setting) (m c : Node) : Tally :=
  (if takesDefault m c then ⟨[], [s.branchEntry .defaultValue m [s.range c]]⟩ else ∅) ++
    if m.isLogical ∧ c.isLogical then ∅ else s.own c

/-- What there is to find along a list of links. -/
def tally (s : Setting) (links : List (Node × Node)) : Tally :=
  ⟨links.flatMap fun l => (s.tallyAt l.1 l.2).functions,
    links.flatMap fun l => (s.tallyAt l.1 l.2).branches⟩

variable {s : Setting} {m c n : Node}

theorem tally_cons (s : Setting) (l : Node × Node) (links : List (Node × Node)) :
    s.tally (l :: links) = s.tallyAt l.1 l.2 ++ s.tally links := rfl

theorem tally_append (s : Setting) (links links' : List (Node × Node)) :
    s.tally (links ++ links') = s.tally links ++ s.tally links' := by
  apply Tally.ext
  · exact List.flatMap_append
  · exact List.flatMap_append

theorem tally_eq_empty {links : List (Node × Node)} (h : ∀ l ∈ links, s.tallyAt l.1 l.2 = ∅) :
    s.tally links = ∅ := by
  induction links with
  | nil => rfl
  | cons l links ih =>
    obtain ⟨hl, hlinks⟩ := List.forall_mem_cons.1 h
    rw [tally_cons, hl, ih hlinks]
    rfl

theorem own_of_plain (h : n.kind.isPlain = true) : s.own n = ∅ := by
  have hbranches : s.branchesOf n = [] := by
    rw [branchesOf.eq_def]
    split <;> simp_all [Kind.isPlain]
  rw [own, hbranches, functionsOf, Kind.isFunction_of_isPlain h]
  rfl

theorem own_of_function (h : n.kind.isFunction = true) {body : Node}
    (hbody : n.child? .body = some body) : s.own n = ⟨[(n, body)], []⟩ := by
  have hbranches : s.branchesOf n = [] := by
    rw [branchesOf.eq_def]
    split <;> simp_all [Kind.isFunction]
  rw [own, hbranches, functionsOf, if_pos h, hbody]
  rfl

theorem own_of_branch {bs : List BranchEntry} (h : n.kind.isFunction = false)
    (hbranches : s.branchesOf n = bs) : s.own n = ⟨[], bs⟩ := by
  rw [own, hbranches, functionsOf, h]
  rfl

theorem tallyAt_eq_own (hchain : ¬ (m.isLogical = true ∧ c.isLogical = true))
    (hdefault : takesDefault m c = false) : s.tallyAt m c = s.own c := by
  rw [tallyAt, if_neg hchain, hdefault]
  rfl

/-- An operation within a chain has no branch of its own. -/
theorem tallyAt_of_chain (hm : m.isLogical = true) (hc : c.isLogical = true) :
    s.tallyAt m c = ∅ := by
  rw [tallyAt, Node.takesDefault_of_isLogical hm, if_pos (And.intro hm hc)]
  rfl

end Setting

/-! ### Slots and plans -/

namespace Slot

/-- Whether a slot is one for an operand of a chain. -/
def isOperand : Slot → Bool
  | .operand _ => true
  | _ => false

/-- The range of the pattern that a slot is the default value of. -/
def pattern? : Slot → Option Location
  | .defaultValue pattern => some pattern
  | _ => none

theorem exists_of_isOperand {slot : Slot} (h : slot.isOperand = true) :
    ∃ branch, slot = .operand branch := by
  cases slot <;> first
    | exact ⟨_, rfl⟩
    | cases h

theorem eq_of_pattern? {slot : Slot} {pattern : Location} (h : slot.pattern? = some pattern) :
    slot = .defaultValue pattern := by
  cases slot <;> cases h
  rfl

/-- Whether a node of a kind may stand in a slot. -/
def admits : Slot → Kind → Bool
  | .statement _, kind | .arm _, kind => kind.isStatement || kind.isBare
  | .elseClause _, kind => kind = .elseClause
  | .declaration _, kind => kind.declaresVariables
  | .declarator _, kind => kind = .variableDeclarator
  | .cases _, kind => kind = .switchBody
  | .case _, kind => kind.isCase
  | _, _ => true

/-- A child of a node may stand in a slot. -/
structure Takes (s : Setting) (m c : Node) (slot : Slot) : Prop where
  decorates : decorates m c = false
  chain : slot.isOperand = m.isLogical
  default : slot.pattern? = if takesDefault m c then some (s.range m) else none
  kind : slot.admits c.kind = true

/-- The outcomes that a node in a slot adds to the branch of the slot. -/
def outcomes (s : Setting) : Slot → Node → List (Id × Location)
  | .cases branch, n => (n.children.filter fun c => c.kind.isCase).map fun c => (branch, s.range c)
  | .case branch, n | .outcome branch, n => [(branch, s.range n)]
  | .operand branch, n => n.chainOperands.map fun c => (branch, s.range c)
  | _, _ => []

end Slot

/-- Nothing is to be found below a link. -/
def Idle (s : Setting) (m c : Node) : Prop := s.tally (m.linksTo [c]) = ∅

/-- A child of a node may stand in its slot, or is rightly left without one. -/
def Meets (s : Setting) (m c : Node) : Option Slot → Prop
  | some slot => slot.Takes s m c
  | none => Idle s m c

namespace Plan

/-- The outcomes that the children of a node add to the branches of its plan. -/
def outcomes (s : Setting) : Plan → List Node → List (Id × Location)
  | _, [] => []
  | plan, c :: rest =>
    match plan.next c with
    | (some slot, plan) => slot.outcomes s c ++ plan.outcomes s rest
    | (none, plan) => plan.outcomes s rest

/-- The children of a node may stand in the slots that a plan gives them, and nothing is to be found
in those that get none. -/
def Covers (s : Setting) (m : Node) : Plan → List Node → Prop
  | _, [] => True
  | plan, c :: rest => Meets s m c (plan.next c).1 ∧ (plan.next c).2.Covers s m rest

end Plan

section Outcomes

variable {s : Setting} {n c : Node} {children : List Node}

theorem mem_branches_of_outcomes {slot : Slot} :
    ∀ o ∈ slot.outcomes s n, o.1 ∈ slot.branches := by
  intro o ho
  cases slot <;> simp only [Slot.outcomes, List.mem_map, List.mem_singleton, List.not_mem_nil] at ho
  case cases | operand =>
    obtain ⟨_, -, rfl⟩ := ho
    exact List.mem_singleton_self _
  case case | outcome =>
    rw [ho]
    exact List.mem_singleton_self _

theorem Plan.mem_branches_of_outcomes {plan : Plan} :
    ∀ o ∈ plan.outcomes s children, o.1 ∈ plan.branches := by
  induction children generalizing plan with
  | nil => nofun
  | cons c rest ih =>
    intro o ho
    have hnext := plan.yields_next c
    rw [outcomes] at ho
    split at ho
    · next slot plan' heq =>
      rw [heq] at hnext
      rcases List.mem_append.1 ho with ho | ho
      · exact hnext.slotBranches slot rfl _ (Instrument.mem_branches_of_outcomes o ho)
      · exact hnext.branches _ (ih o ho)
    · next plan' heq =>
      rw [heq] at hnext
      exact hnext.branches _ (ih o ho)

theorem Plan.outcomes_eq_nil {plan : Plan} (h : plan.branches = []) :
    plan.outcomes s children = [] := by
  refine List.eq_nil_iff_forall_not_mem.2 fun o ho => ?_
  have hmem := Plan.mem_branches_of_outcomes o ho
  rw [h] at hmem
  cases hmem

end Outcomes

/-! ### Children without a slot -/

section Idle

variable {s : Setting} {m c : Node} {children : List Node}

theorem tallyAt_eq_empty (hplain : c.kind.isPlain = true) (hdefault : takesDefault m c = false) :
    s.tallyAt m c = ∅ := by
  rw [Setting.tallyAt, hdefault, Setting.own_of_plain hplain, ite_self]
  rfl

theorem idle_of_children (hplain : c.kind.isPlain = true) (hdefault : takesDefault m c = false)
    (hbelow : ∀ d ∈ c.children, Idle s c d) : Idle s m c := by
  have hlinks : ∀ nodes, (∀ d ∈ nodes, Idle s c d) → s.tally (c.linksTo nodes) = ∅ := by
    intro nodes hnodes
    induction nodes with
    | nil => rfl
    | cons d rest ih =>
      obtain ⟨hd, hrest⟩ := List.forall_mem_cons.1 hnodes
      rw [Node.linksTo_cons, Setting.tally_append, hd, ih hrest]
      rfl
  rw [Idle, Node.linksTo_singleton]
  split
  · rfl
  · rw [Setting.tally_cons, tallyAt_eq_empty hplain hdefault, Node.links_eq, hlinks _ hbelow]
    rfl

theorem idle_of_bare (hc : c.Grammatical) (hbare : c.kind.isBare = true)
    (hdefault : takesDefault m c = false) : Idle s m c := by
  apply Setting.tally_eq_empty
  intro l hl
  rw [Node.linksTo_singleton] at hl
  split at hl
  · cases hl
  · rcases List.mem_cons.1 hl with rfl | hl
    · exact tallyAt_eq_empty (Kind.isPlain_of_isBare hbare) hdefault
    · obtain ⟨hin, hchild⟩ := Node.inTree_of_mem_links c l hl
      have habove := hc.bare hbare hin
      have hbelow := (hc l.1 hin).bare habove l.2 hchild
      have hpattern := Kind.hasDefault_of_isPlain (Kind.isPlain_of_isBare habove)
      exact tallyAt_eq_empty (Kind.isPlain_of_isBare hbelow)
        (Node.takesDefault_of_hasDefault hpattern l.2)

theorem idle_of_decorates (h : decorates m c = true) : Idle s m c := by
  rw [Idle, Node.linksTo_singleton, if_pos h]
  rfl

end Idle

/-! ### Plans for plain nodes -/

/-- A node that is neither a chain of logical operations nor a pattern with a default value. -/
structure Ordinary (m : Node) : Prop where
  logical : m.isLogical = false
  pattern : m.kind.hasDefault = false

/-- An ordinary node without decorators. -/
structure Uniform (m : Node) : Prop extends Ordinary m where
  member : m.kind.isMember = false

section Ordinary

variable {s : Setting} {m c : Node} {slot : Slot}

theorem Ordinary.of_ne (hbinary : m.kind ≠ .binaryExpression)
    (hpattern : m.kind.hasDefault = false) : Ordinary m := by
  refine ⟨?_, hpattern⟩
  rw [Node.isLogical, decide_eq_false hbinary]
  rfl

theorem Ordinary.of_kind {kind : Kind} (hkind : m.kind = kind) (hbinary : kind ≠ .binaryExpression)
    (hpattern : kind.hasDefault = false) : Ordinary m :=
  .of_ne (hkind ▸ hbinary) (hkind ▸ hpattern)

theorem Ordinary.of_isFunction (h : m.kind.isFunction = true) : Ordinary m := by
  refine .of_ne (fun hkind => ?_) (Kind.hasDefault_of_isFunction h)
  rw [hkind] at h
  cases h

theorem Ordinary.takesDefault (h : Ordinary m) (c : Node) : takesDefault m c = false :=
  Node.takesDefault_of_hasDefault h.pattern c

theorem Ordinary.takes (h : Ordinary m) (hdecorates : decorates m c = false)
    (hchain : slot.isOperand = false) (hpattern : slot.pattern? = none)
    (hkind : slot.admits c.kind = true) : slot.Takes s m c := by
  refine ⟨hdecorates, hchain.trans h.logical.symm, ?_, hkind⟩
  rw [h.takesDefault c]
  exact hpattern

theorem Ordinary.idle (h : Ordinary m) (hc : c.Grammatical) (hbare : c.kind.isBare = true) :
    Idle s m c :=
  idle_of_bare hc hbare (h.takesDefault c)

theorem Uniform.of_isPlain (h : m.kind.isPlain = true) : Uniform m := by
  refine ⟨.of_ne (fun hkind => ?_) (Kind.hasDefault_of_isPlain h), Kind.isMember_of_isPlain h⟩
  rw [hkind] at h
  cases h

theorem Uniform.takes (h : Uniform m) (hchain : slot.isOperand = false)
    (hpattern : slot.pattern? = none) (hkind : slot.admits c.kind = true) : slot.Takes s m c := by
  refine h.toOrdinary.takes ?_ hchain hpattern hkind
  rw [Node.decorates, h.member]
  rfl

end Ordinary

section Covers

variable {s : Setting} {m : Node} {children : List Node} {plan : Plan}

theorem covers_nothing (h : ∀ c ∈ children, Idle s m c) : Plan.nothing.Covers s m children := by
  induction children with
  | nil => trivial
  | cons c rest ih =>
    obtain ⟨hc, hrest⟩ := List.forall_mem_cons.1 h
    have hnext : Plan.nothing.next c = (none, .nothing) := by
      rw [Plan.next.eq_def]
      split <;> rfl
    rw [Plan.Covers, hnext]
    exact ⟨hc, ih hrest⟩

theorem next_unnamed {c : Node} (h : c.isNamed = false) (plan : Plan) :
    plan.next c = (none, plan) := by
  rw [Plan.next.eq_def, h]
  rfl

variable (hm : Uniform m) (hgrammar : ∀ c ∈ children, c.Grammatical)

include hm hgrammar

/-- A plan that stays the same from child to child covers the children if it suits each of them.
Those that are unnamed are left out by any plan. -/
theorem covers_of_named (h : ∀ c ∈ children, c.isNamed = true →
    (plan.next c).2 = plan ∧ Meets s m c (plan.next c).1) : plan.Covers s m children := by
  induction children with
  | nil => trivial
  | cons c rest ih =>
    obtain ⟨hc, hrest⟩ := List.forall_mem_cons.1 h
    obtain ⟨hgc, hgrest⟩ := List.forall_mem_cons.1 hgrammar
    rw [Plan.Covers]
    cases hnamed : c.isNamed with
    | false =>
      rw [next_unnamed hnamed]
      exact ⟨hm.idle hgc (Node.isBare_of_unnamed hnamed), ih hgrest hrest⟩
    | true =>
      obtain ⟨hnext, hmeets⟩ := hc hnamed
      rw [hnext]
      exact ⟨hmeets, ih hgrest hrest⟩

theorem covers_parts : Plan.parts.Covers s m children := by
  apply covers_of_named hm hgrammar
  intro c _ hnamed
  rw [Plan.next.eq_def, hnamed]
  exact ⟨rfl, hm.takes rfl rfl rfl⟩

theorem covers_members : Plan.members.Covers s m children := by
  apply covers_of_named hm hgrammar
  intro c _ hnamed
  rw [Plan.next.eq_def, hnamed]
  exact ⟨rfl, hm.takes rfl rfl rfl⟩

theorem covers_declarators (offset : Option Nat) :
    (Plan.declarators offset).Covers s m children := by
  apply covers_of_named hm hgrammar
  intro c _ hnamed
  rw [Plan.next.eq_def, hnamed]
  refine ⟨rfl, ?_⟩
  show Slot.Takes s m c (if c.kind = .variableDeclarator then .declarator offset else .part)
  split
  · next hkind => exact hm.takes rfl rfl (decide_eq_true hkind)
  · exact hm.takes rfl rfl rfl

theorem covers_exports (offset : Nat) : (Plan.exports offset).Covers s m children := by
  apply covers_of_named hm hgrammar
  intro c _ hnamed
  rw [Plan.next.eq_def, hnamed]
  refine ⟨rfl, ?_⟩
  show Slot.Takes s m c (if c.kind.declaresVariables then .declaration offset else .part)
  split
  · next hkind => exact hm.takes rfl rfl hkind
  · exact hm.takes rfl rfl rfl

theorem covers_loop (hbody : ∀ c ∈ children, c.role = some .body → c.kind.isStatement = true) :
    Plan.loop.Covers s m children := by
  apply covers_of_named hm hgrammar
  intro c hc hnamed
  rw [Plan.next.eq_def, hnamed]
  refine ⟨rfl, ?_⟩
  show Slot.Takes s m c (if c.role = some .body then .arm none else .loopHead)
  split
  · next hrole =>
    refine hm.takes rfl rfl ?_
    rw [Slot.admits, hbody c hc hrole]
    rfl
  · exact hm.takes rfl rfl rfl

omit hm hgrammar in
theorem next_cases (branch : Id) (c : Node) :
    (Plan.cases branch).next c =
      (if c.kind.isCase then some (.case branch) else none, .cases branch) := by
  rw [Plan.next.eq_def, Node.isNamed]
  cases c.kind <;> rfl

theorem covers_cases (hcases : ∀ c ∈ children, c.kind.isCase = true ∨ c.kind.isBare = true)
    (branch : Id) : (Plan.cases branch).Covers s m children := by
  apply covers_of_named hm hgrammar
  intro c hc _
  rw [next_cases]
  refine ⟨rfl, ?_⟩
  cases hcase : c.kind.isCase with
  | true => exact hm.takes rfl rfl hcase
  | false =>
    have hbare := (hcases c hc).resolve_left (Bool.eq_false_iff.1 hcase)
    exact hm.idle (hgrammar c hc) hbare

omit hm hgrammar in
theorem outcomes_cases (branch : Id) :
    (Plan.cases branch).outcomes s children =
      (children.filter fun c => c.kind.isCase).map fun c => (branch, s.range c) := by
  induction children with
  | nil => rfl
  | cons c rest ih =>
    rw [Plan.outcomes, next_cases, List.filter_cons]
    cases c.kind.isCase with
    | false => exact ih
    | true =>
      rw [if_pos rfl, if_pos rfl]
      exact congrArg (List.cons _) ih

omit hgrammar in
/-- What a list of statements leaves out: comments, the line for an interpreter and directives. -/
theorem meets_statementSlot {c : Node} (hc : c.Grammatical)
    (hkind : c.kind.isStatement = true ∨ c.kind.isBare = true) (directives : Bool) :
    Meets s m c (Plan.statementSlot directives c) := by
  rw [Plan.statementSlot]
  split
  · next hskip =>
    rw [Bool.or_eq_true, Bool.or_eq_true, Bool.and_eq_true, decide_eq_true_eq] at hskip
    rcases hskip with (hcomment | hline) | ⟨-, hdirective⟩
    · exact hm.idle hc (Node.isBare_of_isComment hcomment)
    · exact hm.idle hc (by rw [hline]; rfl)
    · have hexpression : c.kind = .expressionStatement :=
        of_decide_eq_true (Bool.and_eq_true_iff.1 hdirective).1
      have hplain : c.kind.isPlain = true := by rw [hexpression]; rfl
      refine idle_of_children hplain (hm.takesDefault c) fun d hd => ?_
      have hbare := Node.isBare_of_isDirective hdirective hd
      exact (Uniform.of_isPlain hplain).idle (hc.child hd) hbare
  · refine hm.takes rfl rfl ?_
    rw [Slot.admits, Bool.or_eq_true]
    exact hkind

theorem covers_statements
    (hkinds : ∀ c ∈ children, c.kind.isStatement = true ∨ c.kind.isBare = true)
    (directives : Bool) : (Plan.statements directives).Covers s m children := by
  induction children generalizing directives with
  | nil => trivial
  | cons c rest ih =>
    obtain ⟨hgc, hgrest⟩ := List.forall_mem_cons.1 hgrammar
    obtain ⟨hkc, hkrest⟩ := List.forall_mem_cons.1 hkinds
    have hmeets := meets_statementSlot (s := s) hm hgc hkc directives
    rw [Plan.Covers, Plan.next.eq_def]
    cases hnamed : c.isNamed with
    | false => exact ⟨hm.idle hgc (Node.isBare_of_unnamed hnamed), ih hgrest hkrest directives⟩
    | true =>
      simp only [Bool.not_true, Bool.false_eq_true, if_false]
      split
      · next slot heq =>
        rw [heq] at hmeets
        exact ⟨hmeets, ih hgrest hkrest false⟩
      · next heq =>
        rw [heq] at hmeets
        exact ⟨hmeets, ih hgrest hkrest directives⟩

theorem covers_case
    (hparts : ∀ c ∈ children, c.role = some .value ∨ c.role = some .body ∨ c.kind.isBare = true)
    (hbody : ∀ c ∈ children, c.role = some .body → c.kind.isStatement = true) :
    Plan.case.Covers s m children := by
  apply covers_of_named hm hgrammar
  intro c hc hnamed
  rw [Plan.next.eq_def, hnamed]
  simp only [Bool.not_true, Bool.false_eq_true, if_false]
  split
  · exact ⟨rfl, hm.takes rfl rfl rfl⟩
  · next hrole =>
    exact ⟨rfl, meets_statementSlot hm (hgrammar c hc) (.inl (hbody c hc hrole)) false⟩
  · next hvalue hrole =>
    have hbare := ((hparts c hc).resolve_left hvalue).resolve_left hrole
    exact ⟨rfl, hm.idle (hgrammar c hc) hbare⟩

omit hgrammar in
/-- What stands before the statement of an `else` is skipped, and so is all that stands behind. -/
theorem covers_alternative (hgrammar : ∀ c ∈ m.children, c.Grammatical)
    (hholds : m.HoldsAlternative) (counter : Counter) :
    (Plan.alternative counter).Covers s m m.children := by
  obtain ⟨before, a, behind, hchildren, hstatement, hbefore, hbehind⟩ := hholds
  rw [hchildren] at hgrammar ⊢
  clear hchildren
  induction before with
  | nil =>
    obtain ⟨-, hgrest⟩ := List.forall_mem_cons.1 hgrammar
    obtain ⟨hnamed, hcode⟩ := Node.code_of_isStatement hstatement
    have hnext : (Plan.alternative counter).next a = (some (.arm (some counter)), .nothing) := by
      rw [Plan.next.eq_def, hnamed, hcode]
      rfl
    rw [List.nil_append, Plan.Covers, hnext]
    refine ⟨hm.takes rfl rfl ?_, covers_nothing fun c hc => hm.idle (hgrest c hc) (hbehind c hc)⟩
    rw [Slot.admits, hstatement]
    rfl
  | cons c rest ih =>
    obtain ⟨hgc, hgrest⟩ := List.forall_mem_cons.1 hgrammar
    obtain ⟨hc, hrest⟩ := List.forall_mem_cons.1 hbefore
    have hnext : (Plan.alternative counter).next c = (none, .alternative counter) := by
      rw [Plan.next.eq_def]
      rcases hc with hnamed | hcomment
      · rw [hnamed]; rfl
      · rw [hcomment]
        split <;> rfl
    have hbare : c.kind.isBare = true := hc.elim Node.isBare_of_unnamed Node.isBare_of_isComment
    rw [List.cons_append, Plan.Covers, hnext]
    exact ⟨hm.idle hgc hbare, ih hgrest hrest⟩

end Covers

/-! ### Plans by roles -/

section Roles

variable {s : Setting} {m n c : Node} {children : List Node} {slots : List (Role × Slot)}

/-- The slot that the roles of a plan have for a child. -/
def slotFor (slots : List (Role × Slot)) (c : Node) : Option Slot :=
  (c.role.bind fun role => slots.find? fun e => e.1 = role).map (·.2)

theorem slotFor_eq_some {slot : Slot} (h : slotFor slots c = some slot) :
    ∃ role, (role, slot) ∈ slots ∧ c.role = some role := by
  obtain ⟨⟨role, slot'⟩, hbind, rfl⟩ := Option.map_eq_some_iff.1 h
  obtain ⟨role', hrole, hfind⟩ := Option.bind_eq_some_iff.1 hbind
  have hsame : role = role' := by simpa using List.find?_some hfind
  exact ⟨role, List.mem_of_find?_eq_some hfind, hsame ▸ hrole⟩

theorem slotFor_eq_none (h : slotFor slots c = none) : ∀ e ∈ slots, c.role ≠ some e.1 := by
  intro e he hrole
  rw [slotFor, Option.map_eq_none_iff, hrole, Option.bind_some, List.find?_eq_none] at h
  exact h e he (decide_eq_true rfl)

/-- A slot that has been given in another role is not missed. -/
theorem slotFor_filter {role : Role} (h : c.role ≠ some role) :
    slotFor (slots.filter fun e => e.1 ≠ role) c = slotFor slots c := by
  rw [slotFor, slotFor]
  cases hrole : c.role with
  | none => rfl
  | some own =>
    have hne : own ≠ role := fun heq => h (heq ▸ hrole)
    rw [Option.bind_some, Option.bind_some, List.find?_filter]
    congr 2
    funext e
    by_cases heq : e.1 = own
    · simp [heq, hne]
    · simp [heq]

theorem next_roles (hnamed : c.isNamed = true) :
    (Plan.roles slots).next c =
      (slotFor slots c, match slotFor slots c, c.role with
        | some _, some role => .roles (slots.filter fun e => e.1 ≠ role)
        | _, _ => .roles slots) := by
  rw [Plan.next.eq_def, hnamed, slotFor]
  cases hrole : c.role with
  | none => rfl
  | some role =>
    simp only [Bool.not_true, Bool.false_eq_true, if_false, Option.bind_some]
    cases hfind : slots.find? fun e => e.1 = role with
    | none => rfl
    | some e =>
      have hsame : e.1 = role := by simpa using List.find?_some hfind
      rw [← hsame]
      rfl

/-- Where no two children play the same role, a plan by roles covers them if it suits each. -/
theorem covers_roles (hapart : children.Pairwise Node.PlayApart)
    (hnamed : ∀ c ∈ children, c.isNamed = true → Meets s m c (slotFor slots c))
    (hunnamed : ∀ c ∈ children, c.isNamed = false → Idle s m c) :
    (Plan.roles slots).Covers s m children := by
  induction children generalizing slots with
  | nil => trivial
  | cons c rest ih =>
    obtain ⟨hc, hrest⟩ := List.forall_mem_cons.1 hnamed
    obtain ⟨huc, hurest⟩ := List.forall_mem_cons.1 hunnamed
    obtain ⟨hac, harest⟩ := List.pairwise_cons.1 hapart
    rw [Plan.Covers]
    cases hcn : c.isNamed with
    | false =>
      rw [next_unnamed hcn]
      exact ⟨huc hcn, ih harest hrest hurest⟩
    | true =>
      rw [next_roles hcn]
      refine ⟨hc hcn, ?_⟩
      dsimp only
      split
      · next slot role hslot hrole =>
        refine ih harest (fun d hd hdn => ?_) hurest
        rw [slotFor_filter ((hac d hd).role_ne hrole)]
        exact hrest d hd hdn
      · exact ih harest hrest hurest

/-- Where no two children play the same role, each has the outcomes of the slot in its role. -/
theorem outcomes_roles (hapart : children.Pairwise Node.PlayApart)
    (hunnamed : ∀ c ∈ children, c.isNamed = false → slotFor slots c = none) :
    (Plan.roles slots).outcomes s children =
      children.flatMap fun c => ((slotFor slots c).map fun slot => slot.outcomes s c).getD [] := by
  induction children generalizing slots with
  | nil => rfl
  | cons c rest ih =>
    obtain ⟨hc, hrest⟩ := List.forall_mem_cons.1 hunnamed
    obtain ⟨hac, harest⟩ := List.pairwise_cons.1 hapart
    rw [Plan.outcomes, List.flatMap_cons]
    cases hcn : c.isNamed with
    | false =>
      rw [next_unnamed hcn, hc hcn]
      exact ih harest hrest
    | true =>
      rw [next_roles hcn]
      cases hslot : slotFor slots c with
      | none => exact ih harest hrest
      | some slot =>
        obtain ⟨role, -, hrole⟩ := slotFor_eq_some hslot
        have hkept : ∀ d ∈ rest,
            slotFor (slots.filter fun e => e.1 ≠ role) d = slotFor slots d :=
          fun d hd => slotFor_filter ((hac d hd).role_ne hrole)
        rw [hrole]
        dsimp only
        rw [ih harest fun d hd hdn => (hkept d hd).trans (hrest d hd hdn)]
        refine congrArg (slot.outcomes s c ++ ·) (List.flatMap_congr fun d hd => ?_)
        rw [hkept d hd]

variable {roles : List Role}

/-- A plan whose slots are for roles that a node tells apart covers its children, if those that get
slots can stand in them and nothing is to be found in the other ones in such roles. -/
theorem covers_of_roles? (hn : n.Grammatical) (hroles : n.kind.roles? = some roles)
    (hslots : ∀ e ∈ slots, e.1 ∈ roles)
    (hfilled : ∀ c ∈ n.children, n.decorates c = false → ∀ e ∈ slots, c.role = some e.1 →
      e.2.Takes s n c)
    (hleft : ∀ c ∈ n.children, ∀ role ∈ roles, c.role = some role →
      (∀ e ∈ slots, e.1 ≠ role) → Idle s n c) :
    (Plan.roles slots).Covers s n n.children := by
  have hother : ∀ c ∈ n.children, (∀ role ∈ roles, c.role ≠ some role) → Idle s n c := by
    intro c hc hrole
    rcases hn.own.parts roles hroles c hc with ⟨⟨role, hmem, heq⟩, -, -⟩ | ⟨-, hbare | hdecorates⟩
    · exact absurd heq (hrole role hmem)
    · refine idle_of_bare (hn.child hc) hbare ?_
      rw [takesDefault, Bool.and_eq_false_iff, decide_eq_false_iff_not]
      cases hpattern : n.kind.hasDefault with
      | false => exact .inl rfl
      | true => exact .inr (hrole .right (Kind.right_mem_of_hasDefault hpattern hroles))
    · exact idle_of_decorates hdecorates
  have hapart : n.children.Pairwise Node.PlayApart := hn.own.apart (by rw [hroles]; rfl)
  refine covers_roles hapart (fun c hc _ => ?_) fun c hc hunnamed => ?_
  · cases hslot : slotFor slots c with
    | some slot =>
      obtain ⟨role, hmem, hrole⟩ := slotFor_eq_some hslot
      have hdecorates : n.decorates c = false := by
        rcases hn.own.parts roles hroles c hc with ⟨-, -, hdecorates⟩ | ⟨hnone, -⟩
        · exact hdecorates
        · exact absurd hrole (hnone role (hslots _ hmem))
      exact hfilled c hc hdecorates (role, slot) hmem hrole
    | none =>
      have hnone := slotFor_eq_none hslot
      by_cases hrole : ∃ role ∈ roles, c.role = some role
      · obtain ⟨role, hmem, hrole⟩ := hrole
        exact hleft c hc role hmem hrole fun e he heq => hnone e he (heq ▸ hrole)
      · exact hother c hc fun role hmem heq => hrole ⟨role, hmem, heq⟩
  · rcases hn.own.parts roles hroles c hc with ⟨-, hnamed, -⟩ | ⟨hrole, -⟩
    · rw [hunnamed] at hnamed
      cases hnamed
    · exact hother c hc hrole

/-- If all roles that a node tells apart have slots, it is enough that these can be filled. -/
theorem covers_of_all_roles (hn : n.Grammatical) (hroles : n.kind.roles? = some (slots.map (·.1)))
    (hfilled : ∀ c ∈ n.children, n.decorates c = false → ∀ e ∈ slots, c.role = some e.1 →
      e.2.Takes s n c) :
    (Plan.roles slots).Covers s n n.children := by
  refine covers_of_roles? hn hroles (fun e he => List.mem_map_of_mem he) hfilled ?_
  intro c hc role hmem hrole hnone
  obtain ⟨e, he, heq⟩ := List.mem_map.1 hmem
  exact absurd heq (hnone e he)

/-- The slots of a plan for an ordinary node can be filled if the children in their roles are of the
right kinds. -/
theorem Ordinary.covers_roles (h : Ordinary n) (hn : n.Grammatical)
    (hroles : n.kind.roles? = some (slots.map (·.1)))
    (hslots : ∀ e ∈ slots, e.2.isOperand = false ∧ e.2.pattern? = none)
    (hadmits : ∀ c ∈ n.children, ∀ e ∈ slots, c.role = some e.1 → e.2.admits c.kind = true) :
    (Plan.roles slots).Covers s n n.children := by
  refine covers_of_all_roles hn hroles fun c hc hdecorates e he hrole => ?_
  obtain ⟨hchain, hpattern⟩ := hslots e he
  exact h.takes hdecorates hchain hpattern (hadmits c hc e he hrole)

theorem outcomes_of_roles? (hn : n.Grammatical)
    (hroles : n.kind.roles? = some (slots.map (·.1))) :
    (Plan.roles slots).outcomes s n.children = n.children.flatMap fun c =>
      ((slotFor slots c).map fun slot => slot.outcomes s c).getD [] := by
  refine outcomes_roles (hn.own.apart (by rw [hroles]; rfl)) fun c hc hunnamed => ?_
  cases hslot : slotFor slots c with
  | none => rfl
  | some slot =>
    obtain ⟨role, hmem, hrole⟩ := slotFor_eq_some hslot
    rcases hn.own.parts _ hroles c hc with ⟨-, hnamed, -⟩ | ⟨hnone, -⟩
    · rw [hunnamed] at hnamed
      cases hnamed
    · exact absurd hrole (hnone role (List.mem_map.2 ⟨_, hmem, rfl⟩))

theorem flatMap_filter {α β : Type} (l : List α) (p : α → Bool) (g : α → List β) :
    (l.filter p).flatMap g = l.flatMap fun a => if p a then g a else [] := by
  induction l with
  | nil => rfl
  | cons a l ih =>
    rw [List.filter_cons, List.flatMap_cons, ← ih]
    split <;> rfl

/-- The outcomes of a plan in which all slots that have some are for one branch. -/
theorem outcomes_of_branch (hn : n.Grammatical) (hroles : n.kind.roles? = some (slots.map (·.1)))
    {branch : Id} {p : Node → Bool} {ranges : Node → List Location}
    (h : ∀ c, ((slotFor slots c).map fun slot => slot.outcomes s c).getD [] =
      if p c then (ranges c).map fun r => (branch, r) else []) :
    (Plan.roles slots).outcomes s n.children =
      ((n.children.filter p).flatMap ranges).map fun r => (branch, r) := by
  rw [outcomes_of_roles? hn hroles, List.map_flatMap, flatMap_filter]
  exact List.flatMap_congr fun c _ => h c

end Roles

end Coverage.Instrument
