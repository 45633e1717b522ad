import Coverage.Proofs.Text.Lines
import Coverage.Script.Node

/-!
# How the nodes of a tree lie in each other

The children of a node stand inside it, one behind the other. So a node of a tree is either behind
or before all of another part of the tree, or it is in that part, or around it (`apart_or_inTree`,
`sameExtent_or_outside`). Comments need some care, since a node ends with its code: comments behind
the code are children of the node that stand outside it.
-/

namespace Coverage.Script

namespace Node

/-- A node stands in the tree of another node, or is that node. -/
inductive InTree (n : Node) : Node → Prop where
  | self : InTree n n
  | inChild {m c : Node} (hc : c ∈ m.children) (h : InTree n c) : InTree n m

/-- Whether a node is a comment of either kind. -/
def isRemark (n : Node) : Bool := n.isComment || n.kind = .markupComment

/-- How a node lies around its children. -/
structure Arranged (src : List Char) (n : Node) : Prop where
  proper : n.start < n.stop
  start : Text.Boundary src n.start
  stop : Text.Boundary src n.stop
  inside : ∀ c ∈ n.children, n.start ≤ c.start
  /-- A node ends behind its code. -/
  code : ∀ c ∈ n.children, c.isComment = false → c.stop ≤ n.stop
  /-- A node starts with code. -/
  comments : ∀ c ∈ n.children, c.isComment = true → n.start < c.start
  ordered : n.children.Pairwise fun a b => ∀ d : Node, d.InTree a → d.stop ≤ b.start
  remark : n.isRemark = true → n.children = []
  /-- The statement of an expression starts with the expression. -/
  expression : n.kind = .expressionStatement → ∀ c ∈ n.children, c.isNamed = true →
    c.isRemark = false → c.start = n.start

/-- All nodes of a tree lie around their children. -/
def Nested (src : List Char) (m : Node) : Prop := ∀ d : Node, d.InTree m → d.Arranged src

/-- Two nodes have one start and one end. -/
def SameExtent (m n : Node) : Prop := m.start = n.start ∧ m.stop = n.stop

/-- A node holds something that does not stand in `n`. -/
def Outside (n m : Node) : Prop := m.start < n.start ∨ n.stop < m.stop

/-- No node of a tree stands in `n`. -/
def Apart (n m : Node) : Prop := ∀ d : Node, d.InTree m → n.Outside d

variable {src : List Char} {m n : Node}

theorem Nested.own (h : m.Nested src) : m.Arranged src := h m .self

theorem Nested.child (h : m.Nested src) {c : Node} (hc : c ∈ m.children) : c.Nested src :=
  fun d hd => h d (.inChild hc hd)

theorem inTree_mk {kind : Kind} {role : Option Role} {start stop : Nat} {children : List Node} :
    n.InTree ⟨kind, role, start, stop, children⟩ ↔
      n = ⟨kind, role, start, stop, children⟩ ∨ ∃ c ∈ children, n.InTree c := by
  constructor
  · intro h
    cases h with
    | self => exact .inl rfl
    | inChild hc h => exact .inr ⟨_, hc, h⟩
  · rintro (rfl | ⟨c, hc, h⟩)
    · exact .self
    · exact .inChild hc h

theorem nested_iff : m.Nested src ↔ m.Arranged src ∧ ∀ c ∈ m.children, c.Nested src := by
  constructor
  · intro h
    exact ⟨h.own, fun c hc => h.child hc⟩
  · rintro ⟨hown, hchildren⟩ d hd
    cases hd with
    | self => exact hown
    | inChild hc h => exact hchildren _ hc d h

theorem nested_leaf {kind : Kind} {role : Option Role} {start stop : Nat} (hproper : start < stop)
    (hstart : Text.Boundary src start) (hstop : Text.Boundary src stop) :
    Nested src ⟨kind, role, start, stop, []⟩ := by
  rw [nested_iff]
  refine ⟨⟨hproper, hstart, hstop, ?_, ?_, ?_, .nil, fun _ => rfl, ?_⟩, ?_⟩ <;> simp

theorem InTree.nested (h : n.InTree m) (hm : m.Nested src) : n.Nested src := by
  induction h with
  | self => exact hm
  | inChild hc _ ih => exact ih (hm.child hc)

theorem InTree.start_le (h : n.InTree m) (hm : m.Nested src) : m.start ≤ n.start := by
  induction h with
  | self => exact Nat.le_refl _
  | inChild hc _ ih => exact Nat.le_trans (hm.own.inside _ hc) (ih (hm.child hc))

/-- Code ends in the nodes around it. -/
theorem InTree.stop_le (h : n.InTree m) (hm : m.Nested src) (hcode : n.isComment = false) :
    n.stop ≤ m.stop := by
  induction h with
  | self => exact Nat.le_refl _
  | @inChild m c hc h ih =>
    cases hcomment : c.isComment with
    | false => exact Nat.le_trans (ih (hm.child hc)) (hm.own.code c hc hcomment)
    | true =>
      -- A comment has no nodes below it, so it is `n` itself, which is code.
      have hleaf : c.children = [] := (hm.child hc).own.remark (by rw [isRemark, hcomment]; rfl)
      cases h with
      | self => simp [hcode] at hcomment
      | inChild hc' _ =>
        rw [hleaf] at hc'
        cases hc'

/-- A comment starts behind the start of the nodes around it. -/
theorem InTree.eq_or_start_lt (h : n.InTree m) (hm : m.Nested src) (hcomment : n.isComment = true) :
    n = m ∨ m.start < n.start := by
  induction h with
  | self => exact .inl rfl
  | @inChild m c hc h ih =>
    right
    rcases ih (hm.child hc) with rfl | hlt
    · exact hm.own.comments n hc hcomment
    · exact Nat.lt_of_le_of_lt (hm.own.inside c hc) hlt

/-- A node has the extent of one in its tree, or goes beyond it. -/
theorem sameExtent_or_outside (hm : m.Nested src) (h : n.InTree m) :
    SameExtent m n ∨ n.Outside m := by
  have hstart := h.start_le hm
  rw [SameExtent, Outside]
  cases hcomment : n.isComment with
  | true =>
    rcases h.eq_or_start_lt hm hcomment with rfl | hlt
    · exact .inl ⟨rfl, rfl⟩
    · exact .inr (.inl hlt)
  | false =>
    have hstop := h.stop_le hm hcomment
    omega

/-- Of trees that stand one behind the other, those that do not hold a node of one of them are apart
from it. -/
theorem apart_or_inTree {nodes : List Node} (hnodes : ∀ c ∈ nodes, c.Nested src)
    (hordered : nodes.Pairwise fun a b => ∀ d : Node, d.InTree a → d.stop ≤ b.start) {c' : Node}
    (hc' : c' ∈ nodes) (h : n.InTree c') : ∀ c ∈ nodes, n.Apart c ∨ n.InTree c := by
  intro c hc
  have hn := h.start_le (hnodes c' hc')
  obtain ⟨before, behind, rfl⟩ := List.append_of_mem hc'
  rcases List.mem_append.1 hc with hbefore | hbehind
  · left
    intro d hd
    have hproper := (hd.nested (hnodes c hc)).own.proper
    have hstop := (List.pairwise_append.1 hordered).2.2 c hbefore c' List.mem_cons_self d hd
    left
    omega
  · rcases List.mem_cons.1 hbehind with rfl | hbehind
    · exact .inr h
    · left
      intro d hd
      have hproper := (hd.nested (hnodes c hc)).own.proper
      have hstart := hd.start_le (hnodes c hc)
      have hrest := (List.pairwise_append.1 hordered).2.1
      have hstop := (List.pairwise_cons.1 hrest).1 c hbehind n h
      right
      omega

/-- What is apart from a node, or around it, has children that are. -/
theorem apart_or_inTree_child (hm : m.Nested src) (h : n.Apart m ∨ n.InTree m)
    (hne : ¬ SameExtent m n) : ∀ c ∈ m.children, n.Apart c ∨ n.InTree c := by
  rcases h with hapart | hin
  · intro c hc
    left
    intro d hd
    exact hapart d (.inChild hc hd)
  · cases hin with
    | self => exact absurd ⟨rfl, rfl⟩ hne
    | inChild hc' h =>
      exact apart_or_inTree (fun c hc => hm.child hc) hm.own.ordered hc' h

end Node

end Coverage.Script
