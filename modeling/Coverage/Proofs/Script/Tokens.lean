import Coverage.Proofs.Script.Nesting

/-!
# The tokens of a tree

The leaves of a tree are the tokens of the text and its comments. A node starts where one of its
tokens starts and ends where one of them ends (`Tidy.atToken_start`, `Tidy.atToken_stop`), and
tokens stand side by side, so that no place at a token is within another token or a comment
(`AtToken.not_within`).
-/

namespace Coverage.Script

namespace Node

/-- How the children of a node make it up: they stand one behind the other, and the node starts and
ends with code. -/
structure Composed (n : Node) : Prop where
  leaf : n.children = [] → n.start < n.stop
  inside : ∀ c ∈ n.children, n.start ≤ c.start
  /-- A node ends behind its code. -/
  code : ∀ c ∈ n.children, c.isRemark = false → c.stop ≤ n.stop
  ordered : n.children.Pairwise fun a b => ∀ d : Node, d.InTree a → d.stop ≤ b.start
  first : n.children ≠ [] → ∃ c ∈ n.children, c.isRemark = false ∧ c.start = n.start
  last : n.children ≠ [] → ∃ c ∈ n.children, c.isRemark = false ∧ c.stop = n.stop
  remark : n.isRemark = true → n.children = []
  /-- Comments play no role. -/
  role : ∀ c ∈ n.children, c.isRemark = true → c.role = none
  /-- A block starts with a brace. -/
  brace : n.kind = .statementBlock → ∃ c ∈ n.children, c.isToken "\x7b" = true ∧ c.children = [] ∧
    c.start = n.start ∧ c.stop = n.start + 1

/-- All nodes of a tree are made up of their children. -/
inductive Tidy : Node → Prop where
  | node (n : Node) (own : n.Composed) (children : ∀ c ∈ n.children, Tidy c) : Tidy n

/-- An offset is the start or the end of a token of a tree. Comments are no tokens. -/
def AtToken (tree : Node) (offset : Nat) : Prop :=
  ∃ t : Node, t.InTree tree ∧ t.children = [] ∧ t.isRemark = false ∧
    (offset = t.start ∨ offset = t.stop)

variable {n m tree : Node} {offset : Nat}

theorem InTree.trans {k : Node} (h : n.InTree m) (hm : m.InTree k) : n.InTree k := by
  induction hm with
  | self => exact h
  | inChild hc _ ih => exact .inChild hc ih

theorem AtToken.mono (h : n.AtToken offset) (hn : n.InTree tree) : tree.AtToken offset := by
  obtain ⟨t, ht, hleaf, hcode, hoffset⟩ := h
  exact ⟨t, ht.trans hn, hleaf, hcode, hoffset⟩

namespace Tidy

theorem own (h : n.Tidy) : n.Composed := by
  cases h
  assumption

theorem child (h : n.Tidy) {c : Node} (hc : c ∈ n.children) : c.Tidy := by
  cases h with
  | node _ _ children => exact children c hc

theorem proper (h : n.Tidy) : n.start < n.stop := by
  induction h with
  | node n own _ ih =>
    by_cases hleaf : n.children = []
    · exact own.leaf hleaf
    · obtain ⟨c, hc, hcode, hstart⟩ := own.first hleaf
      exact hstart ▸ Nat.lt_of_lt_of_le (ih c hc) (own.code c hc hcode)

/-- A node starts where a token starts. -/
theorem atToken_start (h : n.Tidy) (hcode : n.isRemark = false) : n.AtToken n.start := by
  induction h with
  | node n own _ ih =>
    by_cases hleaf : n.children = []
    · exact ⟨n, .self, hleaf, hcode, .inl rfl⟩
    · obtain ⟨c, hc, hcode, hstart⟩ := own.first hleaf
      exact hstart ▸ (ih c hc hcode).mono (.inChild hc .self)

/-- A node ends where a token ends. -/
theorem atToken_stop (h : n.Tidy) (hcode : n.isRemark = false) : n.AtToken n.stop := by
  induction h with
  | node n own _ ih =>
    by_cases hleaf : n.children = []
    · exact ⟨n, .self, hleaf, hcode, .inr rfl⟩
    · obtain ⟨c, hc, hcode, hstop⟩ := own.last hleaf
      exact hstop ▸ (ih c hc hcode).mono (.inChild hc .self)

theorem inTree_start_le (h : m.Tidy) (hn : n.InTree m) : m.start ≤ n.start := by
  induction hn with
  | self => exact Nat.le_refl _
  | inChild hc _ ih => exact Nat.le_trans (h.own.inside _ hc) (ih (h.child hc))

end Tidy

theorem tidy_leaf {kind : Kind} (role : Option Role) {start stop : Nat}
    (hkind : kind ≠ .statementBlock) (hproper : start < stop) :
    Tidy ⟨kind, role, start, stop, []⟩ := by
  refine .node _ ⟨fun _ => hproper, nofun, nofun, .nil, fun h => absurd rfl h,
    fun h => absurd rfl h, fun _ => rfl, nofun, fun h => absurd h hkind⟩ nofun

/-- Two leaves are one, or they stand side by side. -/
def SideBySide (a b : Node) : Prop := a = b ∨ a.stop ≤ b.start ∨ b.stop ≤ a.start

/-- Of two members of a list in order one is related to the other, unless they are one. -/
theorem eq_or_of_pairwise {α : Type} {R : α → α → Prop} {l : List α} (h : l.Pairwise R) {a b : α}
    (ha : a ∈ l) (hb : b ∈ l) : a = b ∨ R a b ∨ R b a := by
  obtain ⟨before, behind, rfl⟩ := List.append_of_mem ha
  obtain ⟨-, hbehind, hbefore⟩ := List.pairwise_append.1 h
  rcases List.mem_append.1 hb with hb | hb
  · exact .inr (.inr (hbefore b hb a List.mem_cons_self))
  · rcases List.mem_cons.1 hb with rfl | hb
    · exact .inl rfl
    · exact .inr (.inl ((List.pairwise_cons.1 hbehind).1 b hb))

/-- The leaves of trees in a row stand side by side if those of each tree do. -/
theorem sideBySide_of_ordered {nodes : List Node} (hnodes : ∀ c ∈ nodes, c.Tidy)
    (hordered : nodes.Pairwise fun a b => ∀ d : Node, d.InTree a → d.stop ≤ b.start)
    (hsame : ∀ c ∈ nodes, ∀ a b : Node, a.InTree c → a.children = [] → b.InTree c →
      b.children = [] → SideBySide a b)
    {a b c d : Node} (hc : c ∈ nodes) (ha : a.InTree c) (haleaf : a.children = [])
    (hd : d ∈ nodes) (hb : b.InTree d) (hbleaf : b.children = []) : SideBySide a b := by
  rcases eq_or_of_pairwise hordered hc hd with rfl | h | h
  · exact hsame c hc a b ha haleaf hb hbleaf
  · exact .inr (.inl (Nat.le_trans (h a ha) ((hnodes d hd).inTree_start_le hb)))
  · exact .inr (.inr (Nat.le_trans (h b hb) ((hnodes c hc).inTree_start_le ha)))

theorem InTree.child_of_leaf (h : n.InTree m) (hleaf : n.children = []) (hm : m.children ≠ []) :
    ∃ c ∈ m.children, n.InTree c := by
  cases h with
  | self => exact absurd hleaf hm
  | inChild hc h => exact ⟨_, hc, h⟩

theorem InTree.eq_of_leaf (h : n.InTree m) (hm : m.children = []) : n = m := by
  cases h with
  | self => rfl
  | inChild hc _ =>
    rw [hm] at hc
    cases hc

theorem Tidy.sideBySide (h : m.Tidy) : ∀ a b : Node, a.InTree m → a.children = [] → b.InTree m →
    b.children = [] → SideBySide a b := by
  induction h with
  | node m own children ih =>
    intro a b ha haleaf hb hbleaf
    by_cases hm : m.children = []
    · exact .inl ((ha.eq_of_leaf hm).trans (hb.eq_of_leaf hm).symm)
    · obtain ⟨c, hc, ha⟩ := ha.child_of_leaf haleaf hm
      obtain ⟨d, hd, hb⟩ := hb.child_of_leaf hbleaf hm
      exact sideBySide_of_ordered children own.ordered ih hc ha haleaf hd hb hbleaf

theorem InTree.tidy (h : n.InTree m) (hm : m.Tidy) : n.Tidy := by
  induction h with
  | self => exact hm
  | inChild hc _ ih => exact ih (hm.child hc)

/-- A place at a token is not within a token or a comment. The tree may be that of a program, which
may start with a comment and may be empty. -/
theorem AtToken.not_within (hnodes : ∀ c ∈ tree.children, c.Tidy)
    (hordered : tree.children.Pairwise fun a b => ∀ d : Node, d.InTree a → d.stop ≤ b.start)
    (h : tree.AtToken offset) {d : Node} (hd : d.InTree tree)
    (hleaf : d.children = []) : ¬ (d.start < offset ∧ offset < d.stop) := by
  obtain ⟨t, ht, htleaf, -, hoffset⟩ := h
  by_cases hne : tree.children = []
  · rw [ht.eq_of_leaf hne] at hoffset
    rw [hd.eq_of_leaf hne]
    omega
  obtain ⟨c, hc, ht⟩ := ht.child_of_leaf htleaf hne
  obtain ⟨c', hc', hd⟩ := hd.child_of_leaf hleaf hne
  have hproper := (ht.tidy (hnodes c hc)).proper
  have hside := sideBySide_of_ordered hnodes hordered (fun c hc => (hnodes c hc).sideBySide)
    hc ht htleaf hc' hd hleaf
  rcases hside with rfl | hside | hside <;> omega

end Node

end Coverage.Script
