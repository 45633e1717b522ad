import Coverage.Report.Tree

/-!
# Numbered trees

The nodes of a report tree are kept in one list, in which a node names the nodes below it by their
numbers. The tree is taken apart with a stack of the nodes that wait for a number. A node gets its
number before all nodes below it, so a walk that follows the numbers comes to an end.
-/

namespace Coverage.Report

/-- A row with the numbers of the nodes directly below it. -/
structure Slot where
  row : Row
  children : List Nat
  deriving Inhabited

/-- Notes numbers below the slot that a row names as the one above it. -/
def noteBelow (above : Option (Nat × FilePath)) (ids : List Nat) (slots : List Slot) : List Slot :=
  match above with
  | none => slots
  | some (p, _) => slots.modify p fun x => { x with children := x.children ++ ids }

@[simp] theorem length_noteBelow (above : Option (Nat × FilePath)) (ids : List Nat)
    (slots : List Slot) : (noteBelow above ids slots).length = slots.length := by
  rcases above with _ | ⟨p, path⟩
  · rfl
  · exact List.length_modify _ _ _

/-- A list of slots, each with the number of its place. -/
structure Numbered where
  slots : List Slot
  /-- What a slot names has a place behind it. -/
  later : ∀ (id : Nat) (x : Slot), slots[id]? = some x →
    ∀ c ∈ x.children, id < c ∧ c < slots.length

/-- A node that waits for its number. -/
structure Pending where
  depth : Nat
  parent : Option (Nat × FilePath)
  node : Node

theorem Node.countAll_append (ns ms : List Node) :
    countAll (ns ++ ms) = countAll ns + countAll ms := by
  induction ns with
  | nil => exact (Nat.zero_add _).symm
  | cons n ns ih => rw [List.cons_append, countAll, countAll, ih, Nat.add_assoc]

namespace Numbered

/-- The tree without nodes. -/
def empty : Numbered := ⟨[], nofun⟩

/-- The number of the next node. -/
def next (t : Numbered) : Nat := t.slots.length

/-- The slots with one for the next node, whose number is noted above it. -/
def slotsWith (t : Numbered) (w : Pending) : List Slot :=
  noteBelow w.parent [t.next] t.slots ++ [⟨⟨t.next, w.depth, w.parent, w.node⟩, []⟩]

theorem length_slotsWith (t : Numbered) (w : Pending) : (t.slotsWith w).length = t.next + 1 := by
  rw [slotsWith, List.length_append, length_noteBelow]
  rfl

theorem children_noteBelow {above : Option (Nat × FilePath)} {ids : List Nat} {slots : List Slot}
    {id : Nat} {x : Slot} (h : (noteBelow above ids slots)[id]? = some x) :
    ∃ y, slots[id]? = some y ∧ ∀ c ∈ x.children, c ∈ y.children ∨ c ∈ ids := by
  rcases above with _ | ⟨p, path⟩
  · exact ⟨x, h, fun c hc => .inl hc⟩
  · rw [noteBelow, List.getElem?_modify] at h
    obtain ⟨y, hy, rfl⟩ := Option.map_eq_some_iff.1 h
    refine ⟨y, hy, fun c hc => ?_⟩
    split at hc
    · exact List.mem_append.1 hc
    · exact .inl hc

theorem later_slotsWith (t : Numbered) (w : Pending) (id : Nat) (x : Slot)
    (h : (t.slotsWith w)[id]? = some x) :
    ∀ c ∈ x.children, id < c ∧ c < (t.slotsWith w).length := by
  intro c hc
  rw [length_slotsWith]
  by_cases hid : id < t.next
  · rw [slotsWith, List.getElem?_append_left (by rwa [length_noteBelow])] at h
    obtain ⟨y, hy, hchildren⟩ := children_noteBelow h
    rcases hchildren c hc with hold | hnew
    · obtain ⟨hlt, hle⟩ := t.later id y hy c hold
      exact ⟨hlt, Nat.lt_succ_of_lt hle⟩
    · cases List.mem_singleton.1 hnew
      exact ⟨hid, Nat.lt_succ_self _⟩
  · have hle : (noteBelow w.parent [t.next] t.slots).length ≤ id := by
      rw [length_noteBelow]
      exact Nat.not_lt.1 hid
    rw [slotsWith, List.getElem?_append_right hle, List.getElem?_singleton] at h
    split at h
    · cases h
      cases hc
    · cases h

/-- Gives the next number to a node. -/
def add (t : Numbered) (w : Pending) : Numbered := ⟨t.slotsWith w, t.later_slotsWith w⟩

@[simp] theorem slots_add (t : Numbered) (w : Pending) : (t.add w).slots = t.slotsWith w := rfl

@[simp] theorem next_add (t : Numbered) (w : Pending) : (t.add w).next = t.next + 1 :=
  t.length_slotsWith w

/-- Takes the nodes off a stack. Each gets the next number, and its children wait in their order on
top of what is left of the stack. -/
def number (t : Numbered) : List Pending → Numbered
  | [] => t
  | w :: stack =>
    number (t.add w)
      ((w.node.children.map fun n => ⟨w.depth + 1, some (t.next, w.node.path), n⟩) ++ stack)
termination_by stack => Node.countAll (stack.map Pending.node)
decreasing_by
  have hnodes : (w.node.children.map fun n =>
      (⟨w.depth + 1, some (t.next, w.node.path), n⟩ : Pending)).map Pending.node =
        w.node.children := by
    rw [List.map_map]
    exact List.map_id _
  have hnode : Node.countAll w.node.children < w.node.count := by
    cases w.node with
    | file p r => exact Nat.zero_lt_one
    | directory p ns => exact Nat.lt_succ_self _
  rw [List.map_append, hnodes, Node.countAll_append, List.map_cons, Node.countAll]
  exact Nat.add_lt_add_right hnode _

end Numbered

/-- The nodes of a tree with their numbers. -/
def Node.numbered (root : Node) : Numbered := Numbered.empty.number [⟨0, none, root⟩]

end Coverage.Report
