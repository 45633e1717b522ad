import Coverage.Proofs.Report.Folding
import Coverage.Proofs.Lists
import Coverage.Proofs.Text.Utf8
import Coverage.Report.Walk
import Mathlib.Data.List.Nodup

/-!
# Numbers and walks

Taking a tree apart with a stack numbers its nodes as the rows are numbered, and leaves in every
slot the numbers of the rows right below it (`slots_numbered`): a node on the stack is dealt with,
and all nodes below it, before what lies under it on the stack (`number_cons`). So a walk that
follows the numbers of the children meets the slots in their order (`walk_eq`).
-/

namespace Coverage.Report

/-! ### Taking a tree apart -/

/-- A row with the numbers of all rows right below it. -/
def Row.slot (r : Row) : Slot := ⟨r, r.childIds⟩

section noteBelow

variable {above : Option (Nat × FilePath)} {slots : List Slot}

theorem noteBelow_append (h : ∀ p path, above = some (p, path) → p < slots.length)
    (ids : List Nat) (more : List Slot) :
    noteBelow above ids (slots ++ more) = noteBelow above ids slots ++ more := by
  rcases above with _ | ⟨p, path⟩
  · rfl
  · exact modify_append (h p path rfl) _ more

theorem noteBelow_noteBelow (ids ids' : List Nat) :
    noteBelow above ids' (noteBelow above ids slots) = noteBelow above (ids ++ ids') slots := by
  rcases above with _ | ⟨p, path⟩
  · rfl
  · rw [noteBelow, noteBelow, List.modify_modify_eq]
    simp only [Function.comp_def, List.append_assoc]
    rfl

theorem noteBelow_nil : noteBelow above [] slots = slots := by
  rcases above with _ | ⟨p, path⟩
  · rfl
  · simp only [noteBelow, List.append_nil]
    exact List.modify_id p slots

/-- What is noted below the last slot is all that is noted there. -/
theorem noteBelow_last {p : Nat} (h : p = slots.length) (r : Row) (path : FilePath)
    (ids : List Nat) :
    noteBelow (some (p, path)) ids (slots ++ [⟨r, []⟩]) = slots ++ [⟨r, ids⟩] := by
  subst h
  exact modify_last slots _ _

end noteBelow

/-- A row that names a slot as the one above it names one that is there. -/
def IsNoted (above : Option (Nat × FilePath)) (t : Numbered) : Prop :=
  ∀ p path, above = some (p, path) → p < t.next

namespace Numbered

mutual

/-- A node on a stack gets its number, and all nodes below it get theirs, before what lies under it
on the stack. -/
theorem number_cons (depth : Nat) (parent : Option (Nat × FilePath)) :
    ∀ (n : Node) (t : Numbered) (stack : List Pending), IsNoted parent t →
      ∃ t' : Numbered, t.number (⟨depth, parent, n⟩ :: stack) = t'.number stack ∧
        t'.slots = noteBelow parent [t.next] t.slots ++
          (Node.rowsFrom t.next depth parent n).map Row.slot
  | .file p f, t, stack, _ => by
    refine ⟨t.add ⟨depth, parent, .file p f⟩, ?_, rfl⟩
    rw [number]
    rfl
  | .directory p ns, t, stack, _ => by
    have hlength : t.next = (noteBelow parent [t.next] t.slots).length :=
      (length_noteBelow _ _ _).symm
    have hnoted : IsNoted (some (t.next, p)) (t.add ⟨depth, parent, .directory p ns⟩) := by
      rintro _ _ ⟨⟩
      rw [next_add]
      exact Nat.lt_succ_self t.next
    obtain ⟨t', hrun, hslots⟩ := number_append (depth + 1) (some (t.next, p)) ns
      (t.add ⟨depth, parent, .directory p ns⟩) stack hnoted
    refine ⟨t', ?_, ?_⟩
    · rw [number]
      exact hrun
    · rw [hslots, next_add, slots_add, slotsWith, noteBelow_last hlength, Node.rowsFrom,
        List.append_assoc]
      rfl

theorem number_append (depth : Nat) (parent : Option (Nat × FilePath)) :
    ∀ (ns : List Node) (t : Numbered) (stack : List Pending), IsNoted parent t →
      ∃ t' : Numbered,
        t.number ((ns.map fun n => ⟨depth, parent, n⟩) ++ stack) = t'.number stack ∧
        t'.slots = noteBelow parent (Row.siblingIds t.next ns) t.slots ++
          (Node.rowsAll t.next depth parent ns).map Row.slot
  | [], t, stack, _ => ⟨t, rfl, by
      rw [Row.siblingIds, noteBelow_nil, Node.rowsAll]
      exact (List.append_nil _).symm⟩
  | n :: ns, t, stack, hnoted => by
    obtain ⟨t₁, hfirst, hslots₁⟩ := number_cons depth parent n t
      ((ns.map fun n => ⟨depth, parent, n⟩) ++ stack) hnoted
    have hnext : t₁.next = t.next + n.count := by
      rw [next, hslots₁, List.length_append, length_noteBelow, List.length_map,
        Node.length_rowsFrom]
      rfl
    have hle : t.next ≤ t₁.next := hnext ▸ Nat.le_add_right _ _
    obtain ⟨t₂, hrest, hslots₂⟩ := number_append depth parent ns t₁ stack
      fun p path h => Nat.lt_of_lt_of_le (hnoted p path h) hle
    have hthere : ∀ p path, parent = some (p, path) →
        p < (noteBelow parent [t.next] t.slots).length := by
      rw [length_noteBelow]
      exact hnoted
    refine ⟨t₂, hfirst.trans hrest, ?_⟩
    rw [hslots₂, hnext, hslots₁, noteBelow_append hthere, noteBelow_noteBelow, Node.rowsAll,
      List.map_append, List.append_assoc]
    rfl

end

end Numbered

namespace Numbered

theorem eventsFrom_of_slot {t : Numbered} {id : Nat} {x : Slot} (h : t.slots[id]? = some x) :
    t.eventsFrom id = .ofRow x.row :: x.children.flatMap t.eventsFrom := by
  rw [eventsFrom]
  split
  · next hnone => cases h.symm.trans hnone
  · next y hy =>
    cases h.symm.trans hy
    rw [List.flatMap_def, List.flatMap_def, List.attach_map_val]

mutual

/-- Following the numbers from a node down meets the slots of its rows in their order. -/
theorem eventsFrom_row {t : Numbered} (depth : Nat) (parent : Option (Nat × FilePath)) :
    ∀ (n : Node) (before behind : List Slot),
      t.slots = before ++ (Node.rowsFrom before.length depth parent n).map Row.slot ++ behind →
      t.eventsFrom before.length =
        (Node.rowsFrom before.length depth parent n).map Event.ofRow
  | .file p f, before, behind, hslots => by
    have hslot : t.slots[before.length]? =
        some (Row.slot ⟨before.length, depth, parent, .file p f⟩) := by
      rw [hslots]
      simp [Node.rowsFrom]
    rw [eventsFrom_of_slot hslot]
    rfl
  | .directory p ns, before, behind, hslots => by
    rw [Node.rowsFrom, List.map_cons] at hslots
    have hslot : t.slots[before.length]? =
        some (Row.slot ⟨before.length, depth, parent, .directory p ns⟩) := by
      rw [hslots]
      simp
    have hbelow := flatMap_eventsFrom (t := t) (depth + 1) (some (before.length, p)) ns
      (before ++ [Row.slot ⟨before.length, depth, parent, .directory p ns⟩]) behind
    rw [List.length_append, List.length_singleton] at hbelow
    have hchildren := hbelow (by rw [hslots]; simp)
    rw [eventsFrom_of_slot hslot, Node.rowsFrom, List.map_cons, ← hchildren]
    rfl

theorem flatMap_eventsFrom {t : Numbered} (depth : Nat) (parent : Option (Nat × FilePath)) :
    ∀ (ns : List Node) (before behind : List Slot),
      t.slots = before ++ (Node.rowsAll before.length depth parent ns).map Row.slot ++ behind →
      (Row.siblingIds before.length ns).flatMap t.eventsFrom =
        (Node.rowsAll before.length depth parent ns).map Event.ofRow
  | [], _, _, _ => rfl
  | n :: ns, before, behind, hslots => by
    rw [Node.rowsAll, List.map_append] at hslots
    have hfirst := eventsFrom_row (t := t) depth parent n before
      ((Node.rowsAll (before.length + n.count) depth parent ns).map Row.slot ++ behind)
    have hrest := flatMap_eventsFrom (t := t) depth parent ns
      (before ++ (Node.rowsFrom before.length depth parent n).map Row.slot) behind
    rw [List.length_append, List.length_map, Node.length_rowsFrom] at hrest
    rw [Row.siblingIds, List.flatMap_cons, hfirst (by rw [hslots]; simp),
      hrest (by rw [hslots]; simp), Node.rowsAll, List.map_append]

end

end Numbered

namespace Node

mutual

/-- A node and then all nodes below it, those below an earlier child before a later child. -/
def preorder : Node → List Node
  | file p r => [file p r]
  | directory p ns => directory p ns :: preorderAll ns

/-- `preorder` of every node of a list, one after the other. -/
def preorderAll : List Node → List Node
  | [] => []
  | n :: ns => preorder n ++ preorderAll ns

end

mutual

theorem map_node_rowsFrom (id depth : Nat) (parent : Option (Nat × FilePath)) :
    ∀ n : Node, (rowsFrom id depth parent n).map Row.node = n.preorder
  | file _ _ => rfl
  | directory p ns =>
    congrArg (directory p ns :: ·) (map_node_rowsAll (id + 1) (depth + 1) (some (id, p)) ns)

theorem map_node_rowsAll (id depth : Nat) (parent : Option (Nat × FilePath)) :
    ∀ ns : List Node, (rowsAll id depth parent ns).map Row.node = preorderAll ns
  | [] => rfl
  | n :: ns => by
    rw [rowsAll, List.map_append, map_node_rowsFrom, map_node_rowsAll, preorderAll]

end

variable {root : Node} {r : Row}

theorem map_id_rows (root : Node) : root.rows.map Row.id = List.range' 0 root.count :=
  map_id_rowsFrom 0 0 none root

/-- A row has the number of its place. -/
theorem getElem?_rows {i : Nat} (h : root.rows[i]? = some r) : r.id = i := by
  have hid : (root.rows.map Row.id)[i]? = some r.id := by rw [List.getElem?_map, h]; rfl
  rw [map_id_rows] at hid
  obtain ⟨hlt, hi⟩ := List.getElem?_eq_some_iff.1 hid
  rw [← hi, List.getElem_range', Nat.one_mul, Nat.zero_add]

theorem getElem?_rows_id (hr : r ∈ root.rows) : root.rows[r.id]? = some r := by
  obtain ⟨i, hi⟩ := List.mem_iff_getElem?.1 hr
  rwa [getElem?_rows hi]

/-- Every row but the first is one of those right below another row. -/
theorem exists_above (hr : r ∈ root.rows) (hid : r.id ≠ 0) :
    ∃ a ∈ root.rows, r.parent = some (a.id, a.node.path) ∧ r ∈ a.childRows := by
  obtain ⟨a, ha, hparent⟩ : ∃ a ∈ root.rows, r.parent = some (a.id, a.node.path) := by
    cases root with
    | file p f =>
      cases List.mem_singleton.1 hr
      exact absurd rfl hid
    | directory p ns =>
      rcases List.mem_cons.1 hr with rfl | hr
      · exact absurd rfl hid
      · obtain ⟨n, -, ⟨hparent, -⟩ | ⟨a, ha, hparent, -⟩⟩ := hangs_rowsAll 1 1 (some (0, p)) ns r hr
        · exact ⟨_, List.mem_cons_self, hparent⟩
        · exact ⟨a, List.mem_cons_of_mem _ ha, hparent⟩
  refine ⟨a, ha, hparent, ?_⟩
  rw [← rowsUnder_of_mem_rows ha]
  exact List.mem_filter.2 ⟨hr, by simp [Row.above?, hparent]⟩

/-- A row is the first one, or one of those right below another row. -/
theorem rows_cases (hr : r ∈ root.rows) :
    r = ⟨0, 0, none, root⟩ ∨
      ∃ a ∈ root.rows, r.parent = some (a.id, a.node.path) ∧ r ∈ a.childRows := by
  by_cases hid : r.id = 0
  · have hfirst := getElem?_rows_id root.root_mem_rows
    have hplace := getElem?_rows_id hr
    rw [hid] at hplace
    exact .inl (Option.some.inj (hplace.symm.trans hfirst))
  · exact .inr (exists_above hr hid)

/-- A row that names another one as the one above it is one of those right below that row. -/
theorem mem_childRows {a : Row} (ha : a ∈ root.rows) (hr : r ∈ root.rows)
    (hnext : r.above? = some a.id) :
    r.parent = some (a.id, a.node.path) ∧ r ∈ a.childRows := by
  rcases rows_cases hr with rfl | ⟨b, hb, hparent, hchild⟩
  · cases hnext
  · have hid : b.id = a.id := by
      rw [Row.above?, hparent] at hnext
      exact Option.some.inj hnext
    have hab := (getElem?_rows_id hb).symm.trans (hid ▸ getElem?_rows_id ha)
    cases Option.some.inj hab
    exact ⟨hparent, hchild⟩

end Node

namespace Node

theorem before_iff {a b : Node} : a.before b = true ↔ a.path.text ≤ b.path.text :=
  decide_eq_true_iff

theorem before_trans (a b c : Node) (hab : a.before b = true) (hbc : b.before c = true) :
    a.before c = true :=
  before_iff.2 (String.le_trans (before_iff.1 hab) (before_iff.1 hbc))

theorem before_total (a b : Node) : (a.before b || b.before a) = true := by
  rw [Bool.or_eq_true, before_iff, before_iff]
  exact String.le_total _ _

end Node

/-- Two trees of the same nodes. In the second one the children of every directory stand in the
order of the bytes of their paths, and those of one path as they do in the first one. -/
inductive Arranged : Node → Node → Prop where
  | file (p : FilePath) (r : FileRecord) : Arranged (.file p r) (.file p r)
  | directory {p : FilePath} {ns ms cs : List Node} (each : List.Forall₂ Arranged ns ms)
      (perm : cs.Perm ms)
      (ordered : cs.Pairwise fun a b =>
        Text.encodeUtf8 a.path.text ≤ Text.encodeUtf8 b.path.text)
      (ties : ∀ text, cs.filter (fun n => n.path.text = text) =
        ms.filter fun n => n.path.text = text) :
      Arranged (.directory p ns) (.directory p cs)

mutual

theorem arranged_sorted : ∀ n : Node, Arranged n n.sorted
  | .file p r => .file p r
  | .directory p ns => by
    refine .directory (forall₂_sortedAll ns) (List.mergeSort_perm _ _) ?_ fun text => ?_
    · exact (List.pairwise_mergeSort Node.before_trans Node.before_total _).imp
        fun hbefore => Text.encodeUtf8_le (Node.before_iff.1 hbefore)
    · refine filter_mergeSort Node.before_trans Node.before_total fun a _ b _ ha hb => ?_
      rw [decide_eq_true_eq] at ha hb
      exact Node.before_iff.2 (ha.trans hb.symm ▸ String.le_refl _)

theorem forall₂_sortedAll : ∀ ns : List Node, List.Forall₂ Arranged ns (Node.sortedAll ns)
  | [] => .nil
  | n :: ns => .cons (arranged_sorted n) (forall₂_sortedAll ns)

end

/-- The tree that a layout puts together, before its siblings are put in order. -/
def attached (layout : Layout) (s : Snapshot) : Node :=
  match layout with
  | .flat => flatTree (entries s)
  | .packages => packageTree (commonDirectory s) (entries s)
  | .nested => nestedTree (entries s)

theorem tree_eq (layout : Layout) (s : Snapshot) : tree layout s = (attached layout s).sorted := by
  cases layout <;> rfl

end Coverage.Report
