import Coverage.Report.Tree

/-!
# The rows of a report tree

The rows of a node are numbered from its own number on, one after the other (`map_id_rowsFrom`). So
the rows that name a row as the one above them are those of its children, wherever in a tree it
stands (`rowsUnder_of_mem_rows`), and the files right below a row are those that lie directly in its
node (`recordsUnder_eq_ownRecords`).
-/

namespace Coverage.Report

namespace Row

/-- The number of the row above a row. -/
def above? (r : Row) : Option Nat := r.parent.map (·.1)

/-- The rows of a list of siblings, the first of which has the number `id`. -/
def siblingRows (id depth : Nat) (parent : Option (Nat × FilePath)) : List Node → List Row
  | [] => []
  | n :: ns => ⟨id, depth, parent, n⟩ :: siblingRows (id + n.count) depth parent ns

/-- The rows of the nodes directly below a row. -/
def childRows (r : Row) : List Row :=
  siblingRows (r.id + 1) (r.depth + 1) (some (r.id, r.node.path)) r.node.children

@[simp] theorem map_node_siblingRows (id depth : Nat) (parent : Option (Nat × FilePath))
    (ns : List Node) : (siblingRows id depth parent ns).map Row.node = ns := by
  induction ns generalizing id with
  | nil => rfl
  | cons n ns ih => rw [siblingRows, List.map_cons, ih]

theorem le_id_of_mem_siblingRows {id depth : Nat} {parent : Option (Nat × FilePath)}
    {ns : List Node} {r : Row} (h : r ∈ siblingRows id depth parent ns) : id ≤ r.id := by
  induction ns generalizing id with
  | nil => cases h
  | cons n ns ih =>
    rcases List.mem_cons.1 h with rfl | h
    · exact Nat.le_refl id
    · exact Nat.le_trans (Nat.le_add_right id _) (ih h)

/-- A row stands before the rows right below it. -/
theorem id_lt_of_mem_childRows {a r : Row} (h : r ∈ a.childRows) : a.id < r.id :=
  le_id_of_mem_siblingRows h

@[simp] theorem map_node_childRows (r : Row) : r.childRows.map Row.node = r.node.children :=
  map_node_siblingRows _ _ _ _

end Row

/-- The rows right below the row with a number. -/
def rowsUnder (rows : List Row) (id : Nat) : List Row := rows.filter fun r => r.above? = some id

/-- The records of the files right below the row with a number. -/
def recordsUnder (rows : List Row) (id : Nat) : List FileRecord :=
  rows.filterMap fun r => if r.above? = some id then r.node.record? else none

theorem rowsUnder_append (rows rows' : List Row) (id : Nat) :
    rowsUnder (rows ++ rows') id = rowsUnder rows id ++ rowsUnder rows' id :=
  List.filter_append _ _

theorem rowsUnder_cons (r : Row) (rows : List Row) (id : Nat) :
    rowsUnder (r :: rows) id = (if r.above? = some id then [r] else []) ++ rowsUnder rows id := by
  rw [rowsUnder, List.filter_cons]
  by_cases h : r.above? = some id
  · rw [if_pos h, if_pos (decide_eq_true h)]
    rfl
  · rw [if_neg h, if_neg (by simpa using h)]
    rfl

theorem recordsUnder_eq (rows : List Row) (id : Nat) :
    recordsUnder rows id = (rowsUnder rows id).filterMap fun r => r.node.record? := by
  rw [recordsUnder, rowsUnder, List.filterMap_filter]
  simp only [decide_eq_true_eq]

namespace Node

mutual

/-- The rows of a node have the numbers from its own on, as many as it counts. -/
theorem map_id_rowsFrom (id depth : Nat) (parent : Option (Nat × FilePath)) :
    ∀ n : Node, (rowsFrom id depth parent n).map Row.id = List.range' id n.count
  | file p f => rfl
  | directory p ns => by
    rw [rowsFrom, List.map_cons, map_id_rowsAll (id + 1) (depth + 1) (some (id, p)) ns, count,
      List.range'_succ]

theorem map_id_rowsAll (id depth : Nat) (parent : Option (Nat × FilePath)) :
    ∀ ns : List Node, (rowsAll id depth parent ns).map Row.id = List.range' id (countAll ns)
  | [] => rfl
  | n :: ns => by
    rw [rowsAll, List.map_append, map_id_rowsFrom id depth parent n,
      map_id_rowsAll (id + n.count) depth parent ns, countAll, List.range'_append_1]

end

theorem length_rowsFrom (id depth : Nat) (parent : Option (Nat × FilePath)) (n : Node) :
    (rowsFrom id depth parent n).length = n.count := by
  rw [← List.length_map, map_id_rowsFrom, List.length_range']

theorem id_mem_rowsFrom {id depth : Nat} {parent : Option (Nat × FilePath)} {n : Node} {r : Row}
    (hr : r ∈ rowsFrom id depth parent n) : id ≤ r.id ∧ r.id < id + n.count := by
  have hmem : r.id ∈ List.range' id n.count :=
    map_id_rowsFrom id depth parent n ▸ List.mem_map_of_mem hr
  exact List.mem_range'_1.1 hmem

theorem id_mem_rowsAll {id depth : Nat} {parent : Option (Nat × FilePath)} {ns : List Node}
    {r : Row} (hr : r ∈ rowsAll id depth parent ns) : id ≤ r.id ∧ r.id < id + countAll ns := by
  have hmem : r.id ∈ List.range' id (countAll ns) :=
    map_id_rowsAll id depth parent ns ▸ List.mem_map_of_mem hr
  exact List.mem_range'_1.1 hmem

mutual

/-- Among the rows of a node only its own can be right below a row that is none of them. -/
theorem rowsUnder_rowsFrom {above id : Nat} (depth : Nat) (parent : Option (Nat × FilePath)) :
    ∀ n : Node, above < id ∨ id + n.count ≤ above →
      rowsUnder (rowsFrom id depth parent n) above =
        if parent.map (·.1) = some above then [⟨id, depth, parent, n⟩] else []
  | file p f, _ => by
    rw [rowsFrom, rowsUnder_cons]
    exact List.append_nil _
  | directory p ns, h => by
    rw [count] at h
    have hne : ¬ (some (id, p)).map (·.1) = some above := by
      intro heq
      have : id = above := Option.some.inj heq
      omega
    rw [rowsFrom, rowsUnder_cons, rowsUnder_rowsAll (depth + 1) (some (id, p)) ns (by omega),
      if_neg hne, List.append_nil]
    rfl

theorem rowsUnder_rowsAll {above id : Nat} (depth : Nat) (parent : Option (Nat × FilePath)) :
    ∀ ns : List Node, above < id ∨ id + countAll ns ≤ above →
      rowsUnder (rowsAll id depth parent ns) above =
        if parent.map (·.1) = some above then Row.siblingRows id depth parent ns else []
  | [], _ => by
    rw [rowsAll, Row.siblingRows, ite_self]
    rfl
  | n :: ns, h => by
    rw [countAll] at h
    rw [rowsAll, rowsUnder_append, rowsUnder_rowsFrom depth parent n (by omega),
      rowsUnder_rowsAll depth parent ns (by omega), Row.siblingRows]
    split
    · rfl
    · rfl

end

mutual

/-- Right below a row are the rows of its children. -/
theorem rowsUnder_of_mem_rowsFrom (id depth : Nat) (parent : Option (Nat × FilePath)) :
    ∀ n : Node, (∀ above, parent.map (·.1) = some above → above < id) →
      ∀ r ∈ rowsFrom id depth parent n,
        rowsUnder (rowsFrom id depth parent n) r.id = r.childRows
  | file p f, habove, r, hr => by
    rw [rowsFrom, List.mem_singleton] at hr
    subst hr
    have hne : ¬ parent.map (·.1) = some id := fun h => Nat.lt_irrefl id (habove id h)
    rw [rowsFrom, rowsUnder_cons]
    exact congrArg (· ++ []) (if_neg hne)
  | directory p ns, habove, r, hr => by
    have hne : ∀ k, id ≤ k → ¬ parent.map (·.1) = some k :=
      fun k hk h => Nat.not_lt.2 hk (habove k h)
    rw [rowsFrom, List.mem_cons] at hr
    rw [rowsFrom, rowsUnder_cons]
    rcases hr with rfl | hr
    · rw [rowsUnder_rowsAll (depth + 1) (some (id, p)) ns (.inl (Nat.lt_succ_self id))]
      rw [Row.above?, if_neg (hne id (Nat.le_refl id))]
      exact if_pos rfl
    · have hid := (id_mem_rowsAll hr).1
      rw [Row.above?, if_neg (hne r.id (by omega)), List.nil_append]
      refine rowsUnder_of_mem_rowsAll (id + 1) (depth + 1) (some (id, p)) ns ?_ r hr
      rintro above ⟨⟩
      exact Nat.lt_succ_self id

theorem rowsUnder_of_mem_rowsAll (id depth : Nat) (parent : Option (Nat × FilePath)) :
    ∀ ns : List Node, (∀ above, parent.map (·.1) = some above → above < id) →
      ∀ r ∈ rowsAll id depth parent ns,
        rowsUnder (rowsAll id depth parent ns) r.id = r.childRows
  | [], _, r, hr => absurd hr List.not_mem_nil
  | n :: ns, habove, r, hr => by
    have hne : ∀ k, id ≤ k → ¬ parent.map (·.1) = some k :=
      fun k hk h => Nat.not_lt.2 hk (habove k h)
    rw [rowsAll, List.mem_append] at hr
    rw [rowsAll, rowsUnder_append]
    -- The rows of the siblings are below other rows.
    rcases hr with hr | hr
    · have hid := id_mem_rowsFrom hr
      rw [rowsUnder_of_mem_rowsFrom id depth parent n habove r hr,
        rowsUnder_rowsAll depth parent ns (.inl hid.2), if_neg (hne r.id hid.1),
        List.append_nil]
    · have hid := (id_mem_rowsAll hr).1
      rw [rowsUnder_rowsFrom depth parent n (.inr hid), if_neg (hne r.id (by omega)),
        List.nil_append]
      refine rowsUnder_of_mem_rowsAll (id + n.count) depth parent ns (fun k hk => ?_) r hr
      exact Nat.lt_of_lt_of_le (habove k hk) (Nat.le_add_right id _)

end

/-- The root has the first row. -/
theorem root_mem_rows : ∀ n : Node, ⟨0, 0, none, n⟩ ∈ n.rows
  | file _ _ => List.mem_cons_self
  | directory _ _ => List.mem_cons_self

/-- Right below a row of a tree are the rows of its children. -/
theorem rowsUnder_of_mem_rows {n : Node} {r : Row} (hr : r ∈ n.rows) :
    rowsUnder n.rows r.id = r.childRows :=
  rowsUnder_of_mem_rowsFrom 0 0 none n nofun r hr

/-- Right below a row of a tree are the files that lie directly in its node. -/
theorem recordsUnder_eq_ownRecords {n : Node} {r : Row} (hr : r ∈ n.rows) :
    recordsUnder n.rows r.id = r.node.ownRecords := by
  rw [recordsUnder_eq, rowsUnder_of_mem_rows hr, ownRecords, ← r.map_node_childRows,
    List.filterMap_map]
  rfl

/-- A directory sums up the files right below its row, where there are any. -/
theorem ownSummary?_of_mem_rows {n : Node} {r : Row} (hr : r ∈ n.rows)
    (hdirectory : r.node.isDirectory = true) :
    r.node.ownSummary? = if (recordsUnder n.rows r.id).isEmpty then none
      else some (.sum ((recordsUnder n.rows r.id).map FileRecord.summary)) := by
  rw [recordsUnder_eq_ownRecords hr]
  cases hnode : r.node with
  | file p f =>
    rw [hnode] at hdirectory
    cases hdirectory
  | directory p ns => rfl

end Node

end Coverage.Report
