import Coverage.Proofs.Summary
import Coverage.Report.Tree

/-!
# What a report tree holds

The files of a node are read off its rows, so they are the files that a walk meets. Those of a
directory are the files of its children one after the other, and its summary is the sum over them;
the order of the children shows only in the order of the files.
-/

namespace Coverage.Report.Node

/-- The records of the files that a walk meets from a node on. -/
def records (n : Node) : List FileRecord := n.rows.filterMap fun r => r.node.record?

@[simp] theorem records_file (p : FilePath) (r : FileRecord) : (file p r).records = [r] := rfl

mutual

/-- Neither numbers nor depths nor the node above matter for the files of a row. -/
theorem filterMap_rowsFrom (id depth : Nat) (parent : Option (Nat × FilePath)) :
    ∀ n : Node, ((rowsFrom id depth parent n).filterMap fun r => r.node.record?) = n.records
  | file _ _ => rfl
  | directory p ns => by
    have hrow (id depth : Nat) (parent : Option (Nat × FilePath)) :
        ((rowsFrom id depth parent (directory p ns)).filterMap fun r => r.node.record?) =
          ns.flatMap records := filterMap_rowsAll (id + 1) (depth + 1) (some (id, p)) ns
    rw [hrow, records, rows, hrow]

theorem filterMap_rowsAll (id depth : Nat) (parent : Option (Nat × FilePath)) :
    ∀ ns : List Node,
      ((rowsAll id depth parent ns).filterMap fun r => r.node.record?) = ns.flatMap records
  | [] => rfl
  | n :: ns => by
    rw [rowsAll, List.filterMap_append, filterMap_rowsFrom, filterMap_rowsAll, List.flatMap_cons]

end

/-- The files of a directory are those of its children. -/
@[simp] theorem records_directory (p : FilePath) (ns : List Node) :
    (directory p ns).records = ns.flatMap records :=
  filterMap_rowsAll 1 1 (some (0, p)) ns

/-! ## Order and paths -/

mutual

theorem records_sorted : ∀ n : Node, n.sorted.records.Perm n.records
  | file _ _ => .refl _
  | directory p ns => by
    rw [sorted, records_directory, records_directory]
    exact ((List.mergeSort_perm _ _).flatMap_right _).trans (flatMap_records_sortedAll ns)

theorem flatMap_records_sortedAll :
    ∀ ns : List Node, ((sortedAll ns).flatMap records).Perm (ns.flatMap records)
  | [] => .refl _
  | n :: ns => by
    rw [sortedAll, List.flatMap_cons, List.flatMap_cons]
    exact (records_sorted n).append (flatMap_records_sortedAll ns)

end

mutual

theorem records_mapPaths (f : FilePath → FilePath) : ∀ n : Node, (n.mapPaths f).records = n.records
  | file _ _ => rfl
  | directory p ns => by
    rw [mapPaths, records_directory, records_directory, flatMap_records_mapPathsAll]

theorem flatMap_records_mapPathsAll (f : FilePath → FilePath) :
    ∀ ns : List Node, (mapPathsAll f ns).flatMap records = ns.flatMap records
  | [] => rfl
  | n :: ns => by
    rw [mapPathsAll, List.flatMap_cons, List.flatMap_cons, records_mapPaths,
      flatMap_records_mapPathsAll]

end

/-! ## Sums -/

mutual

/-- A node sums up the files that a walk meets from it on. -/
theorem summary_eq : ∀ n : Node, n.summary = (n.records.map FileRecord.summary).sum
  | file _ r => (add_zero r.summary).symm
  | directory p ns => by
    rw [summary, summaryAll_eq, Summary.zero_def, zero_add, records_directory]

theorem summaryAll_eq (s : Summary) :
    ∀ ns : List Node,
      summaryAll s ns = s + ((ns.flatMap records).map FileRecord.summary).sum
  | [] => (add_zero s).symm
  | n :: ns => by
    rw [summaryAll, summaryAll_eq, summary_eq, List.flatMap_cons, List.map_append, List.sum_append,
      add_assoc]

end

end Coverage.Report.Node
