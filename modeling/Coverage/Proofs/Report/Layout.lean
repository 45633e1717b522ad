import Coverage.Proofs.Report.Rows
import Coverage.Proofs.Report.Tree
import Coverage.Report.Layout

/-!
# No layout loses a file

Each layout puts the files of a snapshot into its tree one by one, and putting in a file adds that
file and nothing else. Folding, renaming and putting siblings in order leave the files what they
are, so the files of a report tree are those of its snapshot (`records_tree`). The whole tree of
directories has no place for a file whose path has no segment.
-/

namespace Coverage

namespace FilePath

theorem commonStart_prefix_left : ∀ as bs : List String, commonStart as bs <+: as
  | [], _ => List.nil_prefix
  | _ :: _, [] => List.nil_prefix
  | a :: as, b :: bs => by
    rw [commonStart]
    split
    · exact List.cons_prefix_cons.2 ⟨rfl, commonStart_prefix_left as bs⟩
    · exact List.nil_prefix

theorem commonStart_comm : ∀ as bs : List String, commonStart as bs = commonStart bs as
  | [], [] => rfl
  | [], _ :: _ => rfl
  | _ :: _, [] => rfl
  | a :: as, b :: bs => by
    rw [commonStart, commonStart]
    by_cases h : a = b
    · rw [if_pos h, if_pos h.symm, h, commonStart_comm as bs]
    · rw [if_neg h, if_neg fun h' => h h'.symm]

theorem commonStart_prefix_right (as bs : List String) : commonStart as bs <+: bs :=
  commonStart_comm bs as ▸ commonStart_prefix_left bs as

/-- What several paths have in common leads to each of them. -/
theorem isPrefix_foldl_common (ps : List FilePath) (q : FilePath) :
    (ps.foldl common q).segments <+: q.segments ∧
      ∀ p ∈ ps, (ps.foldl common q).segments <+: p.segments := by
  induction ps generalizing q with
  | nil => exact ⟨List.prefix_rfl, nofun⟩
  | cons p ps ih =>
    obtain ⟨hfirst, hrest⟩ := ih (q.common p)
    refine ⟨hfirst.trans (commonStart_prefix_left _ _), fun r hr => ?_⟩
    rcases List.mem_cons.1 hr with rfl | hr
    · exact hfirst.trans (commonStart_prefix_right _ _)
    · exact hrest r hr

end FilePath

namespace Report

open Node (records)

/-! ## Entries -/

variable {s : Snapshot}

/-- The common directory leads to the directory of every file. -/
theorem isPrefix_commonDirectory {r : FileRecord} (hr : r ∈ s.files) :
    (commonDirectory s).segments <+: (FilePath.parse r.path).directory.segments := by
  have hmem := List.mem_map_of_mem (f := fun r => (FilePath.parse r.path).directory) hr
  rw [commonDirectory]
  split
  · exact List.nil_prefix
  · rename_i first rest heq
    rw [heq] at hmem
    obtain ⟨hfirst, hrest⟩ := FilePath.isPrefix_foldl_common rest first
    rcases List.mem_cons.1 hmem with h | h
    · exact h ▸ hfirst
    · exact hrest _ h

/-- A file whose path has a segment keeps one behind the common directory. -/
theorem isRoot_of_mem_entries (h : ∀ r ∈ s.files, (FilePath.parse r.path).isRoot = false) :
    ∀ e ∈ entries s, e.path.isRoot = false := by
  intro e he
  obtain ⟨r, hr, rfl⟩ := List.mem_map.1 he
  have hroot := h r hr
  have hle := (isPrefix_commonDirectory hr).length_le
  rw [FilePath.directory_segments, List.length_dropLast] at hle
  simp only [FilePath.isRoot, FilePath.strip, FilePath.size, List.isEmpty_eq_false_iff_exists_mem,
    ← List.length_pos_iff_exists_mem, List.length_drop] at hroot ⊢
  omega

theorem map_record_entries (s : Snapshot) : (entries s).map Entry.record = s.files := by
  rw [entries, List.map_map]
  exact List.map_id s.files

/-! ## All files under one root -/

theorem records_flatTree (es : List Entry) : (flatTree es).records = es.map Entry.record := by
  rw [flatTree, Node.records_directory, List.flatMap_map]
  exact List.flatMap_pure_eq_map _ es

/-! ## One node for every directory that holds a file -/

/-- Putting a file into the node of its directory adds that file. -/
theorem records_putPackage (e : Entry) (acc : List (FilePath × List Node)) :
    ((putPackage e acc).flatMap fun d => d.2.flatMap records).Perm
      ((acc.flatMap fun d => d.2.flatMap records) ++ [e.record]) := by
  induction acc with
  | nil => exact .refl _
  | cons d acc ih =>
    obtain ⟨p, ns⟩ := d
    rw [putPackage]
    split
    · simp only [List.flatMap_cons, List.flatMap_append, List.flatMap_nil, List.append_nil,
        List.append_assoc]
      exact List.perm_append_comm.append_left _
    · rw [List.flatMap_cons, List.flatMap_cons, List.append_assoc]
      exact ih.append_left _

/-- The directories that hold files hold all of them. -/
theorem records_packages (es : List Entry) :
    ((packages es).flatMap records).Perm (es.map Entry.record) := by
  have hrun : ∀ (es : List Entry) (acc : List (FilePath × List Node)),
      ((es.foldl (fun acc e => putPackage e acc) acc).flatMap fun d => d.2.flatMap records).Perm
        ((acc.flatMap fun d => d.2.flatMap records) ++ es.map Entry.record) := by
    intro es
    induction es with
    | nil => exact fun acc => .of_eq (List.append_nil _).symm
    | cons e es ih =>
      intro acc
      refine (ih (putPackage e acc)).trans ?_
      rw [List.map_cons, ← List.singleton_append, ← List.append_assoc]
      exact (records_putPackage e acc).append_right _
  rw [packages, List.flatMap_map]
  simpa using hrun es []

theorem records_packageTree (common : FilePath) (es : List Entry) :
    (packageTree common es).records.Perm (es.map Entry.record) := by
  have hpackages := records_packages es
  rw [packageTree]
  split
  · rename_i only heq
    rwa [heq, List.flatMap_singleton] at hpackages
  · split
    · rwa [Node.records_directory, Node.flatMap_records_mapPathsAll]
    · rwa [Node.records_directory]

/-! ## The whole tree of directories -/

@[simp] theorem records_chain (leaf : Node) (here : FilePath) (names : List String) :
    (chain leaf here names).records = leaf.records := by
  induction names generalizing here with
  | nil => rfl
  | cons name names ih => rw [chain, Node.records_directory, List.flatMap_singleton, ih]

theorem isDirectory_putNested (leaf : Node) (names : List String) (n : Node) :
    (putNested leaf names n).isDirectory = n.isDirectory := by
  cases n with
  | file p r => rfl
  | directory p ns => cases names <;> rfl

mutual

/-- Putting a file into a directory adds that file. -/
theorem records_putNested (leaf : Node) (names : List String) :
    ∀ n : Node, n.isDirectory = true →
      (putNested leaf names n).records.Perm (n.records ++ leaf.records)
  | .file _ _, h => absurd h Bool.false_ne_true
  | .directory p ns, _ => by
    cases names with
    | nil =>
      rw [putNested, Node.records_directory, Node.records_directory, List.flatMap_append,
        List.flatMap_singleton]
    | cons name names =>
      rw [putNested, Node.records_directory, Node.records_directory]
      exact records_putBelow leaf p name names ns

theorem records_putBelow (leaf : Node) (here : FilePath) (name : String) (names : List String) :
    ∀ ns : List Node,
      ((putBelow leaf here name names ns).flatMap records).Perm (ns.flatMap records ++ leaf.records)
  | [] => by
    rw [putBelow, List.flatMap_singleton, Node.records_directory, List.flatMap_singleton,
      records_chain]
    exact .refl _
  | n :: ns => by
    rw [putBelow]
    split
    · rename_i h
      rw [List.flatMap_cons, List.flatMap_cons]
      have hput := records_putNested leaf names n (Bool.and_eq_true_iff.1 h).1
      refine (hput.append_right _).trans ?_
      rw [List.append_assoc, List.append_assoc]
      exact List.perm_append_comm.append_left _
    · rw [List.flatMap_cons, List.flatMap_cons, List.append_assoc]
      exact (records_putBelow leaf here name names ns).append_left _

end

mutual

/-- Folding directories away keeps the files as they stand. -/
@[simp] theorem records_fold : ∀ n : Node, (fold n).records = n.records
  | .file _ _ => rfl
  | .directory p ns => by
    have hall := flatMap_records_foldAll ns
    unfold fold
    split
    · rename_i q ms only heq
      rw [heq, List.flatMap_singleton] at hall
      rw [hall, Node.records_directory]
    · rw [Node.records_directory, hall, Node.records_directory]

theorem flatMap_records_foldAll :
    ∀ ns : List Node, (foldAll ns).flatMap records = ns.flatMap records
  | [] => rfl
  | n :: ns => by
    rw [foldAll, List.flatMap_cons, List.flatMap_cons, records_fold, flatMap_records_foldAll]

end

theorem records_nestedTree {es : List Entry} (h : ∀ e ∈ es, e.path.isRoot = false) :
    (nestedTree es).records.Perm (es.map Entry.record) := by
  have hrun : ∀ (es : List Entry) (root : Node), (∀ e ∈ es, e.path.isRoot = false) →
      root.isDirectory = true →
      (es.foldl (fun root e => if e.path.isRoot then root
        else putNested e.leaf e.path.directory.segments root) root).records.Perm
        (root.records ++ es.map Entry.record) := by
    intro es
    induction es with
    | nil => exact fun root _ _ => .of_eq (List.append_nil _).symm
    | cons e es ih =>
      intro root hes hroot
      obtain ⟨he, hes⟩ := List.forall_mem_cons.1 hes
      rw [List.foldl_cons, he, if_neg Bool.false_ne_true, List.map_cons, ← List.singleton_append,
        ← List.append_assoc]
      refine (ih _ hes ((isDirectory_putNested _ _ _).trans hroot)).trans ?_
      exact (records_putNested e.leaf _ root hroot).append_right _
  rw [nestedTree, records_fold]
  exact hrun es (.directory .root []) h rfl

/-! ## Report trees -/

/-- The files of a report tree are those of its snapshot. -/
theorem records_tree (layout : Layout)
    (h : ∀ r ∈ s.files, (FilePath.parse r.path).isRoot = false) :
    (tree layout s).records.Perm s.files := by
  rw [← map_record_entries s]
  cases layout with
  | flat => exact (Node.records_sorted _).trans (.of_eq (records_flatTree _))
  | packages => exact (Node.records_sorted _).trans (records_packageTree _ _)
  | nested =>
    exact (Node.records_sorted _).trans (records_nestedTree (isRoot_of_mem_entries h))

/-- In every layout a walk meets each file of a snapshot exactly once, provided that every path has
a segment, and the tree comes to the summary of the snapshot. Each row of a tree sums up the files
that a walk meets from its node on, and that of a directory the files right below it, if there are
any. -/
theorem records_summary_tree :
    (∀ (layout : Layout) (s : Snapshot),
      (∀ r ∈ s.files, (FilePath.parse r.path).isRoot = false) →
      (tree layout s).records.Perm s.files ∧ (tree layout s).summary = s.summary) ∧
    ∀ n : Node, ∀ r ∈ n.rows,
      r.node.summary = .sum (r.node.records.map FileRecord.summary) ∧
      (r.node.isDirectory = true → r.node.ownSummary? =
        if (recordsUnder n.rows r.id).isEmpty then none
        else some (.sum ((recordsUnder n.rows r.id).map FileRecord.summary))) := by
  have hsum : ∀ n : Node, n.summary = .sum (n.records.map FileRecord.summary) := by
    intro n
    rw [n.summary_eq, Summary.sum_eq]
  constructor
  · intro layout s h
    have hperm := records_tree layout h
    refine ⟨hperm, ?_⟩
    rw [hsum, Snapshot.summary]
    exact Summary.sum_perm (hperm.map _)
  · intro n r hr
    exact ⟨hsum r.node, Node.ownSummary?_of_mem_rows hr⟩

/-- A file with one statement that ran once. -/
def ranOnce (path : String) : FileRecord :=
  { FileRecord.empty path with
    statements := Table.empty.insert 0 default
    statementHits := Table.empty.insert 0 1 }

/-- The files of one project, one of them in the directory that contains all the others. -/
def project : Snapshot :=
  ⟨[ranOnce "/prj/lib1/file3.js", ranOnce "/prj/lib2/file4.js",
    ranOnce "/prj/lib1/sub/dir/file2.js", ranOnce "/prj/file1.js"], by decide⟩

theorem records_summary_tree_project :
    (∀ r ∈ project.files, (FilePath.parse r.path).isRoot = false) ∧
      (tree .nested project).records.Perm project.files ∧
      (tree .nested project).summary.statements = ⟨4, 4, 0⟩ ∧
      (nestedTree (entries project)).isDirectory = true ∧
      (nestedTree (entries project)).ownSummary?.map (fun t => t.statements) =
        some ⟨1, 1, 0⟩ := by
  have hpaths : ∀ r ∈ project.files, (FilePath.parse r.path).isRoot = false := by decide
  have hdirectory : (nestedTree (entries project)).isDirectory = true := by decide +kernel
  obtain ⟨hfiles, hsummary⟩ := records_summary_tree.1 .nested project hpaths
  have hown := (records_summary_tree.2 _ _ (nestedTree (entries project)).root_mem_rows).2
  -- Unless the row is opened first, matching it with its node runs the layout.
  dsimp only at hown
  refine ⟨hpaths, hfiles, ?_, hdirectory, ?_⟩
  · rw [hsummary]
    rfl
  · rw [hown hdirectory]
    decide +kernel

end Report

end Coverage
