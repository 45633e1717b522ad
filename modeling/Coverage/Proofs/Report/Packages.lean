import Coverage.Proofs.FilePath
import Coverage.Proofs.Report.CommonDirectory
import Mathlib.Data.List.Basic
import Mathlib.Data.List.Nodup
import Mathlib.Data.List.Induction

/-!
# Packages

Files are put into groups one by one, each into that of its directory (`putPackage_of_mem`,
`putPackage_of_new`). The directories are told apart by their texts, which differ where the paths
do, so in the end there is one group for every directory that holds a file (`packages_entries`).

A single group is the root. Of several none has the path of the root, for a segment comes in front
of all paths if some file lies in the common directory (`packageTree_eq`, `isRoot_lifted`).
-/

namespace Coverage.Report

/-! ### Groups -/

/-- The group of a directory: the leaves of its files, in the order of the files. -/
def groupOf (es : List Entry) (d : FilePath) : FilePath × List Node :=
  (d, (es.filter fun e => e.path.directory = d).map Entry.leaf)

section Put

variable {es : List Entry} {ds : List FilePath} (e : Entry)

/-- A further file changes the group of its directory, and no other one. -/
theorem groupOf_append (d : FilePath) :
    groupOf (es ++ [e]) d =
      if e.path.directory = d then (d, (groupOf es d).2 ++ [e.leaf]) else groupOf es d := by
  by_cases h : e.path.directory = d <;> simp [groupOf, List.filter_append, h]

theorem map_groupOf_append (h : e.path.directory ∉ ds) :
    ds.map (groupOf (es ++ [e])) = ds.map (groupOf es) := by
  refine List.map_congr_left fun d hd => ?_
  have hne : e.path.directory ≠ d := fun heq => h (heq ▸ hd)
  rw [groupOf_append, if_neg hne]

section Proper

variable (hproper : ∀ d ∈ ds, d.Proper) (he : e.path.directory.Proper)
include hproper he

/-- A file of a known directory goes to the end of the group of that directory. -/
theorem putPackage_of_mem (hnodup : ds.Nodup) (h : e.path.directory ∈ ds) :
    putPackage e (ds.map (groupOf es)) = ds.map (groupOf (es ++ [e])) := by
  induction ds with
  | nil => cases h
  | cons d ds ih =>
    obtain ⟨hd, hnodup⟩ := List.nodup_cons.1 hnodup
    obtain ⟨hdproper, hproper⟩ := List.forall_mem_cons.1 hproper
    rw [List.map_cons, List.map_cons, groupOf, putPackage, groupOf_append]
    by_cases heq : d = e.path.directory
    · rw [if_pos (congrArg _ heq), if_pos heq.symm, map_groupOf_append e (heq ▸ hd)]
      rfl
    · have hrest := (List.mem_cons.1 h).resolve_left (Ne.symm heq)
      have htext : d.text ≠ e.path.directory.text := fun htext =>
        heq (hdproper.eq_of_text he htext)
      rw [if_neg htext, if_neg (Ne.symm heq), ih hproper hnodup hrest]
      rfl

/-- A file of a new directory becomes a group of its own. -/
theorem putPackage_of_new (hnew : e.path.directory ∉ ds)
    (hnone : ∀ e' ∈ es, e'.path.directory ≠ e.path.directory) :
    putPackage e (ds.map (groupOf es)) =
      (ds ++ [e.path.directory]).map (groupOf (es ++ [e])) := by
  have hempty : (groupOf es e.path.directory).2 = [] := by
    refine List.map_eq_nil_iff.2 (List.filter_eq_nil_iff.2 fun e' he' heq => ?_)
    exact hnone e' he' (of_decide_eq_true heq)
  have hgroup : groupOf (es ++ [e]) e.path.directory = (e.path.directory, [e.leaf]) := by
    rw [groupOf_append, if_pos rfl, hempty, List.nil_append]
  rw [List.map_append, map_groupOf_append e hnew, List.map_singleton, hgroup]
  clear hempty hgroup hnone
  induction ds with
  | nil => rfl
  | cons d ds ih =>
    rw [List.mem_cons, not_or] at hnew
    obtain ⟨hdproper, hproper⟩ := List.forall_mem_cons.1 hproper
    have htext : d.text ≠ e.path.directory.text := fun htext =>
      hnew.1 (hdproper.eq_of_text he htext).symm
    rw [List.map_cons, groupOf, putPackage, if_neg htext, ih hproper hnew.2]
    rfl

end Proper

end Put

/-- After all files there is one group for every directory of a file, with the files of that
directory. -/
theorem groups_eq (es : List Entry) (hproper : ∀ e ∈ es, e.path.directory.Proper) :
    ∃ ds : List FilePath, ds.Nodup ∧ (∀ d, d ∈ ds ↔ ∃ e ∈ es, e.path.directory = d) ∧
      es.foldl (fun acc e => putPackage e acc) [] = ds.map (groupOf es) := by
  induction es using List.reverseRecOn with
  | nil => exact ⟨[], .nil, by simp, rfl⟩
  | append_singleton es e ih =>
    obtain ⟨hes, he⟩ := List.forall_mem_append.1 hproper
    have he := he e List.mem_cons_self
    obtain ⟨ds, hnodup, hmem, hgroups⟩ := ih hes
    have hds : ∀ d ∈ ds, d.Proper := by
      intro d hd
      obtain ⟨e', he', rfl⟩ := (hmem d).1 hd
      exact hes e' he'
    rw [List.foldl_append, hgroups, List.foldl_cons, List.foldl_nil]
    have hfurther : ∀ d, (∃ e' ∈ es ++ [e], e'.path.directory = d) ↔
        d ∈ ds ∨ e.path.directory = d := fun d => by
      simp only [List.mem_append, List.mem_singleton, or_and_right, exists_or, exists_eq_left,
        hmem]
    by_cases h : e.path.directory ∈ ds
    · refine ⟨ds, hnodup, fun d => ?_, putPackage_of_mem e hds he hnodup h⟩
      exact ⟨fun hd => (hfurther d).2 (.inl hd), fun hd =>
        ((hfurther d).1 hd).elim id fun heq => heq ▸ h⟩
    · have hnone : ∀ e' ∈ es, e'.path.directory ≠ e.path.directory := fun e' he' heq =>
        h ((hmem _).2 ⟨e', he', heq⟩)
      refine ⟨ds ++ [e.path.directory], ?_, fun d => ?_, putPackage_of_new e hds he h hnone⟩
      · exact hnodup.append (List.nodup_singleton _) (List.disjoint_singleton.2 h)
      · rw [hfurther, List.mem_append, List.mem_singleton, eq_comm (a := d)]

theorem packages_eq (es : List Entry) (hproper : ∀ e ∈ es, e.path.directory.Proper) :
    ∃ ds : List FilePath, ds.Nodup ∧ (∀ d, d ∈ ds ↔ ∃ e ∈ es, e.path.directory = d) ∧
      packages es = ds.map fun d => .directory d (groupOf es d).2 := by
  obtain ⟨ds, hnodup, hmem, hgroups⟩ := groups_eq es hproper
  refine ⟨ds, hnodup, hmem, ?_⟩
  rw [packages, hgroups, List.map_map]
  rfl

/-! ### Paths of the layout -/

/-- A path of a snapshot from the common directory on, with a segment in front of it if some file
lies in the common directory itself. -/
def lifted (s : Snapshot) (p : FilePath) : FilePath :=
  if ∃ r ∈ s.files, directoryOf r = commonDirectory s then
    (stripped s p).unshift (topSegment (commonDirectory s))
  else stripped s p

variable {s : Snapshot} {p q : FilePath}

/-- The path of a file is that of its directory with the name of the file behind it. -/
theorem stripped_push {r : FileRecord} (hr : r ∈ s.files)
    (hroot : (FilePath.parse r.path).isRoot = false) :
    stripped s (FilePath.parse r.path) =
      (stripped s (directoryOf r)).push (FilePath.parse r.path).name := by
  have hleads : (commonDirectory s).segments <+: (directoryOf r).segments :=
    isPrefix_commonDirectory hr
  rw [stripped, stripped, directoryOf]
  nth_rewrite 1 [← FilePath.directory_push_name hroot]
  exact FilePath.eq_of_segments (List.drop_append_of_le_length hleads.length_le)

theorem lifted_push {r : FileRecord} (hr : r ∈ s.files)
    (hroot : (FilePath.parse r.path).isRoot = false) :
    lifted s (FilePath.parse r.path) =
      (lifted s (directoryOf r)).push (FilePath.parse r.path).name := by
  rw [lifted, lifted, stripped_push hr hroot]
  split <;> rfl

/-! ### Packages of a snapshot -/

/-- The node of a directory with the files that lie in it, all of them at the places of their
paths. -/
def packageOf (place : FilePath → FilePath) (s : Snapshot) (d : FilePath) : Node :=
  .directory (place d) ((s.files.filter fun r => directoryOf r = d).map fun r =>
    .file (place (FilePath.parse r.path)) r)

/-- The packages of a snapshot are the directories that contain its files. -/
theorem packages_entries (s : Snapshot) :
    ∃ ds : List FilePath, ds.Nodup ∧ (∀ d, d ∈ ds ↔ ∃ r ∈ s.files, directoryOf r = d) ∧
      packages (entries s) = ds.map (packageOf (stripped s) s) := by
  have hproper : ∀ e ∈ entries s, e.path.directory.Proper :=
    List.forall_mem_map.2 fun r _ => ((FilePath.proper_parse r.path).strip _).directory
  obtain ⟨ds, hnodup, hmem, hpackages⟩ := packages_eq (entries s) hproper
  -- The whole path of a directory that is counted from the common one on.
  let whole (d : FilePath) : FilePath := ⟨(commonDirectory s).segments ++ d.segments⟩
  have hstripped : ∀ d, stripped s (whole d) = d := fun d =>
    FilePath.eq_of_segments List.drop_left
  have hwhole : ∀ r ∈ s.files, whole (stripped s (directoryOf r)) = directoryOf r := fun r hr =>
    FilePath.eq_of_segments (append_stripped (isPrefix_commonDirectory hr))
  have hdirectory : ∀ r ∈ s.files, ∀ d,
      (stripped s (FilePath.parse r.path)).directory = d ↔ directoryOf r = whole d := by
    intro r hr d
    rw [directory_stripped]
    exact ⟨fun h => h ▸ (hwhole r hr).symm, fun h => (congrArg _ h).trans (hstripped d)⟩
  refine ⟨ds.map whole, hnodup.map (Function.LeftInverse.injective hstripped), fun d => ?_, ?_⟩
  · rw [List.mem_map]
    constructor
    · rintro ⟨d, hd, rfl⟩
      obtain ⟨e, he, hed⟩ := (hmem d).1 hd
      obtain ⟨r, hr, rfl⟩ := List.mem_map.1 he
      exact ⟨r, hr, (hdirectory r hr d).1 hed⟩
    · rintro ⟨r, hr, rfl⟩
      refine ⟨stripped s (directoryOf r), (hmem _).2 ⟨_, List.mem_map_of_mem hr, ?_⟩, hwhole r hr⟩
      exact directory_stripped s _
  · rw [hpackages, List.map_map]
    refine List.map_congr_left fun d _ => ?_
    have hfiles : ∀ r ∈ s.files, decide ((stripped s (FilePath.parse r.path)).directory = d) =
        decide (directoryOf r = whole d) := fun r hr => decide_eq_decide.2 (hdirectory r hr d)
    rw [Function.comp_apply, packageOf, hstripped, groupOf, entries, List.filter_map,
      List.map_map]
    exact congrArg (Node.directory d <| List.map _ ·) (List.filter_congr hfiles)

theorem mapPathsAll_packageOf (f place : FilePath → FilePath) (ds : List FilePath) :
    Node.mapPathsAll f (ds.map (packageOf place s)) = ds.map (packageOf (f ∘ place) s) := by
  have hfiles : ∀ rs : List FileRecord,
      Node.mapPathsAll f (rs.map fun r => .file (place (FilePath.parse r.path)) r) =
        rs.map fun r => .file (f (place (FilePath.parse r.path))) r := by
    intro rs
    induction rs with
    | nil => rfl
    | cons r rs ih => exact congrArg (Node.file _ r :: ·) ih
  induction ds with
  | nil => rfl
  | cons d ds ih =>
    rw [List.map_cons, Node.mapPathsAll, ih, packageOf, Node.mapPaths, hfiles]
    rfl

/-- The only directory that contains files is the common directory. -/
theorem commonDirectory_of_single {d : FilePath} (hd : ∃ r ∈ s.files, directoryOf r = d)
    (honly : ∀ r ∈ s.files, directoryOf r = d) : commonDirectory s = d := by
  obtain ⟨r, hr, rfl⟩ := hd
  have hfiles : s.files ≠ [] := List.ne_nil_of_mem hr
  refine FilePath.eq_of_isPrefix_iff fun l => ?_
  rw [isPrefix_commonDirectory_iff hfiles]
  exact ⟨fun hl => hl r hr, fun hl r' hr' => honly r' hr' ▸ hl⟩

/-- A single package is the root of the tree, and several stand under a root of their own. -/
theorem packageTree_eq {ds : List FilePath}
    (hmem : ∀ d, d ∈ ds ↔ ∃ r ∈ s.files, directoryOf r = d)
    (hpackages : packages (entries s) = ds.map (packageOf (stripped s) s)) :
    (∃ d, ds = [d] ∧
      packageTree (commonDirectory s) (entries s) = packageOf (stripped s) s d) ∨
    (ds.length ≠ 1 ∧ packageTree (commonDirectory s) (entries s) =
      .directory .root (ds.map (packageOf (lifted s) s))) := by
  rw [packageTree, hpackages]
  split
  · next only heq =>
    obtain ⟨d, rfl, honly⟩ := List.map_eq_singleton_iff.1 heq
    exact .inl ⟨d, rfl, honly.symm⟩
  · next hne =>
    refine .inr ⟨fun hlength => ?_, ?_⟩
    · obtain ⟨d, rfl⟩ := List.length_eq_one_iff.1 hlength
      exact hne _ rfl
    · have hany : ((ds.map (packageOf (stripped s) s)).any fun n => n.path.isRoot) = true ↔
          ∃ r ∈ s.files, directoryOf r = commonDirectory s := by
        rw [List.any_map, List.any_eq_true]
        constructor
        · rintro ⟨d, hd, hroot⟩
          obtain ⟨r, hr, rfl⟩ := (hmem d).1 hd
          exact ⟨r, hr, (isRoot_stripped (isPrefix_commonDirectory hr)).1 hroot⟩
        · rintro ⟨r, hr, heq⟩
          exact ⟨_, (hmem _).2 ⟨r, hr, heq⟩, (isRoot_stripped List.prefix_rfl).2 rfl⟩
      have hlifted : lifted s = if ∃ r ∈ s.files, directoryOf r = commonDirectory s then
          (·.unshift (topSegment (commonDirectory s))) ∘ stripped s else stripped s := by
        funext p
        rw [lifted]
        split <;> rfl
      rw [mapPathsAll_packageOf, hlifted]
      simp only [hany]
      split <;> rfl

/-! ### Paths of packages -/

theorem proper_directoryOf (r : FileRecord) : (directoryOf r).Proper :=
  (FilePath.proper_parse r.path).directory

theorem proper_commonDirectory (s : Snapshot) : (commonDirectory s).Proper := by
  cases hfiles : s.files with
  | nil =>
    rw [commonDirectory, hfiles]
    exact FilePath.proper_root
  | cons r rs =>
    have hr : r ∈ s.files := hfiles ▸ List.mem_cons_self
    exact (proper_directoryOf r).of_isPrefix (isPrefix_commonDirectory hr)

theorem proper_lifted (h : p.Proper) : (lifted s p).Proper := by
  rw [lifted]
  split
  · refine (h.strip _).unshift ?_
    rw [topSegment]
    split
    · exact ⟨by decide, by simp [FilePath.isSeparator]⟩
    · next hroot => exact (proper_commonDirectory s).name (Bool.of_not_eq_true hroot)
  · exact h.strip _

/-- No directory that contains files has the path of the root. -/
theorem isRoot_lifted {r : FileRecord} (hr : r ∈ s.files) :
    (lifted s (directoryOf r)).isRoot = false := by
  rw [lifted]
  split
  · rfl
  · next hnone =>
    refine Bool.of_not_eq_true fun hroot => hnone ⟨r, hr, ?_⟩
    exact (isRoot_stripped (isPrefix_commonDirectory hr)).1 hroot

theorem lifted_inj (hp : (commonDirectory s).segments <+: p.segments)
    (hq : (commonDirectory s).segments <+: q.segments) : lifted s p = lifted s q ↔ p = q := by
  rw [← stripped_inj hp hq, lifted, lifted]
  split
  · exact ⟨fun h => FilePath.eq_of_segments (List.cons.inj (congrArg FilePath.segments h)).2,
      fun h => h ▸ rfl⟩
  · exact Iff.rfl

/-- Siblings that are made from a list are in order if that list is. -/
theorem sorted_directory_map (p : FilePath) (f : FilePath → Node) (ds : List FilePath) :
    ∃ ds' : List FilePath, ds'.Perm ds ∧
      (Node.directory p (ds.map f)).sorted = .directory p (ds'.map fun d => (f d).sorted) := by
  let before (a b : FilePath) : Bool := (f a).sorted.before (f b).sorted
  have hsorted : (ds.mergeSort before).map (Node.sorted ∘ f) =
      (ds.map (Node.sorted ∘ f)).mergeSort Node.before := List.map_mergeSort fun _ _ _ _ => rfl
  refine ⟨ds.mergeSort before, List.mergeSort_perm _ _, ?_⟩
  rw [Node.sorted, Node.sortedAll_eq, List.map_map, ← hsorted]
  rfl

/-- In a snapshot where each file has a path with a segment, the layout by directories has one node
for every directory that contains a file, and the files of that directory stand in it. If there is
one directory only, its node is the root of the tree. Otherwise all of them stand right below a root
with the empty path, and their paths are not empty and differ from each other. The path of a file is
that of its directory with the name of the file behind it, and all of these paths start with the
same further segment just if some file lies in the common directory itself. -/
theorem packages_tree (s : Snapshot)
    (hpaths : ∀ r ∈ s.files, (FilePath.parse r.path).isRoot = false) :
    ∃ ds : List FilePath, ds.Nodup ∧ (∀ d, d ∈ ds ↔ ∃ r ∈ s.files, directoryOf r = d) ∧
      ((∃ d, ds = [d] ∧ tree .packages s = (packageOf (stripped s) s d).sorted ∧
          stripped s d = .root ∧
          ∀ r ∈ s.files, stripped s (FilePath.parse r.path) =
            (stripped s (directoryOf r)).push (FilePath.parse r.path).name) ∨
        (ds.length ≠ 1 ∧
          tree .packages s =
            .directory .root (ds.map fun d => (packageOf (lifted s) s d).sorted) ∧
          (∀ d ∈ ds, (lifted s d).text ≠ "") ∧ (ds.map fun d => (lifted s d).text).Nodup ∧
          ∀ r ∈ s.files, lifted s (FilePath.parse r.path) =
            (lifted s (directoryOf r)).push (FilePath.parse r.path).name)) := by
  obtain ⟨ds, hnodup, hmem, hpackages⟩ := packages_entries s
  have htree : tree .packages s = (packageTree (commonDirectory s) (entries s)).sorted := rfl
  rcases packageTree_eq hmem hpackages with ⟨d, rfl, heq⟩ | ⟨hlength, heq⟩
  · refine ⟨[d], hnodup, hmem, .inl ⟨d, rfl, htree.trans (congrArg _ heq), ?_, fun r hr =>
      stripped_push hr (hpaths r hr)⟩⟩
    have honly : ∀ r ∈ s.files, directoryOf r = d := fun r hr =>
      List.mem_singleton.1 ((hmem _).2 ⟨r, hr, rfl⟩)
    rw [← commonDirectory_of_single ((hmem d).1 List.mem_cons_self) honly,
      stripped_commonDirectory]
  · obtain ⟨ds', hperm, hsorted⟩ := sorted_directory_map .root (packageOf (lifted s) s) ds
    have hmem' : ∀ d, d ∈ ds' ↔ ∃ r ∈ s.files, directoryOf r = d := fun d =>
      hperm.mem_iff.trans (hmem d)
    refine ⟨ds', hperm.nodup_iff.2 hnodup, hmem', .inr ⟨hperm.length_eq.trans_ne hlength,
      htree.trans ((congrArg _ heq).trans hsorted), fun d hd => ?_, ?_, fun r hr =>
      lifted_push hr (hpaths r hr)⟩⟩
    · obtain ⟨r, hr, rfl⟩ := (hmem' d).1 hd
      exact (proper_lifted (proper_directoryOf r)).text_ne_empty (isRoot_lifted hr)
    · refine (hperm.nodup_iff.2 hnodup).map_on fun d hd d' hd' htext => ?_
      obtain ⟨r, hr, rfl⟩ := (hmem' d).1 hd
      obtain ⟨r', hr', rfl⟩ := (hmem' d').1 hd'
      exact (lifted_inj (isPrefix_commonDirectory hr) (isPrefix_commonDirectory hr')).1
        ((proper_lifted (proper_directoryOf r)).eq_of_text
          (proper_lifted (proper_directoryOf r')) htext)

theorem packages_tree_project :
    (∀ r ∈ project.files, (FilePath.parse r.path).isRoot = false) ∧
      ∃ ds : List FilePath, ds.Perm
          [⟨["prj", "lib1"]⟩, ⟨["prj", "lib2"]⟩, ⟨["prj", "lib1", "sub", "dir"]⟩, ⟨["prj"]⟩] ∧
        tree .packages project = .directory .root
          (ds.map fun d => (packageOf (lifted project) project d).sorted) ∧
        lifted project ⟨["prj", "lib2"]⟩ = ⟨["prj", "lib2"]⟩ ∧
        lifted project ⟨["prj"]⟩ = ⟨["prj"]⟩ := by
  have hpaths : ∀ r ∈ project.files, (FilePath.parse r.path).isRoot = false := by decide
  obtain ⟨ds, hnodup, hmem, hcases⟩ := packages_tree project hpaths
  have hdirectories : project.files.map directoryOf =
      [⟨["prj", "lib1"]⟩, ⟨["prj", "lib2"]⟩, ⟨["prj", "lib1", "sub", "dir"]⟩, ⟨["prj"]⟩] := by
    decide +kernel
  have hall : ∀ d, d ∈ ds ↔ d ∈ project.files.map directoryOf := fun d =>
    (hmem d).trans List.mem_map.symm
  rw [hdirectories] at hall
  have hperm := (List.perm_ext_iff_of_nodup hnodup (by decide)).2 hall
  rcases hcases with ⟨d, rfl, -⟩ | ⟨-, htree, -⟩
  · exact absurd hperm.length_eq (by simp)
  · exact ⟨hpaths, ds, hperm, htree, by decide +kernel, by decide +kernel⟩

end Coverage.Report
