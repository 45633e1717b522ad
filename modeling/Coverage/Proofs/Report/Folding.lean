import Coverage.Proofs.Report.Nested
import Mathlib.Data.List.Nodup
import Mathlib.Data.List.Pairwise

/-!
# The folded tree of directories

Folding leaves no directory that holds one directory and nothing else (`folds_fold`), so the
directories that are left are those that a file lies in and those where the ways to two files part
(`mem_directories_iff`).

The root stays because the common directory is the deepest one: if all that lies in it were one
directory, that one would be common as well (`ne_singleton_of_placed`).
-/

namespace Coverage.Report

open Coverage.Report.Node (Throughout)

/-! ### Folding -/

/-- A directory holds a file or at least two things, as after folding. -/
structure Folded (p : FilePath) (ns : List Node) : Prop extends Siblings p ns where
  holds : (∃ n ∈ ns, n.isDirectory = false) ∨ 2 ≤ ns.length

theorem Folded.siblings {n : Node} (h : Throughout Folded n) : Throughout Siblings n :=
  h.imp fun _ _ => (·.toSiblings)

theorem foldAll_eq (ns : List Node) : foldAll ns = ns.map fold := by
  induction ns with
  | nil => rfl
  | cons n ns ih => rw [foldAll, ih, List.map_cons]

theorem fold_single (p q : FilePath) (ms : List Node) :
    fold (.directory p [.directory q ms]) = fold (.directory q ms) := rfl

theorem fold_of_ne {p : FilePath} {ns : List Node} (h : ∀ q ms, ns ≠ [.directory q ms]) :
    fold (.directory p ns) = .directory p (ns.map fold) := by
  rw [fold, foldAll_eq]
  exact fun q ms _ heq => absurd heq (h q ms)

/-- A directory that is not folded away holds a file or at least two things. -/
theorem exists_file_or_two {ns : List Node} (hfilled : ns ≠ [])
    (hne : ∀ q ms, ns ≠ [.directory q ms]) :
    (∃ n ∈ ns, n.isDirectory = false) ∨ 2 ≤ ns.length := by
  rcases ns with _ | ⟨n, _ | ⟨m, ns⟩⟩
  · exact absurd rfl hfilled
  · cases n with
    | file q r => exact .inl ⟨.file q r, List.mem_cons_self, rfl⟩
    | directory q ms => exact absurd rfl (hne q ms)
  · exact .inr (Nat.le_add_left _ _)

/-- What folding makes of a node. -/
structure FoldsTo (n n' : Node) : Prop where
  leads : n.path.segments <+: n'.path.segments
  isDirectory : n'.isDirectory = n.isDirectory
  filled : n.isDirectory = true → n'.children ≠ []
  folded : Throughout Folded n'
  placedIn : ∀ p, n'.placedIn p = n.placedIn p

/-- Folding takes nothing out of a tree but directories that hold one directory and nothing
else. -/
theorem folds_fold {n : Node} (h : Throughout Siblings n)
    (hfilled : n.isDirectory = true → n.children ≠ []) : FoldsTo n (fold n) := by
  induction h with
  | file p r =>
    rw [fold]
    exact ⟨List.prefix_rfl, rfl, fun h => absurd h Bool.false_ne_true, .file p r, fun _ => rfl⟩
  | @directory p ns own children ih =>
    have ih : ∀ n ∈ ns, FoldsTo n (fold n) := fun n hn => ih n hn (own.filled n hn)
    by_cases hsingle : ∃ q ms, ns = [.directory q ms]
    · obtain ⟨q, ms, rfl⟩ := hsingle
      have hone := ih _ List.mem_cons_self
      have hlead := (FilePath.isAbove_iff.1 (own.above _ List.mem_cons_self)).1
      rw [fold_single]
      refine ⟨hlead.trans hone.leads, hone.isDirectory, fun _ => hone.filled rfl, hone.folded,
        fun p' => (hone.placedIn p').trans ?_⟩
      rw [Node.placedIn, Node.placedIn, Node.placed_directory p, List.flatMap_singleton,
        Node.placedIn]
    · have hne : ∀ q ms, ns ≠ [.directory q ms] := fun q ms heq => hsingle ⟨q, ms, heq⟩
      have hsiblings : Siblings p (ns.map fold) :=
        own.map (fun n hn => (ih n hn).leads) (fun n hn => (ih n hn).isDirectory)
          fun n hn => (ih n hn).filled
      rw [fold_of_ne hne]
      refine ⟨List.prefix_rfl, rfl, fun _ => ?_, .directory ⟨hsiblings, ?_⟩ ?_, fun p' => ?_⟩
      · simpa [Node.children] using hfilled rfl
      · refine (exists_file_or_two (hfilled rfl) hne).imp ?_ fun hlength => ?_
        · rintro ⟨n, hn, hfile⟩
          exact ⟨fold n, List.mem_map_of_mem hn, (ih n hn).isDirectory.trans hfile⟩
        · exact (List.length_map fold).symm ▸ hlength
      · exact List.forall_mem_map.2 fun n hn => (ih n hn).folded
      · rw [Node.placedIn, Node.placedIn, Node.placed_directory, Node.placed_directory,
          List.flatMap_map]
        exact List.flatMap_congr fun n hn => (ih n hn).placedIn p

/-! ### Putting siblings in order -/

namespace Node

theorem sortedAll_eq (ns : List Node) : sortedAll ns = ns.map sorted := by
  induction ns with
  | nil => rfl
  | cons n ns ih => rw [sortedAll, ih, List.map_cons]

@[simp] theorem path_sorted (n : Node) : n.sorted.path = n.path := by
  cases n <;> rfl

@[simp] theorem isDirectory_sorted (n : Node) : n.sorted.isDirectory = n.isDirectory := by
  cases n <;> rfl

theorem children_sorted (n : Node) : n.sorted.children.Perm (n.children.map sorted) := by
  cases n with
  | file p r => exact .refl _
  | directory p ns => exact sortedAll_eq ns ▸ List.mergeSort_perm _ _

theorem children_sorted_ne_nil {n : Node} (h : n.children ≠ []) : n.sorted.children ≠ [] := by
  intro hnil
  have hlength := (children_sorted n).length_eq
  rw [hnil, List.length_map] at hlength
  exact h (List.length_eq_zero_iff.1 hlength.symm)

theorem placedIn_sorted {P : FilePath → List Node → Prop} {n : Node} (h : Throughout P n)
    (p : FilePath) : (n.sorted.placedIn p).Perm (n.placedIn p) := by
  induction h generalizing p with
  | file q r => exact .refl _
  | @directory q ns _ _ ih =>
    rw [sorted, placedIn, placedIn, placed_directory, placed_directory]
    refine ((children_sorted (.directory q ns)).flatMap_right _).trans ?_
    rw [List.flatMap_map]
    exact List.Perm.flatMap_left ns fun n hn => ih n hn q

/-- What holds of every directory holds of it when the siblings are in order, if it does not depend
on their order. -/
theorem Throughout.sorted {P : FilePath → List Node → Prop} {n : Node} (h : Throughout P n)
    (hP : ∀ p ns, P p ns → P p (Node.directory p ns).sorted.children) : Throughout P n.sorted := by
  induction h with
  | file p r => exact .file p r
  | @directory p ns own _ ih =>
    refine .directory (hP p ns own) fun n hn => ?_
    obtain ⟨m, hm, rfl⟩ := List.mem_map.1 ((children_sorted (Node.directory p ns)).mem_iff.1 hn)
    exact ih m hm

end Node

theorem folded_sorted {n : Node} (h : Throughout Folded n) : Throughout Folded n.sorted := by
  refine h.sorted fun p ns own => ?_
  have hperm := Node.children_sorted (.directory p ns)
  have hsiblings : Siblings p (ns.map Node.sorted) :=
    own.toSiblings.map (fun n _ => n.path_sorted ▸ List.prefix_rfl)
      (fun n _ => n.isDirectory_sorted)
      fun n hn hdirectory => Node.children_sorted_ne_nil (own.filled n hn hdirectory)
  refine ⟨hsiblings.of_perm hperm, own.holds.imp ?_ fun hlength => ?_⟩
  · rintro ⟨n, hn, hfile⟩
    exact ⟨n.sorted, hperm.mem_iff.2 (List.mem_map_of_mem hn), n.isDirectory_sorted.trans hfile⟩
  · exact (hperm.length_eq.trans (List.length_map _)).symm ▸ hlength

/-! ### The directories of a folded tree -/

section Folded

variable {n : Node} {a b q : FilePath}

theorem leads_of_mem_directories (h : Throughout Siblings n) (hq : q ∈ n.directories) :
    n.path.segments <+: q.segments := by
  induction h with
  | file p r => cases hq
  | @directory p ns own _ ih =>
    rw [Node.directories_directory] at hq
    rcases List.mem_cons.1 hq with rfl | hq
    · exact List.prefix_rfl
    · obtain ⟨n, hn, hq⟩ := List.mem_flatMap.1 hq
      exact (FilePath.isAbove_iff.1 (own.above n hn)).1.trans (ih n hn hq)

theorem isDirectory_of_mem_directories (hq : q ∈ n.directories) : n.isDirectory = true := by
  cases n with
  | file p r => cases hq
  | directory p ns => rfl

/-- Directories below two siblings part where those do. -/
theorem Siblings.common_eq {p : FilePath} {ns : List Node} (h : Siblings p ns) {m : Node}
    (hm : m ∈ ns) (hn : n ∈ ns) (hne : m ≠ n) (hmd : m.isDirectory = true)
    (hnd : n.isDirectory = true) (ha : m.path.segments <+: a.segments)
    (hb : n.path.segments <+: b.segments) : a.common b = p := by
  have hsymm : Std.Symm fun m n : Node =>
      m.isDirectory = true → n.isDirectory = true → m.path.common n.path = p :=
    ⟨fun m n hmn hnd hmd => FilePath.common_comm _ _ ▸ hmn hmd hnd⟩
  have hparted := h.parted.forall hm hn hne hmd hnd
  exact FilePath.common_of_parted (h.above m hm) (h.above n hn) hparted ha hb

/-- No two directories have one path. -/
theorem nodup_directories (h : Throughout Siblings n) : n.directories.Nodup := by
  induction h with
  | file p r => exact .nil
  | @directory p ns own children ih =>
    rw [Node.directories_directory, List.nodup_cons, List.nodup_flatMap]
    refine ⟨fun hp => ?_, ih, own.parted.imp_of_mem fun {m n} hm hn hmn => ?_⟩
    · obtain ⟨n, hn, hp⟩ := List.mem_flatMap.1 hp
      obtain ⟨hlead, hne⟩ := FilePath.isAbove_iff.1 (own.above n hn)
      have hback := leads_of_mem_directories (children n hn) hp
      exact hne (FilePath.eq_of_segments (hlead.eq_of_length_le hback.length_le))
    · intro q hqm hqn
      have hm' := leads_of_mem_directories (children m hm) hqm
      have hn' := leads_of_mem_directories (children n hn) hqn
      have hparted := hmn (isDirectory_of_mem_directories hqm) (isDirectory_of_mem_directories hqn)
      have hp := FilePath.common_of_parted (own.above m hm) (own.above n hn) hparted hm' hn'
      rw [FilePath.common_eq_left List.prefix_rfl] at hp
      obtain ⟨hlead, hne⟩ := FilePath.isAbove_iff.1 (own.above m hm)
      exact hne (FilePath.eq_of_segments (hlead.eq_of_length_le (hp ▸ hm'.length_le)))

/-- The place where the ways to two directories part is a directory. -/
theorem common_mem_directories (h : Throughout Siblings n) (ha : a ∈ n.directories)
    (hb : b ∈ n.directories) : a.common b ∈ n.directories := by
  induction h with
  | file p r => cases ha
  | @directory p ns own children ih =>
    have hleadsA := leads_of_mem_directories (.directory own children) ha
    have hleadsB := leads_of_mem_directories (.directory own children) hb
    rw [Node.directories_directory] at ha hb ⊢
    rcases List.mem_cons.1 ha with rfl | ha
    · exact FilePath.common_eq_left hleadsB ▸ List.mem_cons_self
    rcases List.mem_cons.1 hb with rfl | hb
    · rw [FilePath.common_comm]
      exact FilePath.common_eq_left hleadsA ▸ List.mem_cons_self
    obtain ⟨m, hm, ha⟩ := List.mem_flatMap.1 ha
    obtain ⟨n, hn, hb⟩ := List.mem_flatMap.1 hb
    by_cases heq : m = n
    · subst heq
      exact List.mem_cons_of_mem p (List.mem_flatMap.2 ⟨m, hm, ih m hm ha hb⟩)
    · rw [own.common_eq hm hn heq (isDirectory_of_mem_directories ha)
        (isDirectory_of_mem_directories hb) (leads_of_mem_directories (children m hm) ha)
        (leads_of_mem_directories (children n hn) hb)]
      exact List.mem_cons_self

/-- The node above a file is a directory of the tree. -/
theorem above_mem_directories {P : FilePath → List Node → Prop} (h : Throughout P n) {e : Entry}
    (he : (some q, e) ∈ n.placed) : q ∈ n.directories := by
  induction h with
  | file p r => simp [Node.placed, Node.rows, Node.rowsFrom, Row.placed?, Node.record?] at he
  | @directory p ns own children ih =>
    rw [Node.placed_directory] at he
    rw [Node.directories_directory]
    obtain ⟨n, hn, he⟩ := List.mem_flatMap.1 he
    cases n with
    | file p' r =>
      cases List.mem_singleton.1 he
      exact List.mem_cons_self
    | directory p' ms => exact List.mem_cons_of_mem p (List.mem_flatMap.2 ⟨_, hn, ih _ hn he⟩)

/-- A directory that is not empty leads to one that holds a file. -/
theorem exists_placed (h : Throughout Siblings n) (hdirectory : n.isDirectory = true)
    (hfilled : n.children ≠ []) :
    ∃ q e, (some q, e) ∈ n.placed ∧ n.path.segments <+: q.segments := by
  induction h with
  | file p r => cases hdirectory
  | @directory p ns own children ih =>
    rw [Node.placed_directory]
    obtain ⟨n, hn⟩ := List.exists_mem_of_ne_nil ns hfilled
    cases n with
    | file p' r =>
      exact ⟨p, ⟨p', r⟩, List.mem_flatMap.2 ⟨_, hn, List.mem_cons_self⟩, List.prefix_rfl⟩
    | directory p' ms =>
      obtain ⟨q, e, he, hleads⟩ := ih _ hn rfl (own.filled _ hn rfl)
      refine ⟨q, e, List.mem_flatMap.2 ⟨_, hn, he⟩, ?_⟩
      exact (FilePath.isAbove_iff.1 (own.above _ hn)).1.trans hleads

theorem mem_placed_of_mem {p : FilePath} {ns : List Node} (hn : n ∈ ns)
    (hdirectory : n.isDirectory = true) {x : Option FilePath × Entry} (hx : x ∈ n.placed) :
    x ∈ (Node.directory p ns).placed := by
  rw [Node.placed_directory]
  exact List.mem_flatMap.2 ⟨n, hn, Node.placedIn_of_isDirectory hdirectory p ▸ hx⟩

/-- In a directory that is left by folding a file lies, or the ways to two files part there. -/
theorem Folded.exists_common {p : FilePath} {ns : List Node} (h : Folded p ns)
    (hchildren : ∀ n ∈ ns, Throughout Siblings n) :
    ∃ a b d e, (some a, d) ∈ (Node.directory p ns).placed ∧
      (some b, e) ∈ (Node.directory p ns).placed ∧ p = a.common b := by
  by_cases hfile : ∃ n ∈ ns, n.isDirectory = false
  · obtain ⟨n, hn, hnd⟩ := hfile
    cases n with
    | directory q ms => cases hnd
    | file q r =>
      have hplaced : (some p, ⟨q, r⟩) ∈ (Node.directory p ns).placed := by
        rw [Node.placed_directory]
        exact List.mem_flatMap.2 ⟨_, hn, List.mem_cons_self⟩
      exact ⟨p, p, _, _, hplaced, hplaced, (FilePath.common_eq_left List.prefix_rfl).symm⟩
  · have hall : ∀ n ∈ ns, n.isDirectory = true := fun n hn =>
      Bool.of_not_eq_false fun hnd => hfile ⟨n, hn, hnd⟩
    obtain ⟨m, n, hm, hn, hparted⟩ : ∃ m n, m ∈ ns ∧ n ∈ ns ∧
        (m.isDirectory = true → n.isDirectory = true → m.path.common n.path = p) := by
      match ns, h.holds.resolve_left hfile, h.parted with
      | m :: n :: rest, _, hparted =>
        exact ⟨m, n, List.mem_cons_self, List.mem_cons_of_mem m List.mem_cons_self,
          (List.pairwise_cons.1 hparted).1 n List.mem_cons_self⟩
    have hmd := hall m hm
    have hnd := hall n hn
    obtain ⟨a, d, ha, hleadsA⟩ := exists_placed (hchildren m hm) hmd (h.filled m hm hmd)
    obtain ⟨b, e, hb, hleadsB⟩ := exists_placed (hchildren n hn) hnd (h.filled n hn hnd)
    have hcommon := FilePath.common_of_parted (h.above m hm) (h.above n hn) (hparted hmd hnd)
      hleadsA hleadsB
    exact ⟨a, b, d, e, mem_placed_of_mem hm hmd ha, mem_placed_of_mem hn hnd hb, hcommon.symm⟩

theorem exists_common_of_mem_directories (h : Throughout Folded n) (hq : q ∈ n.directories) :
    ∃ a b d e, (some a, d) ∈ n.placed ∧ (some b, e) ∈ n.placed ∧ q = a.common b := by
  induction h with
  | file p r => cases hq
  | @directory p ns own children ih =>
    rw [Node.directories_directory] at hq
    rcases List.mem_cons.1 hq with rfl | hq
    · exact own.exists_common fun n hn => Folded.siblings (children n hn)
    · obtain ⟨n, hn, hq⟩ := List.mem_flatMap.1 hq
      obtain ⟨a, b, d, e, ha, hb, heq⟩ := ih n hn hq
      have hdirectory := isDirectory_of_mem_directories hq
      exact ⟨a, b, d, e, mem_placed_of_mem hn hdirectory ha, mem_placed_of_mem hn hdirectory hb,
        heq⟩

/-- The directories of a folded tree are those that a file lies in and those where the ways to two
files part. -/
theorem mem_directories_iff (h : Throughout Folded n) :
    q ∈ n.directories ↔
      ∃ a b d e, (some a, d) ∈ n.placed ∧ (some b, e) ∈ n.placed ∧ q = a.common b := by
  refine ⟨exists_common_of_mem_directories h, ?_⟩
  rintro ⟨a, b, d, e, ha, hb, rfl⟩
  exact common_mem_directories (Folded.siblings h) (above_mem_directories h ha)
    (above_mem_directories h hb)

end Folded

/-! ### The root -/

variable {s : Snapshot}

/-- The common directory is the deepest that leads to the directory of every file. -/
theorem isPrefix_commonDirectory_of {l : List String} (hfiles : s.files ≠ [])
    (h : ∀ r ∈ s.files, l <+: (FilePath.parse r.path).directory.segments) :
    l <+: (commonDirectory s).segments := by
  rw [commonDirectory]
  split
  · next hnil => exact absurd (List.map_eq_nil_iff.1 hnil) hfiles
  · next first rest heq =>
    have hall : ∀ p ∈ first :: rest, l <+: p.segments := heq ▸ List.forall_mem_map.2 h
    obtain ⟨hfirst, hrest⟩ := List.forall_mem_cons.1 hall
    exact FilePath.isPrefix_foldl_common_of rest first hfirst hrest

/-- No directory but the root leads to the directories of all files of a report. -/
theorem exists_not_leads (hfiles : s.files ≠ []) {q : FilePath} (hq : q ≠ .root) :
    ∃ e ∈ entries s, ¬ q.segments <+: e.path.directory.segments := by
  by_contra hall
  have hdeeper : (commonDirectory s).segments ++ q.segments <+: (commonDirectory s).segments := by
    refine isPrefix_commonDirectory_of hfiles fun r hr => ?_
    have hleads := not_not.1 fun hnot => hall ⟨_, List.mem_map_of_mem hr, hnot⟩
    obtain ⟨rest, hrest⟩ := isPrefix_commonDirectory hr
    rw [FilePath.directory_strip, FilePath.strip, ← hrest, FilePath.size, List.drop_left] at hleads
    exact hrest ▸ (List.prefix_append_right_inj _).2 hleads
  have hlength := hdeeper.length_le
  rw [List.length_append] at hlength
  exact hq (FilePath.eq_of_segments (List.length_eq_zero_iff.1 (by omega)))

/-- The directory that contains all files holds a file or at least two things. -/
theorem ne_singleton_of_placed {ns : List Node} (h : Throughout Branching (.directory .root ns))
    (hfiles : s.files ≠ [])
    (hplaced : (Node.directory .root ns).placed.Perm
      ((entries s).map fun e => (some e.path.directory, e))) :
    ∀ q ms, ns ≠ [.directory q ms] := by
  rintro q ms rfl
  obtain ⟨t, ht⟩ := h.own.next _ List.mem_cons_self rfl
  have hq : q ≠ .root := fun hroot => by
    have hlength := congrArg (fun q => q.segments.length) (hroot.symm.trans ht)
    simp [FilePath.root, FilePath.push] at hlength
  obtain ⟨e, he, hnot⟩ := exists_not_leads hfiles hq
  have hmem := hplaced.mem_iff.2 (List.mem_map_of_mem (f := fun e => (some e.path.directory, e)) he)
  rw [Node.placed_directory, List.flatMap_singleton] at hmem
  have hbelow := h.child List.mem_cons_self
  exact hnot (leads_of_mem_directories (Branching.siblings hbelow)
    (above_mem_directories hbelow hmem))

/-- The tree of directories, folded, keeps the common directory as its root, and every file lies in
the directory that contains it. -/
theorem folds_nestedTree (hfiles : s.files ≠ [])
    (hpaths : ∀ r ∈ s.files, (FilePath.parse r.path).isRoot = false) :
    (nestedTree (entries s)).isDirectory = true ∧ (nestedTree (entries s)).path = .root ∧
      Throughout Folded (nestedTree (entries s)) ∧
      (nestedTree (entries s)).placed.Perm
        ((entries s).map fun e => (some e.path.directory, e)) := by
  obtain ⟨hdirectory, hpath, hbranching, hplaced⟩ :=
    branching_unfoldedTree (isRoot_of_mem_entries hpaths)
  have htree : nestedTree (entries s) = fold (unfoldedTree (entries s)) := rfl
  rw [htree]
  cases hroot : unfoldedTree (entries s) with
  | file p r => rw [hroot] at hdirectory; cases hdirectory
  | directory p ns =>
    rw [hroot] at hpath hbranching hplaced
    cases hpath
    have hfilled : ns ≠ [] := by
      rintro rfl
      have hlength := hplaced.length_eq
      rw [Node.placed_directory, List.length_map, entries, List.length_map] at hlength
      exact hfiles (List.length_eq_zero_iff.1 hlength.symm)
    have hfold := folds_fold (Branching.siblings hbranching) fun _ => hfilled
    refine ⟨hfold.isDirectory, ?_, hfold.folded, ?_⟩
    · rw [fold_of_ne (ne_singleton_of_placed hbranching hfiles hplaced)]
      rfl
    · rw [← Node.placedIn_of_isDirectory hfold.isDirectory .root, hfold.placedIn]
      exact hplaced

/-- In a snapshot with files, each of which has a path with a segment, the tree of directories has
the empty path at its root, and every file stands below the row of exactly the directory that
contains it. Every other row stands below the row of a directory that its node lies in, and its path
goes on from that of the directory. No two directories have one path, and each of them holds a file
or at least two things. The directories are those that a file lies in and those where the ways to
two files part, so no other directory is folded away than one that holds one directory and nothing
else. -/
theorem folded_tree (s : Snapshot) (hfiles : s.files ≠ [])
    (hpaths : ∀ r ∈ s.files, (FilePath.parse r.path).isRoot = false) :
    (tree .nested s).isDirectory = true ∧ (tree .nested s).path = .root ∧
      (tree .nested s).placed.Perm ((entries s).map fun e => (some e.path.directory, e)) ∧
      (∀ r ∈ (tree .nested s).rows, r.parent = none ∧ r.node = tree .nested s ∨
        ∃ a ∈ (tree .nested s).rows, r.parent = some (a.id, a.node.path) ∧
          a.node.isDirectory = true ∧ r.node ∈ a.node.children ∧
          a.node.path.isAbove r.node.path = true) ∧
      (tree .nested s).directories.Nodup ∧
      (∀ r ∈ (tree .nested s).rows, r.node.isDirectory = true →
        (∃ n ∈ r.node.children, n.isDirectory = false) ∨ 2 ≤ r.node.children.length) ∧
      ∀ q, q ∈ (tree .nested s).directories ↔
        ∃ a ∈ entries s, ∃ b ∈ entries s, q = a.path.directory.common b.path.directory := by
  obtain ⟨hdirectory, hpath, hfolded, hplaced⟩ := folds_nestedTree hfiles hpaths
  have htree : tree .nested s = (nestedTree (entries s)).sorted := rfl
  have hkind := (Node.isDirectory_sorted _).trans hdirectory
  have hall := folded_sorted hfolded
  have hfiles := (Node.placedIn_sorted hfolded .root).trans
    (Node.placedIn_of_isDirectory hdirectory .root ▸ hplaced)
  rw [Node.placedIn_of_isDirectory hkind] at hfiles
  rw [htree]
  refine ⟨hkind, (Node.path_sorted _).trans hpath, hfiles, fun r hr => ?_,
    nodup_directories (Folded.siblings hall), fun r hr hrow => ?_, fun q => ?_⟩
  · refine (Node.hangs_rowsFrom 0 0 none _ r hr).imp_right ?_
    rintro ⟨a, ha, hparent, hrow, hchild⟩
    exact ⟨a, ha, hparent, hrow, hchild, ((hall.of_mem_rows ha).at_node hrow).above _ hchild⟩
  · exact ((hall.of_mem_rows hr).at_node hrow).holds
  · rw [mem_directories_iff hall]
    constructor
    · rintro ⟨a, b, d, e, ha, hb, rfl⟩
      obtain ⟨d, hd, hda⟩ := List.mem_map.1 (hfiles.mem_iff.1 ha)
      obtain ⟨e, he, heb⟩ := List.mem_map.1 (hfiles.mem_iff.1 hb)
      cases hda
      cases heb
      exact ⟨_, hd, _, he, rfl⟩
    · rintro ⟨d, hd, e, he, rfl⟩
      exact ⟨_, _, d, e, hfiles.mem_iff.2 (List.mem_map_of_mem hd),
        hfiles.mem_iff.2 (List.mem_map_of_mem he), rfl⟩

theorem folded_tree_project :
    project.files ≠ [] ∧ (∀ r ∈ project.files, (FilePath.parse r.path).isRoot = false) ∧
      (tree .nested project).path = .root ∧ (tree .nested project).directories.Nodup ∧
      (⟨["lib1"]⟩ : FilePath) ∈ (tree .nested project).directories ∧
      (⟨["lib1", "sub"]⟩ : FilePath) ∉ (tree .nested project).directories := by
  have hfiles : project.files ≠ [] := by decide
  have hpaths : ∀ r ∈ project.files, (FilePath.parse r.path).isRoot = false := by decide
  obtain ⟨-, hroot, -, -, hnodup, -, hdirectories⟩ := folded_tree project hfiles hpaths
  rw [hdirectories, hdirectories]
  exact ⟨hfiles, hpaths, hroot, hnodup, by decide +kernel, by decide +kernel⟩

end Coverage.Report
