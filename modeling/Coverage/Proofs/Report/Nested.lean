import Coverage.Proofs.Report.Directories

/-!
# The tree of directories before folding

Files are put into the tree one by one, each below the directories that lead to it. Putting a file
in takes the sibling of the next name, or adds one (`putBelow_cases`). All things in a directory lie
below it, and two directories in it part there (`branching_putNested`), so in the end every file
lies in the directory that contains it (`branching_unfoldedTree`).
-/

namespace Coverage.Report

open Coverage.Report.Node (Throughout)

/-! ### What lies in a directory -/

/-- The things in a directory lie below it. The directories among them are not empty, and two of
them part there. -/
structure Siblings (p : FilePath) (ns : List Node) : Prop where
  above : ∀ n ∈ ns, p.isAbove n.path = true
  filled : ∀ n ∈ ns, n.isDirectory = true → n.children ≠ []
  parted : ns.Pairwise fun m n =>
    m.isDirectory = true → n.isDirectory = true → m.path.common n.path = p

/-- The directories in a directory lie directly in it, as before folding. -/
structure Branching (p : FilePath) (ns : List Node) : Prop extends Siblings p ns where
  next : ∀ n ∈ ns, n.isDirectory = true → ∃ s, n.path = p.push s

namespace Siblings

variable {p : FilePath} {ns ms : List Node} {n n' : Node}

theorem nil (p : FilePath) : Siblings p [] := ⟨nofun, nofun, .nil⟩

theorem of_perm (h : Siblings p ns) (hperm : ms.Perm ns) : Siblings p ms := by
  refine ⟨fun n hn => h.above n (hperm.subset hn), fun n hn => h.filled n (hperm.subset hn), ?_⟩
  refine (hperm.pairwise_iff fun hmn hn hm => ?_).2 h.parted
  exact FilePath.common_comm _ _ ▸ hmn hm hn

theorem cons_iff : Siblings p (n :: ns) ↔ (p.isAbove n.path = true ∧
    (n.isDirectory = true → n.children ≠ []) ∧
    ∀ m ∈ ns, n.isDirectory = true → m.isDirectory = true → n.path.common m.path = p) ∧
    Siblings p ns := by
  constructor
  · intro h
    obtain ⟨habove, hallAbove⟩ := List.forall_mem_cons.1 h.above
    obtain ⟨hfilled, hallFilled⟩ := List.forall_mem_cons.1 h.filled
    obtain ⟨hparted, hallParted⟩ := List.pairwise_cons.1 h.parted
    exact ⟨⟨habove, hfilled, hparted⟩, hallAbove, hallFilled, hallParted⟩
  · rintro ⟨⟨habove, hfilled, hparted⟩, h⟩
    exact ⟨List.forall_mem_cons.2 ⟨habove, h.above⟩, List.forall_mem_cons.2 ⟨hfilled, h.filled⟩,
      List.pairwise_cons.2 ⟨hparted, h.parted⟩⟩

/-- Things may become others that lie below them. -/
theorem map (h : Siblings p ns) {f : Node → Node}
    (hpath : ∀ n ∈ ns, n.path.segments <+: (f n).path.segments)
    (hdirectory : ∀ n ∈ ns, (f n).isDirectory = n.isDirectory)
    (hfilled : ∀ n ∈ ns, n.isDirectory = true → (f n).children ≠ []) :
    Siblings p (ns.map f) := by
  refine ⟨?_, ?_, List.pairwise_map.2 (h.parted.imp_of_mem fun {m n} hm hn hmn => ?_)⟩
  · exact List.forall_mem_map.2 fun n hn => FilePath.isAbove_of_leads (h.above n hn) (hpath n hn)
  · exact List.forall_mem_map.2 fun n hn hd => hfilled n hn (hdirectory n hn ▸ hd)
  · rw [hdirectory m hm, hdirectory n hn]
    intro hmd hnd
    exact FilePath.common_of_parted (h.above m hm) (h.above n hn) (hmn hmd hnd) (hpath m hm)
      (hpath n hn)

end Siblings

namespace Branching

variable {p : FilePath} {ns before behind : List Node} {n n' : Node}

theorem siblings (h : Throughout Branching n) : Throughout Siblings n :=
  h.imp fun _ _ => (·.toSiblings)

theorem append_singleton (h : Branching p ns) (habove : p.isAbove n.path = true)
    (hfilled : n.isDirectory = true → n.children ≠ [])
    (hnext : n.isDirectory = true → ∃ s, n.path = p.push s)
    (hparted : ∀ m ∈ ns, n.isDirectory = true → m.isDirectory = true → n.path.common m.path = p) :
    Branching p (ns ++ [n]) := by
  refine ⟨.of_perm (Siblings.cons_iff.2 ⟨⟨habove, hfilled, hparted⟩, h.toSiblings⟩)
    (List.perm_append_singleton n ns), ?_⟩
  exact List.forall_mem_append.2 ⟨h.next, List.forall_mem_singleton.2 hnext⟩

/-- One of the things in a directory may become another one of the same path. -/
theorem replace (h : Branching p (before ++ n :: behind)) (hpath : n'.path = n.path)
    (hkind : n'.isDirectory = n.isDirectory) (hfilled : n.isDirectory = true → n'.children ≠ []) :
    Branching p (before ++ n' :: behind) := by
  obtain ⟨⟨habove, -, hparted⟩, hrest⟩ :=
    Siblings.cons_iff.1 (h.toSiblings.of_perm List.perm_middle.symm)
  obtain ⟨hbefore, hnext, hbehind⟩ :=
    (List.forall_mem_append.1 h.next).imp_right List.forall_mem_cons.1
  rw [← hpath] at habove hparted hnext
  rw [← hkind] at hfilled hparted hnext
  exact ⟨.of_perm (Siblings.cons_iff.2 ⟨⟨habove, hfilled, hparted⟩, hrest⟩) List.perm_middle,
    List.forall_mem_append.2 ⟨hbefore, List.forall_mem_cons.2 ⟨hnext, hbehind⟩⟩⟩

end Branching

/-! ### Putting files in -/

theorem Node.placedIn_of_isDirectory {n : Node} (h : n.isDirectory = true) (p : FilePath) :
    n.placedIn p = n.placed := by
  cases n with
  | file q r => exact absurd h Bool.false_ne_true
  | directory q ns => rfl

theorem placedIn_chain {e : Entry} {here : FilePath} {names : List String}
    (h : e.path.directory.segments = here.segments ++ names) :
    (chain e.leaf here names).placedIn here = [(some e.path.directory, e)] := by
  induction names generalizing here with
  | nil =>
    rw [List.append_nil] at h
    rw [FilePath.eq_of_segments h]
    rfl
  | cons s names ih =>
    have hnext := h.trans (here.segments_push_append s names).symm
    rw [chain, Node.placedIn, Node.placed_directory, List.flatMap_singleton, ih hnext]

/-- A sibling that is a directory of the next name takes the file, and where there is none a new
directory does. -/
theorem putBelow_cases (leaf : Node) (here : FilePath) (s : String) (names : List String)
    (ns : List Node) :
    (∃ before n behind, ns = before ++ n :: behind ∧ n.isDirectory = true ∧ n.path = here.push s ∧
      putBelow leaf here s names ns = before ++ putNested leaf names n :: behind) ∨
    ((∀ n ∈ ns, n.isDirectory = true → n.path ≠ here.push s) ∧
      putBelow leaf here s names ns =
        ns ++ [.directory (here.push s) [chain leaf (here.push s) names]]) := by
  induction ns with
  | nil => exact .inr ⟨nofun, by rw [putBelow, List.nil_append]⟩
  | cons n ns ih =>
    rw [putBelow]
    split
    · next h =>
      obtain ⟨hdirectory, hpath⟩ := Bool.and_eq_true_iff.1 h
      exact .inl ⟨[], n, ns, rfl, hdirectory, eq_of_beq hpath, rfl⟩
    · next h =>
      rcases ih with ⟨before, m, behind, rfl, hdirectory, hpath, hput⟩ | ⟨hother, hput⟩
      · exact .inl ⟨n :: before, m, behind, rfl, hdirectory, hpath, congrArg (n :: ·) hput⟩
      · refine .inr ⟨List.forall_mem_cons.2 ⟨fun hdirectory hpath => h ?_, hother⟩,
          congrArg (n :: ·) hput⟩
        rw [hdirectory, hpath, beq_self_eq_true, Bool.and_true]

section Put

variable {e : Entry} (he : e.path.isRoot = false)
include he

theorem isAbove_chain {here : FilePath} {names : List String}
    (h : e.path.directory.segments = here.segments ++ names) :
    here.isAbove (chain e.leaf here names).path = true := by
  cases names with
  | nil =>
    rw [List.append_nil] at h
    exact FilePath.isAbove_of_directory he (FilePath.eq_of_segments h)
  | cons s names => exact FilePath.isAbove_push here s

theorem branching_chain {here : FilePath} {names : List String}
    (h : e.path.directory.segments = here.segments ++ names) :
    Throughout Branching (chain e.leaf here names) := by
  induction names generalizing here with
  | nil => exact .file _ _
  | cons s names ih =>
    have hnext := h.trans (here.segments_push_append s names).symm
    refine .directory ⟨Siblings.cons_iff.2 ⟨⟨isAbove_chain he hnext, ?_, nofun⟩, .nil _⟩, ?_⟩ ?_
    · cases names with
      | nil => exact nofun
      | cons t names => exact fun _ => List.cons_ne_nil _ _
    · refine List.forall_mem_singleton.2 ?_
      cases names with
      | nil => exact nofun
      | cons t names => exact fun _ => ⟨t, rfl⟩
    · exact List.forall_mem_singleton.2 (ih hnext)

/-- Putting a file into a directory that leads to it keeps the tree branching, and the directory
holds something then. -/
theorem branching_putNested {n : Node} (h : Throughout Branching n) {names : List String}
    (hnames : e.path.directory.segments = n.path.segments ++ names) :
    Throughout Branching (putNested e.leaf names n) ∧ (putNested e.leaf names n).path = n.path ∧
      (n.isDirectory = true → (putNested e.leaf names n).children ≠ []) := by
  induction h generalizing names with
  | file p r => exact ⟨.file p r, rfl, nofun⟩
  | @directory p ns own children ih =>
    cases names with
    | nil =>
      rw [List.append_nil] at hnames
      have habove := FilePath.isAbove_of_directory he (FilePath.eq_of_segments hnames)
      rw [putNested]
      refine ⟨.directory (own.append_singleton habove nofun nofun nofun) ?_, rfl,
        fun _ => by simp [Node.children]⟩
      exact List.forall_mem_append.2 ⟨children, List.forall_mem_singleton.2 (.file _ _)⟩
    | cons s names =>
      have hnext := hnames.trans (p.segments_push_append s names).symm
      rw [putNested]
      rcases putBelow_cases e.leaf p s names ns with
        ⟨before, n, behind, rfl, hdirectory, hpath, hput⟩ | ⟨hother, hput⟩
      · have hmem : n ∈ before ++ n :: behind := List.mem_append_right _ List.mem_cons_self
        obtain ⟨hn, hsame, hfilled⟩ := ih n hmem (hpath ▸ hnext)
        obtain ⟨hbefore, -, hbehind⟩ :=
          (List.forall_mem_append.1 children).imp_right List.forall_mem_cons.1
        rw [hput]
        refine ⟨.directory (own.replace hsame (isDirectory_putNested e.leaf names n) hfilled) ?_,
          rfl, fun _ => by simp [Node.children]⟩
        exact List.forall_mem_append.2 ⟨hbefore, List.forall_mem_cons.2 ⟨hn, hbehind⟩⟩
      · rw [hput]
        have hparted : ∀ m ∈ ns, m.isDirectory = true → (p.push s).common m.path = p := by
          intro m hm hdirectory
          obtain ⟨t, ht⟩ := own.next m hm hdirectory
          have hne : s ≠ t := by
            rintro rfl
            exact hother m hm hdirectory ht
          exact ht ▸ FilePath.common_push p hne
        refine ⟨.directory (own.append_singleton (FilePath.isAbove_push p s)
          (fun _ => List.cons_ne_nil _ _) (fun _ => ⟨s, rfl⟩) fun m hm _ => hparted m hm) ?_,
          rfl, fun _ => by simp [Node.children]⟩
        exact List.forall_mem_append.2
          ⟨children, List.forall_mem_singleton.2 (branching_chain he hnames)⟩

end Put

/-- Putting a file into a tree adds that file below the directory that it lies in. -/
theorem placed_putNested {e : Entry} {n : Node} (hn : n.isDirectory = true) {names : List String}
    (hnames : e.path.directory.segments = n.path.segments ++ names) (h : Throughout Branching n) :
    (putNested e.leaf names n).placed.Perm (n.placed ++ [(some e.path.directory, e)]) := by
  induction h generalizing names with
  | file p r => cases hn
  | @directory p ns own children ih =>
    cases names with
    | nil =>
      rw [List.append_nil] at hnames
      rw [putNested, Node.placed_directory, Node.placed_directory, List.flatMap_append,
        List.flatMap_singleton, FilePath.eq_of_segments hnames]
      rfl
    | cons s names =>
      have hnext := hnames.trans (p.segments_push_append s names).symm
      rw [putNested, Node.placed_directory, Node.placed_directory]
      rcases putBelow_cases e.leaf p s names ns with
        ⟨before, n, behind, rfl, hdirectory, hpath, hput⟩ | ⟨-, hput⟩
      · have hmem : n ∈ before ++ n :: behind := List.mem_append_right _ List.mem_cons_self
        have hkind := (isDirectory_putNested e.leaf names n).trans hdirectory
        have hone := ih n hmem hdirectory (hpath ▸ hnext)
        rw [hput, List.flatMap_append, List.flatMap_append, List.flatMap_cons, List.flatMap_cons,
          Node.placedIn_of_isDirectory hkind, Node.placedIn_of_isDirectory hdirectory,
          List.append_assoc]
        refine (hone.append_right _ |>.trans ?_).append_left _
        rw [List.append_assoc, List.append_assoc]
        exact List.perm_append_comm.append_left _
      · have hchain := placedIn_chain hnames
        rw [hput, List.flatMap_append, List.flatMap_singleton]
        exact .of_eq (congrArg _ hchain)

/-- The tree of directories before folding. -/
def unfoldedTree (es : List Entry) : Node :=
  es.foldl (fun root e =>
    if e.path.isRoot then root else putNested e.leaf e.path.directory.segments root)
    (.directory .root [])

/-- Before folding every file lies in the directory that contains it. -/
theorem branching_unfoldedTree {es : List Entry} (h : ∀ e ∈ es, e.path.isRoot = false) :
    (unfoldedTree es).isDirectory = true ∧ (unfoldedTree es).path = .root ∧
      Throughout Branching (unfoldedTree es) ∧
      (unfoldedTree es).placed.Perm (es.map fun e => (some e.path.directory, e)) := by
  have hrun : ∀ (es : List Entry) (t : Node), (∀ e ∈ es, e.path.isRoot = false) →
      t.isDirectory = true → t.path = .root → Throughout Branching t →
      let t' := es.foldl (fun root e => if e.path.isRoot then root
        else putNested e.leaf e.path.directory.segments root) t
      t'.isDirectory = true ∧ t'.path = .root ∧ Throughout Branching t' ∧
        t'.placed.Perm (t.placed ++ es.map fun e => (some e.path.directory, e)) := by
    intro es
    induction es with
    | nil => exact fun t _ hdirectory hpath ht =>
        ⟨hdirectory, hpath, ht, .of_eq (List.append_nil _).symm⟩
    | cons e es ih =>
      intro t hes hdirectory hpath ht
      obtain ⟨he, hes⟩ := List.forall_mem_cons.1 hes
      have hnames : e.path.directory.segments = t.path.segments ++ e.path.directory.segments := by
        rw [hpath]
        rfl
      obtain ⟨hbranching, hsame, -⟩ := branching_putNested he ht hnames
      have hplaced := placed_putNested hdirectory hnames ht
      have hkind := (isDirectory_putNested e.leaf e.path.directory.segments t).trans hdirectory
      obtain ⟨hdirectory', hpath', ht', hplaced'⟩ :=
        ih _ hes hkind (hsame.trans hpath) hbranching
      rw [List.foldl_cons, he, if_neg Bool.false_ne_true, List.map_cons, ← List.singleton_append,
        ← List.append_assoc]
      exact ⟨hdirectory', hpath', ht', hplaced'.trans (hplaced.append_right _)⟩
  exact hrun es (.directory .root []) h rfl rfl (.directory ⟨.nil _, nofun⟩ nofun)

end Coverage.Report
