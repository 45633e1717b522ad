import Coverage.Proofs.Report.Numbered
import Coverage.Proofs.Report.Packages

/-!
# Labels

A report calls each row by what its path has more than that of the row above it. In every layout a
path lies below that of the row above it (`located_attached`), so the labels on the way to a row
come to its whole path (`Located.join`), and which file a row is about can be told from them as far
as it can be told from the segments of its path (`labels_tree`). Two files whose paths have the same
segments share their labels (`labels_writtenTwice`).
-/

namespace Coverage

namespace FilePath

variable {p q : FilePath}

theorem isAbove_root (h : p.isRoot = false) : root.isAbove p = true := by
  refine isAbove_iff.2 ⟨List.nil_prefix, fun heq => ?_⟩
  subst heq
  cases h

theorem append_strip_of_isAbove (h : p.isAbove q = true) :
    p.segments ++ (q.strip p.size).segments = q.segments :=
  List.prefix_iff_eq_append.1 (isAbove_iff.1 h).1

theorem isRoot_strip_of_isAbove (h : p.isAbove q = true) : (q.strip p.size).isRoot = false := by
  refine Bool.of_not_eq_true fun hroot => (isAbove_iff.1 h).2 (eq_of_segments ?_)
  rw [← append_strip_of_isAbove h, List.isEmpty_iff.1 hroot, List.append_nil]

/-- The text of a path goes on from that of a path above it. -/
theorem text_of_isAbove (h : p.isAbove q = true) (hroot : p.isRoot = false) :
    q.text = p.text ++ "/" ++ (q.strip p.size).text := by
  have hrest := segments_ne_nil (isRoot_strip_of_isAbove h)
  rw [text, ← append_strip_of_isAbove h]
  exact String.intercalate_append_of_ne_nil (segments_ne_nil hroot) hrest

theorem isRoot_of_isAbove (h : p.isAbove q = true) : q.isRoot = false := by
  obtain ⟨hleads, hne⟩ := isAbove_iff.1 h
  refine Bool.of_not_eq_true fun hroot => hne (eq_of_segments ?_)
  rw [List.isEmpty_iff.1 hroot] at hleads ⊢
  exact List.prefix_nil.1 hleads

end FilePath

namespace Report

open Node (Throughout)

/-! ### Ways -/

/-- The rows on the way from the root to a row, without the root and with the row itself. -/
inductive Row.Way (rows : List Row) : Row → List Row → Prop where
  | root {r : Row} (mem : r ∈ rows) (top : r.parent = none) : Way rows r []
  | step {a r : Row} {way : List Row} (above : Way rows a way) (mem : r ∈ rows)
      (next : r.above? = some a.id) : Way rows r (way ++ [r])

namespace Row.Way

variable {rows way way' : List Row} {r : Row} {root : Node}

theorem mem (h : Way rows r way) : r ∈ rows := by
  cases h <;> assumption

/-- There is a way to every row, since the row above it stands before it. -/
theorem exists_way (hr : r ∈ root.rows) : ∃ way, Way root.rows r way := by
  induction hid : r.id using Nat.strong_induction_on generalizing r with
  | _ id ih =>
    subst hid
    rcases Node.rows_cases hr with rfl | ⟨a, ha, hparent, hchild⟩
    · exact ⟨[], .root hr rfl⟩
    · obtain ⟨way, hway⟩ := ih a.id (Row.id_lt_of_mem_childRows hchild) ha rfl
      exact ⟨way ++ [r], .step hway hr (by rw [Row.above?, hparent]; rfl)⟩

theorem unique (h : Way root.rows r way) (h' : Way root.rows r way') : way' = way := by
  induction h generalizing way' with
  | root _ top =>
    cases h' with
    | root _ _ => rfl
    | step _ _ next => rw [Row.above?, top] at next; cases next
  | step above hr next ih =>
    cases h' with
    | root _ top => rw [Row.above?, top] at next; cases next
    | step above' _ next' =>
      have hid := Option.some.inj (next.symm.trans next')
      have hsame := (Node.getElem?_rows_id above.mem).symm.trans
        (hid ▸ Node.getElem?_rows_id above'.mem)
      cases Option.some.inj hsame
      rw [ih above']

end Row.Way

/-! ### Trees with every path below the one above it -/

/-- A directory has a path of proper segments, and what lies in it lies below that path. -/
structure Below (p : FilePath) (ns : List Node) : Prop where
  proper : p.Proper
  above : ∀ n ∈ ns, p.isAbove n.path = true

/-- From the empty path at the root on, every path goes on from the one above it, and two files have
one path just if the segments of their own paths are the same. -/
structure Located (t : Node) : Prop where
  path : t.path = .root
  below : Throughout Below t
  proper : ∀ x ∈ t.placed, x.2.path.Proper
  path_eq_iff : ∀ x ∈ t.placed, ∀ y ∈ t.placed, x.2.path = y.2.path ↔
    FilePath.parse x.2.record.path = FilePath.parse y.2.record.path

namespace Located

variable {t : Node}

theorem sorted (h : Located t) : Located t.sorted := by
  have hplaced : ∀ x ∈ t.sorted.placed, x ∈ t.placed := by
    cases t with
    | file p r => exact fun _ => id
    | directory p ns => exact fun x hx => (Node.placedIn_sorted h.below p).mem_iff.1 hx
  refine ⟨(Node.path_sorted t).trans h.path, h.below.sorted fun p ns own => ⟨own.proper, ?_⟩,
    fun x hx => h.proper x (hplaced x hx),
    fun x hx y hy => h.path_eq_iff x (hplaced x hx) y (hplaced y hy)⟩
  intro n hn
  obtain ⟨m, hm, rfl⟩ := List.mem_map.1 ((Node.children_sorted (.directory p ns)).mem_iff.1 hn)
  rw [Node.path_sorted]
  exact own.above m hm

variable {r : Row}

theorem mem_placed {f : FileRecord} (hr : r ∈ t.rows) (hf : r.node.record? = some f) :
    ∃ above, (above, ⟨r.node.path, f⟩) ∈ t.placed :=
  ⟨_, List.mem_filterMap.2 ⟨r, hr, by rw [Row.placed?, hf]; rfl⟩⟩

theorem proper_path (h : Located t) (hr : r ∈ t.rows) : r.node.path.Proper := by
  cases hnode : r.node with
  | file p f =>
    obtain ⟨above, hplaced⟩ := mem_placed hr (f := f) (by rw [hnode]; rfl)
    have hproper := h.proper _ hplaced
    rwa [hnode] at hproper
  | directory p ns =>
    have hbelow := h.below.of_mem_rows hr
    rw [hnode] at hbelow
    exact hbelow.own.proper

theorem isAbove_of_mem_childRows (h : Located t) {a : Row} (ha : a ∈ t.rows)
    (hr : r ∈ a.childRows) : a.node.path.isAbove r.node.path = true := by
  have hchild : r.node ∈ a.node.children := a.map_node_childRows ▸ List.mem_map_of_mem hr
  have hbelow := h.below.of_mem_rows ha
  cases hnode : a.node with
  | file p f => rw [hnode] at hchild; cases hchild
  | directory p ns =>
    rw [hnode] at hbelow hchild
    exact hbelow.own.above _ hchild

/-- The label of a row below a path is the rest of its own path. -/
theorem relativeName_eq {id : Nat} {p : FilePath} (hparent : r.parent = some (id, p))
    (habove : p.isAbove r.node.path = true) :
    r.relativeName = (r.node.path.strip p.size).text := by
  rw [Row.relativeName, hparent]
  exact if_pos habove

/-- No row below the root has an empty label. -/
theorem relativeName_ne_empty (h : Located t) (hr : r ∈ t.rows) (hroot : r.isRoot = false) :
    r.relativeName ≠ "" := by
  rcases Node.rows_cases hr with rfl | ⟨a, ha, hparent, hchild⟩
  · cases hroot
  · have habove := h.isAbove_of_mem_childRows ha hchild
    rw [relativeName_eq hparent habove]
    exact ((h.proper_path hr).strip _).text_ne_empty (FilePath.isRoot_strip_of_isAbove habove)

/-- The labels on the way to a row come to the path of the row. Only the root has the empty
path. -/
theorem join (h : Located t) {way : List Row} (hway : Row.Way t.rows r way) :
    "/".intercalate (way.map Row.relativeName) = r.name ∧
      (way = [] → r.node.path = .root) ∧ (way ≠ [] → r.node.path.isRoot = false) := by
  induction hway with
  | root hr top =>
    rcases Node.rows_cases hr with rfl | ⟨a, -, hparent, -⟩
    · refine ⟨?_, fun _ => h.path, fun hne => absurd rfl hne⟩
      rw [Row.name, h.path]
      rfl
    · rw [top] at hparent
      cases hparent
  | @step a r way hway hr next ih =>
    obtain ⟨hjoin, htop, hlower⟩ := ih
    obtain ⟨hparent, hchild⟩ := Node.mem_childRows hway.mem hr next
    have habove := h.isAbove_of_mem_childRows hway.mem hchild
    have hlabel := relativeName_eq hparent habove
    refine ⟨?_, fun hnil => absurd hnil (by simp), fun _ => FilePath.isRoot_of_isAbove habove⟩
    by_cases hnil : way = []
    · rw [htop hnil] at hlabel
      rw [hnil, List.nil_append, List.map_singleton, String.intercalate_singleton, hlabel]
      rfl
    · rw [List.map_append, List.map_singleton,
        String.intercalate_append_of_ne_nil (by simpa using hnil) (List.cons_ne_nil _ _), hjoin,
        String.intercalate_singleton, hlabel]
      exact (FilePath.text_of_isAbove habove (hlower hnil)).symm

/-- Two files have one path in the tree just if the segments of their own paths are the same. -/
theorem name_eq_iff (h : Located t) {a b : Row} (ha : a ∈ t.rows) (hb : b ∈ t.rows)
    {f g : FileRecord} (hf : a.node.record? = some f) (hg : b.node.record? = some g) :
    a.name = b.name ↔ FilePath.parse f.path = FilePath.parse g.path := by
  obtain ⟨_, hplacedA⟩ := mem_placed ha hf
  obtain ⟨_, hplacedB⟩ := mem_placed hb hg
  rw [← h.path_eq_iff _ hplacedA _ hplacedB]
  exact ⟨(h.proper_path ha).eq_of_text (h.proper_path hb), congrArg FilePath.text⟩

end Located

/-! ### Layouts -/

variable {s : Snapshot}

/-- Files at the places of their paths are told apart as their paths are. -/
theorem Located.of_place {t : Node} (place : FilePath → FilePath)
    (hproper : ∀ p : FilePath, p.Proper → (place p).Proper)
    (hinj : ∀ p q : FilePath, (commonDirectory s).segments <+: p.segments →
      (commonDirectory s).segments <+: q.segments → (place p = place q ↔ p = q))
    (hpath : t.path = .root) (hbelow : Throughout Below t)
    (hplaced : ∀ x ∈ t.placed, ∃ r ∈ s.files, x.2 = ⟨place (FilePath.parse r.path), r⟩) :
    Located t := by
  refine ⟨hpath, hbelow, fun x hx => ?_, fun x hx y hy => ?_⟩
  · obtain ⟨r, -, heq⟩ := hplaced x hx
    rw [heq]
    exact hproper _ (FilePath.proper_parse r.path)
  · obtain ⟨r, hr, heq⟩ := hplaced x hx
    obtain ⟨r', hr', heq'⟩ := hplaced y hy
    rw [heq, heq']
    exact hinj _ _ (isPrefix_parse hr) (isPrefix_parse hr')

theorem located_flatTree (hpaths : ∀ r ∈ s.files, (FilePath.parse r.path).isRoot = false) :
    Located (flatTree (entries s)) := by
  refine .of_place (stripped s) (fun p hp => hp.strip _) (fun p q hp hq => stripped_inj hp hq) rfl
    (.directory ⟨FilePath.proper_root, ?_⟩ ?_) fun x hx => ?_
  · exact List.forall_mem_map.2 fun e he =>
      FilePath.isAbove_root (isRoot_of_mem_entries hpaths e he)
  · exact List.forall_mem_map.2 fun e _ => .file e.path e.record
  · rw [flatTree, Node.placed_directory, List.flatMap_map] at hx
    obtain ⟨e, he, hx⟩ := List.mem_flatMap.1 hx
    obtain ⟨r, hr, rfl⟩ := List.mem_map.1 he
    exact ⟨r, hr, congrArg Prod.snd (List.mem_singleton.1 hx)⟩

section Packages

variable {place : FilePath → FilePath} {d : FilePath}

theorem below_packageOf (hproper : (place d).Proper)
    (hpush : ∀ r ∈ s.files, place (FilePath.parse r.path) =
      (place (directoryOf r)).push (FilePath.parse r.path).name) :
    Throughout Below (packageOf place s d) := by
  refine .directory ⟨hproper, List.forall_mem_map.2 fun r hr => ?_⟩
    (List.forall_mem_map.2 fun r _ => .file _ r)
  obtain ⟨hr, hd⟩ := List.mem_filter.1 hr
  have hplace := hpush r hr
  rw [of_decide_eq_true hd] at hplace
  exact hplace ▸ FilePath.isAbove_push _ _

theorem mem_placed_packageOf {x : Option FilePath × Entry}
    (hx : x ∈ (packageOf place s d).placed) :
    ∃ r ∈ s.files, x.2 = ⟨place (FilePath.parse r.path), r⟩ := by
  rw [packageOf, Node.placed_directory, List.flatMap_map] at hx
  obtain ⟨r, hr, hx⟩ := List.mem_flatMap.1 hx
  exact ⟨r, (List.mem_filter.1 hr).1, congrArg Prod.snd (List.mem_singleton.1 hx)⟩

end Packages

theorem located_packageTree (hpaths : ∀ r ∈ s.files, (FilePath.parse r.path).isRoot = false) :
    Located (packageTree (commonDirectory s) (entries s)) := by
  obtain ⟨ds, -, hmem, hpackages⟩ := packages_entries s
  rcases packageTree_eq hmem hpackages with ⟨d, rfl, heq⟩ | ⟨-, heq⟩
  · have hd : commonDirectory s = d := commonDirectory_of_single ((hmem d).1 List.mem_cons_self)
      fun r hr => List.mem_singleton.1 ((hmem _).2 ⟨r, hr, rfl⟩)
    have hroot : stripped s d = .root := hd ▸ stripped_commonDirectory s
    rw [heq]
    exact .of_place (stripped s) (fun p hp => hp.strip _) (fun p q hp hq => stripped_inj hp hq)
      hroot (below_packageOf (hroot ▸ FilePath.proper_root) fun r hr =>
        stripped_push hr (hpaths r hr)) fun x => mem_placed_packageOf
  · rw [heq]
    refine .of_place (lifted s) (fun p hp => proper_lifted hp)
      (fun p q hp hq => lifted_inj hp hq) rfl (.directory ⟨FilePath.proper_root, ?_⟩ ?_)
      fun x hx => ?_
    · refine List.forall_mem_map.2 fun d hd => ?_
      obtain ⟨r, hr, rfl⟩ := (hmem d).1 hd
      exact FilePath.isAbove_root (isRoot_lifted hr)
    · refine List.forall_mem_map.2 fun d hd => ?_
      obtain ⟨r, -, rfl⟩ := (hmem d).1 hd
      exact below_packageOf (proper_lifted (proper_directoryOf r)) fun r hr =>
        lifted_push hr (hpaths r hr)
    · rw [Node.placed_directory, List.flatMap_map] at hx
      obtain ⟨d, -, hx⟩ := List.mem_flatMap.1 hx
      exact mem_placed_packageOf hx

theorem located_nestedTree (hpaths : ∀ r ∈ s.files, (FilePath.parse r.path).isRoot = false) :
    Located (nestedTree (entries s)) := by
  by_cases hfiles : s.files = []
  · -- Without files the root is all there is, as under one root.
    have hempty : nestedTree (entries s) = flatTree (entries s) := by
      rw [entries, hfiles]
      rfl
    exact hempty ▸ located_flatTree hpaths
  · obtain ⟨-, hpath, hfolded, hplaced⟩ := folds_nestedTree hfiles hpaths
    have hentry : ∀ x ∈ (nestedTree (entries s)).placed,
        ∃ r ∈ s.files, x.2 = ⟨stripped s (FilePath.parse r.path), r⟩ ∧
          x.1 = some (stripped s (directoryOf r)) := by
      intro x hx
      obtain ⟨e, he, rfl⟩ := List.mem_map.1 (hplaced.mem_iff.1 hx)
      obtain ⟨r, hr, rfl⟩ := List.mem_map.1 he
      exact ⟨r, hr, rfl, congrArg some (directory_stripped s _)⟩
    have hproper : ∀ q ∈ (nestedTree (entries s)).directories, q.Proper := by
      intro q hq
      obtain ⟨a, b, e, -, ha, -, rfl⟩ := exists_common_of_mem_directories hfolded hq
      obtain ⟨r, -, -, habove⟩ := hentry _ ha
      cases habove
      exact ((proper_directoryOf r).strip _).of_isPrefix (FilePath.commonStart_prefix_left _ _)
    refine .of_place (stripped s) (fun p hp => hp.strip _) (fun p q hp hq => stripped_inj hp hq)
      hpath ((hfolded.and_directories hproper).imp fun p ns own => ⟨own.1, own.2.above⟩)
      fun x hx => ?_
    obtain ⟨r, hr, heq, -⟩ := hentry x hx
    exact ⟨r, hr, heq⟩

/-- In every layout a path goes on from the one above it. -/
theorem located_attached (layout : Layout)
    (hpaths : ∀ r ∈ s.files, (FilePath.parse r.path).isRoot = false) :
    Located (attached layout s) := by
  cases layout with
  | flat => exact located_flatTree hpaths
  | packages => exact located_packageTree hpaths
  | nested => exact located_nestedTree hpaths

/-- Every file of a snapshot has exactly one row. -/
theorem existsUnique_row (layout : Layout)
    (hpaths : ∀ r ∈ s.files, (FilePath.parse r.path).isRoot = false) {f : FileRecord}
    (hf : f ∈ s.files) : ∃! a, a ∈ (tree layout s).rows ∧ a.node.record? = some f := by
  have hperm := records_tree layout hpaths
  have hnodup : (tree layout s).records.Nodup := hperm.nodup_iff.2 (.of_map _ s.distinct)
  have hapart := List.pairwise_filterMap.1 hnodup
  have hsymm : Std.Symm fun a b : Row => ∀ x, a.node.record? = some x →
      ∀ y, b.node.record? = some y → x ≠ y :=
    ⟨fun a b hab x hx y hy heq => hab y hy x hx heq.symm⟩
  obtain ⟨a, ha, hrecord⟩ := List.mem_filterMap.1 (hperm.mem_iff.2 hf)
  refine ⟨a, ⟨ha, hrecord⟩, ?_⟩
  rintro b ⟨hb, hother⟩
  by_contra hne
  exact hapart.forall hb ha hne f hother f hrecord rfl

/-- In every layout of a snapshot where each file has a path with a segment, each file has one row,
and one way leads from the root to each row. Joined by slashes, the labels of the rows on that way
are the name of the row, and no label below the root is empty. So the labels tell two files apart
unless the segments of their paths are the same, and then their joined labels are the same too. -/
theorem labels_tree (layout : Layout) (s : Snapshot)
    (hpaths : ∀ r ∈ s.files, (FilePath.parse r.path).isRoot = false) :
    (∀ f ∈ s.files, ∃! a, a ∈ (tree layout s).rows ∧ a.node.record? = some f) ∧
      (∀ r ∈ (tree layout s).rows, ∃! way, Row.Way (tree layout s).rows r way) ∧
      (∀ r way, Row.Way (tree layout s).rows r way →
        "/".intercalate (way.map Row.relativeName) = r.name) ∧
      (∀ r ∈ (tree layout s).rows, r.isRoot = false → r.relativeName ≠ "") ∧
      ∀ a ∈ (tree layout s).rows, ∀ b ∈ (tree layout s).rows, ∀ f g : FileRecord,
        a.node.record? = some f → b.node.record? = some g →
        (a.name = b.name ↔ FilePath.parse f.path = FilePath.parse g.path) := by
  have hlocated : Located (tree layout s) :=
    tree_eq layout s ▸ (located_attached layout hpaths).sorted
  refine ⟨fun f hf => existsUnique_row layout hpaths hf, fun r hr => ?_,
    fun r way hway => (hlocated.join hway).1,
    fun r hr hroot => hlocated.relativeName_ne_empty hr hroot,
    fun a ha b hb f g hf hg => hlocated.name_eq_iff ha hb hf hg⟩
  obtain ⟨way, hway⟩ := Row.Way.exists_way hr
  exact ⟨way, hway, fun way' => Row.Way.unique hway⟩

theorem labels_tree_project :
    (∀ r ∈ project.files, (FilePath.parse r.path).isRoot = false) ∧
      ∃ a ∈ (tree .nested project).rows, ∃ way,
        a.node.record? = some (ranOnce "/prj/lib2/file4.js") ∧
        Row.Way (tree .nested project).rows a way ∧
        "/".intercalate (way.map Row.relativeName) = a.name ∧
        ∀ b ∈ (tree .nested project).rows,
          b.node.record? = some (ranOnce "/prj/file1.js") → a.name ≠ b.name := by
  have hpaths : ∀ r ∈ project.files, (FilePath.parse r.path).isRoot = false := by decide
  obtain ⟨hrows, hways, hjoin, -, hnames⟩ := labels_tree .nested project hpaths
  have hfile : ranOnce "/prj/lib2/file4.js" ∈ project.files :=
    List.mem_cons_of_mem _ List.mem_cons_self
  obtain ⟨a, ⟨ha, hrecord⟩, -⟩ := hrows _ hfile
  obtain ⟨way, hway, -⟩ := hways a ha
  refine ⟨hpaths, a, ha, way, hrecord, hway, hjoin a way hway, fun b hb hother hname => ?_⟩
  have hparse := (hnames a ha b hb _ _ hrecord hother).1 hname
  revert hparse
  decide +kernel

/-! ### Paths that are written in two ways -/

/-- Two files whose paths have the same segments. -/
def writtenTwice : Snapshot := ⟨[ranOnce "/a.js", ranOnce "a.js"], by decide⟩

/-- The tree of these files in every layout. -/
def writtenTwiceTree : Node :=
  .directory .root [.file ⟨["a.js"]⟩ (ranOnce "/a.js"), .file ⟨["a.js"]⟩ (ranOnce "a.js")]

theorem entries_writtenTwice : entries writtenTwice =
    [⟨⟨["a.js"]⟩, ranOnce "/a.js"⟩, ⟨⟨["a.js"]⟩, ranOnce "a.js"⟩] := by
  have hcommon : commonDirectory writtenTwice = .root := by decide +kernel
  have hrooted : FilePath.parse "/a.js" = ⟨["a.js"]⟩ := by decide +kernel
  have hplain : FilePath.parse "a.js" = ⟨["a.js"]⟩ := by decide +kernel
  rw [entries, hcommon]
  change [Entry.mk ((FilePath.parse "/a.js").strip 0) _,
    Entry.mk ((FilePath.parse "a.js").strip 0) _] = _
  rw [hrooted, hplain]
  rfl

theorem tree_writtenTwice (layout : Layout) : tree layout writtenTwice = writtenTwiceTree := by
  have hattached : attached layout writtenTwice = writtenTwiceTree := by
    cases layout <;> rw [attached, entries_writtenTwice] <;> rfl
  rw [tree_eq, hattached, writtenTwiceTree, Node.sorted, Node.sortedAll_eq]
  refine congrArg (Node.directory .root) (List.mergeSort_of_pairwise ?_)
  have hsame : Node.before (.file ⟨["a.js"]⟩ (ranOnce "/a.js"))
      (.file ⟨["a.js"]⟩ (ranOnce "a.js")) = true := Node.before_iff.2 (String.le_refl _)
  exact .cons (List.forall_mem_singleton.2 hsame) (.cons nofun .nil)

/-- Two different files whose labels are the same. -/
theorem labels_writtenTwice :
    (∀ r ∈ writtenTwice.files, (FilePath.parse r.path).isRoot = false) ∧
      ∀ layout : Layout, ∃ a ∈ (tree layout writtenTwice).rows,
        ∃ b ∈ (tree layout writtenTwice).rows,
          a.node.record? = some (ranOnce "/a.js") ∧ b.node.record? = some (ranOnce "a.js") ∧
            Row.Way (tree layout writtenTwice).rows a [a] ∧
            Row.Way (tree layout writtenTwice).rows b [b] ∧
            a.relativeName = "a.js" ∧ b.relativeName = "a.js" := by
  refine ⟨by decide, fun layout => ?_⟩
  rw [tree_writtenTwice]
  have hroot := writtenTwiceTree.root_mem_rows
  have hrooted : (⟨1, 1, some (0, .root), .file ⟨["a.js"]⟩ (ranOnce "/a.js")⟩ : Row) ∈
      writtenTwiceTree.rows := List.mem_cons_of_mem _ List.mem_cons_self
  have hplain : (⟨2, 1, some (0, .root), .file ⟨["a.js"]⟩ (ranOnce "a.js")⟩ : Row) ∈
      writtenTwiceTree.rows :=
    List.mem_cons_of_mem _ (List.mem_cons_of_mem _ List.mem_cons_self)
  exact ⟨_, hrooted, _, hplain, rfl, rfl, .step (.root hroot rfl) hrooted rfl,
    .step (.root hroot rfl) hplain rfl, by decide +kernel, by decide +kernel⟩

end Report

end Coverage
