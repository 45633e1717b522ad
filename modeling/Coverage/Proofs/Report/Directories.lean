import Coverage.Proofs.Report.Layout

/-!
# Files and directories of a report tree

The rows of a tree give its files, each with the path of the node above it (`Node.placed`), and the
paths of its directories (`Node.directories`). Every row but the first hangs below the row of a
directory that its node lies in (`Node.hangs_rowsFrom`), and what holds throughout a tree holds of
its rows (`Throughout.of_mem_rows`).

Two paths part where what they have in common ends (`FilePath.common_of_parted`).
-/

namespace Coverage

/-! ### Paths above paths -/

namespace FilePath

variable {p q m n m' n' : FilePath}

theorem eq_of_segments (h : p.segments = q.segments) : p = q := by
  cases p
  cases q
  exact congrArg mk h

theorem isAbove_iff : p.isAbove q = true ↔ p.segments <+: q.segments ∧ p ≠ q := by
  rw [isAbove, contains, Bool.and_eq_true, List.isPrefixOf_iff_prefix, decide_eq_true_eq]
  refine and_congr_right fun hleads => not_congr ⟨fun hsize => ?_, fun heq => heq ▸ rfl⟩
  exact eq_of_segments (hleads.eq_of_length hsize)

theorem segments_push_append (p : FilePath) (s : String) (names : List String) :
    (p.push s).segments ++ names = p.segments ++ s :: names := by
  rw [push, List.append_assoc, List.singleton_append]

theorem isAbove_push (p : FilePath) (s : String) : p.isAbove (p.push s) = true := by
  refine isAbove_iff.2 ⟨List.prefix_append _ _, fun h => ?_⟩
  have hlength := congrArg (fun q => q.segments.length) h
  simp [push] at hlength

theorem isAbove_of_directory (hroot : q.isRoot = false) (h : q.directory = p) :
    p.isAbove q = true := by
  have hne : q.segments ≠ [] := by simpa [isRoot] using hroot
  subst h
  refine isAbove_iff.2 ⟨List.dropLast_prefix _, fun h => ?_⟩
  have hlength := congrArg (fun q => q.segments.length) h
  have hpos := List.length_pos_iff.2 hne
  rw [directory_segments, List.length_dropLast] at hlength
  omega

/-- A path that goes on from one below another path is below it too. -/
theorem isAbove_of_leads (h : p.isAbove q = true) (hleads : q.segments <+: m.segments) :
    p.isAbove m = true := by
  obtain ⟨hpq, hne⟩ := isAbove_iff.1 h
  refine isAbove_iff.2 ⟨hpq.trans hleads, fun heq => hne (eq_of_segments ?_)⟩
  exact hpq.eq_of_length_le (heq ▸ hleads.length_le)

/-- What leads to two paths leads to what they have in common. -/
theorem isPrefix_commonStart {l as bs : List String} (ha : l <+: as) (hb : l <+: bs) :
    l <+: commonStart as bs := by
  induction l generalizing as bs with
  | nil => exact List.nil_prefix
  | cons x l ih =>
    obtain ⟨as, rfl⟩ := ha
    obtain ⟨bs, rfl⟩ := hb
    rw [List.cons_append, List.cons_append, commonStart, if_pos rfl]
    exact List.cons_prefix_cons.2 ⟨rfl, ih (List.prefix_append _ _) (List.prefix_append _ _)⟩

theorem common_eq_left (h : p.segments <+: q.segments) : p.common q = p :=
  eq_of_segments <| List.IsPrefix.eq_of_length_le (commonStart_prefix_left _ _)
    (isPrefix_commonStart List.prefix_rfl h).length_le

theorem common_comm (p q : FilePath) : p.common q = q.common p :=
  eq_of_segments (commonStart_comm _ _)

/-- What leads to several paths leads to what they have in common. -/
theorem isPrefix_foldl_common_of {l : List String} (ps : List FilePath) (q : FilePath)
    (hq : l <+: q.segments) (hps : ∀ p ∈ ps, l <+: p.segments) :
    l <+: (ps.foldl common q).segments := by
  induction ps generalizing q with
  | nil => exact hq
  | cons p ps ih =>
    obtain ⟨hp, hps⟩ := List.forall_mem_cons.1 hps
    exact ih (q.common p) (isPrefix_commonStart hq hp) hps

theorem directory_strip (p : FilePath) (n : Nat) :
    (p.strip n).directory = p.directory.strip n := by
  refine eq_of_segments ?_
  simp only [directory_segments, strip, List.dropLast_eq_take, List.drop_take, List.length_drop]
  rw [Nat.sub_right_comm]

/-- Paths that go on from two directories part where those do. -/
theorem common_of_parted (hm : p.isAbove m = true) (hn : p.isAbove n = true)
    (hparted : m.common n = p) (hm' : m.segments <+: m'.segments)
    (hn' : n.segments <+: n'.segments) : m'.common n' = p := by
  obtain ⟨hpm, hne⟩ := isAbove_iff.1 hm
  obtain ⟨hpn, hne'⟩ := isAbove_iff.1 hn
  have hleft : (m'.common n').segments <+: m'.segments := commonStart_prefix_left _ _
  have hright : (m'.common n').segments <+: n'.segments := commonStart_prefix_right _ _
  -- Neither directory leads to the other one.
  have hapart : ¬ m.segments <+: n.segments := fun h => hne (hparted ▸ common_eq_left h)
  have hapart' : ¬ n.segments <+: m.segments := fun h =>
    hne' (hparted ▸ common_comm m n ▸ common_eq_left h)
  have hm_le : (m'.common n').segments <+: m.segments := by
    refine (List.prefix_or_prefix_of_prefix hleft hm').resolve_right fun h => ?_
    exact (List.prefix_or_prefix_of_prefix (h.trans hright) hn').elim hapart hapart'
  have hn_le : (m'.common n').segments <+: n.segments := by
    refine (List.prefix_or_prefix_of_prefix hright hn').resolve_right fun h => ?_
    exact (List.prefix_or_prefix_of_prefix (h.trans hleft) hm').elim hapart' hapart
  have hle : (m'.common n').segments <+: p.segments := hparted ▸ isPrefix_commonStart hm_le hn_le
  have hge := isPrefix_commonStart (hpm.trans hm') (hpn.trans hn')
  exact eq_of_segments (hle.eq_of_length_le hge.length_le)

theorem common_push (p : FilePath) {s t : String} (h : s ≠ t) :
    (p.push s).common (p.push t) = p := by
  have hstart : ∀ l : List String, commonStart (l ++ [s]) (l ++ [t]) = l := by
    intro l
    induction l with
    | nil => simp [commonStart, h]
    | cons x l ih => rw [List.cons_append, List.cons_append, commonStart, if_pos rfl, ih]
  exact eq_of_segments (hstart p.segments)

end FilePath

namespace Report

/-! ### Files and directories of a tree -/

/-- The file of a row with the path of the node above it. -/
def Row.placed? (r : Row) : Option (Option FilePath × Entry) :=
  r.node.record?.map fun f => (r.parent.map (·.2), ⟨r.node.path, f⟩)

namespace Node

/-- The files of a tree, each with the path of the node above it. -/
def placed (n : Node) : List (Option FilePath × Entry) := n.rows.filterMap Row.placed?

/-- The paths of the directories of a tree. -/
def directories (n : Node) : List FilePath :=
  (n.rows.filter (·.node.isDirectory)).map (·.node.path)

/-- The files of a node that stands below the node with a path. -/
def placedIn (above : FilePath) : Node → List (Option FilePath × Entry)
  | file p r => [(some above, ⟨p, r⟩)]
  | directory q ns => (directory q ns).placed

mutual

theorem placed_rowsFrom (id depth above : Nat) (p : FilePath) :
    ∀ n : Node, (rowsFrom id depth (some (above, p)) n).filterMap Row.placed? = n.placedIn p
  | file _ _ => rfl
  | directory q ns => by
    have hrow (id depth : Nat) (parent : Option (Nat × FilePath)) :
        (rowsFrom id depth parent (directory q ns)).filterMap Row.placed? =
          ns.flatMap (placedIn q) := placed_rowsAll (id + 1) (depth + 1) id q ns
    rw [hrow, placedIn, placed, rows, hrow]

theorem placed_rowsAll (id depth above : Nat) (p : FilePath) :
    ∀ ns : List Node,
      (rowsAll id depth (some (above, p)) ns).filterMap Row.placed? = ns.flatMap (placedIn p)
  | [] => rfl
  | n :: ns => by
    rw [rowsAll, List.filterMap_append, placed_rowsFrom, placed_rowsAll, List.flatMap_cons]

end

@[simp] theorem placed_directory (p : FilePath) (ns : List Node) :
    (directory p ns).placed = ns.flatMap (placedIn p) :=
  placed_rowsAll 1 1 0 p ns

mutual

theorem directories_rowsFrom (id depth : Nat) (parent : Option (Nat × FilePath)) :
    ∀ n : Node, ((rowsFrom id depth parent n).filter (·.node.isDirectory)).map (·.node.path) =
      n.directories
  | file _ _ => rfl
  | directory q ns => by
    have hrow (id depth : Nat) (parent : Option (Nat × FilePath)) :
        ((rowsFrom id depth parent (directory q ns)).filter (·.node.isDirectory)).map
          (·.node.path) = q :: ns.flatMap directories :=
      congrArg (q :: ·) (directories_rowsAll (id + 1) (depth + 1) (some (id, q)) ns)
    rw [hrow, directories, rows, hrow]

theorem directories_rowsAll (id depth : Nat) (parent : Option (Nat × FilePath)) :
    ∀ ns : List Node, ((rowsAll id depth parent ns).filter (·.node.isDirectory)).map
      (·.node.path) = ns.flatMap directories
  | [] => rfl
  | n :: ns => by
    rw [rowsAll, List.filter_append, List.map_append, directories_rowsFrom, directories_rowsAll,
      List.flatMap_cons]

end

@[simp] theorem directories_directory (p : FilePath) (ns : List Node) :
    (directory p ns).directories = p :: ns.flatMap directories :=
  congrArg (p :: ·) (directories_rowsAll 1 1 (some (0, p)) ns)

/-! ### The node above a row -/

/-- A row is that of the node itself, or the row above it is that of a directory that its node lies
in. -/
def Hangs (rows : List Row) (parent : Option (Nat × FilePath)) (n : Node) (r : Row) : Prop :=
  (r.parent = parent ∧ r.node = n) ∨
    ∃ a ∈ rows, r.parent = some (a.id, a.node.path) ∧ a.node.isDirectory = true ∧
      r.node ∈ a.node.children

mutual

theorem hangs_rowsFrom (id depth : Nat) (parent : Option (Nat × FilePath)) :
    ∀ n : Node, ∀ r ∈ rowsFrom id depth parent n, Hangs (rowsFrom id depth parent n) parent n r
  | file p f, r, hr => by
    rw [rowsFrom, List.mem_singleton] at hr
    subst hr
    exact .inl ⟨rfl, rfl⟩
  | directory p ns, r, hr => by
    rw [rowsFrom, List.mem_cons] at hr
    rw [rowsFrom]
    rcases hr with rfl | hr
    · exact .inl ⟨rfl, rfl⟩
    · obtain ⟨n, hn, ⟨hparent, hnode⟩ | ⟨a, ha, habove⟩⟩ :=
        hangs_rowsAll (id + 1) (depth + 1) (some (id, p)) ns r hr
      · exact .inr ⟨_, List.mem_cons_self, hparent, rfl, hnode ▸ hn⟩
      · exact .inr ⟨a, List.mem_cons_of_mem _ ha, habove⟩

theorem hangs_rowsAll (id depth : Nat) (parent : Option (Nat × FilePath)) :
    ∀ ns : List Node, ∀ r ∈ rowsAll id depth parent ns,
      ∃ n ∈ ns, Hangs (rowsAll id depth parent ns) parent n r
  | [], _, hr => absurd hr List.not_mem_nil
  | n :: ns, r, hr => by
    rw [rowsAll, List.mem_append] at hr
    rw [rowsAll]
    rcases hr with hr | hr
    · refine ⟨n, List.mem_cons_self, (hangs_rowsFrom id depth parent n r hr).imp_right ?_⟩
      exact fun ⟨a, ha, habove⟩ => ⟨a, List.mem_append_left _ ha, habove⟩
    · obtain ⟨m, hm, hhangs⟩ := hangs_rowsAll (id + n.count) depth parent ns r hr
      refine ⟨m, List.mem_cons_of_mem n hm, hhangs.imp_right ?_⟩
      exact fun ⟨a, ha, habove⟩ => ⟨a, List.mem_append_right _ ha, habove⟩

end

/-! ### What holds of every directory -/

/-- Every directory of a tree has a property, which is one of its path and of what lies in it. -/
inductive Throughout (P : FilePath → List Node → Prop) : Node → Prop where
  | file (p : FilePath) (r : FileRecord) : Throughout P (.file p r)
  | directory {p : FilePath} {ns : List Node} (own : P p ns)
      (children : ∀ n ∈ ns, Throughout P n) : Throughout P (.directory p ns)

namespace Throughout

variable {P Q : FilePath → List Node → Prop} {p : FilePath} {ns : List Node} {n : Node}

theorem own (h : Throughout P (.directory p ns)) : P p ns := by
  cases h
  assumption

theorem at_node (h : Throughout P n) (hn : n.isDirectory = true) : P n.path n.children := by
  cases h with
  | file p r => cases hn
  | directory own _ => exact own

theorem child (h : Throughout P (.directory p ns)) (hn : n ∈ ns) : Throughout P n := by
  cases h with
  | directory _ children => exact children n hn

theorem imp (h : Throughout P n) (himp : ∀ p ns, P p ns → Q p ns) : Throughout Q n := by
  induction h with
  | file p r => exact .file p r
  | directory own _ ih => exact .directory (himp _ _ own) ih

/-- What holds of the path of every directory may be added. -/
theorem and_directories {R : FilePath → Prop} (h : Throughout P n)
    (hall : ∀ q ∈ n.directories, R q) : Throughout (fun p ns => R p ∧ P p ns) n := by
  induction h with
  | file p r => exact .file p r
  | @directory p ns own _ ih =>
    rw [directories_directory, List.forall_mem_cons] at hall
    refine .directory ⟨hall.1, own⟩ fun n hn => ih n hn fun q hq => ?_
    exact hall.2 q (List.mem_flatMap.2 ⟨n, hn, hq⟩)

mutual

theorem of_mem_rowsFrom (id depth : Nat) (parent : Option (Nat × FilePath)) :
    ∀ n : Node, Throughout P n → ∀ r ∈ rowsFrom id depth parent n, Throughout P r.node
  | .file p f, h, r, hr => by
    rw [rowsFrom, List.mem_singleton] at hr
    exact hr ▸ h
  | .directory p ns, h, r, hr => by
    rw [rowsFrom, List.mem_cons] at hr
    rcases hr with rfl | hr
    · exact h
    · exact of_mem_rowsAll (id + 1) (depth + 1) (some (id, p)) ns (fun _ => h.child) r hr

theorem of_mem_rowsAll (id depth : Nat) (parent : Option (Nat × FilePath)) :
    ∀ ns : List Node, (∀ n ∈ ns, Throughout P n) → ∀ r ∈ rowsAll id depth parent ns,
      Throughout P r.node
  | [], _, _, hr => absurd hr List.not_mem_nil
  | n :: ns, h, r, hr => by
    obtain ⟨hn, hns⟩ := List.forall_mem_cons.1 h
    rw [rowsAll, List.mem_append] at hr
    rcases hr with hr | hr
    · exact of_mem_rowsFrom id depth parent n hn r hr
    · exact of_mem_rowsAll (id + n.count) depth parent ns hns r hr

end

/-- What holds of a row holds of every directory in the tree. -/
theorem of_mem_rows (h : Throughout P n) {r : Row} (hr : r ∈ n.rows) : Throughout P r.node :=
  of_mem_rowsFrom 0 0 none n h r hr

end Throughout

end Node

end Report

end Coverage
