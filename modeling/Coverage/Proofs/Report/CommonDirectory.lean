import Coverage.Proofs.Report.Folding

/-!
# The common directory

The paths of a report are counted from the deepest directory that leads to the directory of every
file. It is the meet of these directories (`isPrefix_commonDirectory_iff`), so the order of the
files does not show in it (`commonDirectory_perm`), and no file loses more than that directory
(`append_stripped`).
-/

namespace Coverage

/-- Paths that the same lists of segments lead to are equal. -/
theorem FilePath.eq_of_isPrefix_iff {p q : FilePath}
    (h : ∀ l, l <+: p.segments ↔ l <+: q.segments) : p = q := by
  have hpq : p.segments <+: q.segments := (h _).1 List.prefix_rfl
  have hqp : q.segments <+: p.segments := (h _).2 List.prefix_rfl
  exact eq_of_segments (hpq.eq_of_length_le hqp.length_le)

namespace Report

/-- The directory that contains a file. -/
def directoryOf (r : FileRecord) : FilePath := (FilePath.parse r.path).directory

variable {s : Snapshot}

/-- What leads to the common directory is what leads to the directory of every file. -/
theorem isPrefix_commonDirectory_iff (hfiles : s.files ≠ []) {l : List String} :
    l <+: (commonDirectory s).segments ↔ ∀ r ∈ s.files, l <+: (directoryOf r).segments :=
  ⟨fun h _ hr => h.trans (isPrefix_commonDirectory hr), isPrefix_commonDirectory_of hfiles⟩

theorem commonDirectory_perm {t : Snapshot} (h : t.files.Perm s.files) :
    commonDirectory t = commonDirectory s := by
  by_cases hfiles : s.files = []
  · have hnone : t.files = [] := List.perm_nil.1 (hfiles ▸ h)
    rw [commonDirectory, commonDirectory, hfiles, hnone]
  · have hsome : t.files ≠ [] := fun hnil => hfiles (List.nil_perm.1 (hnil ▸ h))
    refine FilePath.eq_of_isPrefix_iff fun l => ?_
    rw [isPrefix_commonDirectory_iff hfiles, isPrefix_commonDirectory_iff hsome]
    exact ⟨fun hl r hr => hl r (h.mem_iff.2 hr), fun hl r hr => hl r (h.mem_iff.1 hr)⟩

theorem isPrefix_parse {r : FileRecord} (hr : r ∈ s.files) :
    (commonDirectory s).segments <+: (FilePath.parse r.path).segments :=
  (isPrefix_commonDirectory hr).trans (List.dropLast_prefix _)

/-! ### Paths from the common directory on -/

/-- A path of a snapshot from the common directory on. -/
def stripped (s : Snapshot) (p : FilePath) : FilePath := p.strip (commonDirectory s).size

variable {p q : FilePath}

/-- The common directory and what stripping it leaves of a path are the whole path. -/
theorem append_stripped (h : (commonDirectory s).segments <+: p.segments) :
    (commonDirectory s).segments ++ (stripped s p).segments = p.segments :=
  List.prefix_iff_eq_append.1 h

/-- Stripping the common directory tells the paths apart that it leads to. -/
theorem stripped_inj (hp : (commonDirectory s).segments <+: p.segments)
    (hq : (commonDirectory s).segments <+: q.segments) :
    stripped s p = stripped s q ↔ p = q := by
  refine ⟨fun h => FilePath.eq_of_segments ?_, fun h => h ▸ rfl⟩
  rw [← append_stripped hp, ← append_stripped hq, h]

theorem stripped_commonDirectory (s : Snapshot) : stripped s (commonDirectory s) = .root :=
  FilePath.eq_of_segments List.drop_length

theorem isRoot_stripped (h : (commonDirectory s).segments <+: p.segments) :
    (stripped s p).isRoot = true ↔ p = commonDirectory s := by
  rw [← stripped_inj h List.prefix_rfl, stripped_commonDirectory, FilePath.isRoot,
    List.isEmpty_iff]
  exact ⟨FilePath.eq_of_segments, congrArg FilePath.segments⟩

theorem directory_stripped (s : Snapshot) (p : FilePath) :
    (stripped s p).directory = stripped s p.directory :=
  FilePath.directory_strip p _

/-! ### The common directory is the deepest one -/

/-- In a snapshot with files, each of which has a path with a segment, the common directory is the
longest list of segments that the directory of every file starts with, and it does not depend on the
order of the files. Every file has an entry with a path that is not empty, and the common directory
followed by that path is the path of the file. -/
theorem commonDirectory_greatest (s : Snapshot) (hfiles : s.files ≠ [])
    (hpaths : ∀ r ∈ s.files, (FilePath.parse r.path).isRoot = false) :
    (∀ r ∈ s.files, (commonDirectory s).segments <+: (directoryOf r).segments) ∧
      (∀ l : List String, (∀ r ∈ s.files, l <+: (directoryOf r).segments) →
        l <+: (commonDirectory s).segments ∧ l.length ≤ (commonDirectory s).size) ∧
      (∀ t : Snapshot, t.files.Perm s.files → commonDirectory t = commonDirectory s) ∧
      (entries s).map Entry.record = s.files ∧
      ∀ e ∈ entries s, e.path.isRoot = false ∧
        (commonDirectory s).segments ++ e.path.segments =
          (FilePath.parse e.record.path).segments := by
  refine ⟨fun r hr => isPrefix_commonDirectory hr, fun l hl => ?_, fun t => commonDirectory_perm,
    map_record_entries s, fun e he => ⟨isRoot_of_mem_entries hpaths e he, ?_⟩⟩
  · have hleads := isPrefix_commonDirectory_of hfiles hl
    exact ⟨hleads, hleads.length_le⟩
  · obtain ⟨r, hr, rfl⟩ := List.mem_map.1 he
    exact append_stripped (isPrefix_parse hr)

/-- The files of the project in the opposite order. -/
def reversedProject : Snapshot :=
  ⟨project.files.reverse, by rw [List.map_reverse]; exact List.nodup_reverse.2 project.distinct⟩

theorem commonDirectory_greatest_project :
    project.files ≠ [] ∧ (∀ r ∈ project.files, (FilePath.parse r.path).isRoot = false) ∧
      commonDirectory project = ⟨["prj"]⟩ ∧ commonDirectory reversedProject = ⟨["prj"]⟩ ∧
      ¬ ["prj", "lib1"] <+: (commonDirectory project).segments ∧
      ∀ e ∈ entries project, e.path.isRoot = false ∧
        "prj" :: e.path.segments = (FilePath.parse e.record.path).segments := by
  have hfiles : project.files ≠ [] := by decide
  have hpaths : ∀ r ∈ project.files, (FilePath.parse r.path).isRoot = false := by decide
  have hcommon : commonDirectory project = ⟨["prj"]⟩ := by decide +kernel
  obtain ⟨hleads, -, hperm, -, hentries⟩ := commonDirectory_greatest project hfiles hpaths
  refine ⟨hfiles, hpaths, hcommon, ?_, fun hdeep => ?_, ?_⟩
  · exact (hperm reversedProject (List.reverse_perm _)).trans hcommon
  · have hdirect := hdeep.trans (hleads (ranOnce "/prj/file1.js") (by decide))
    revert hdirect
    decide +kernel
  · intro e he
    have hpath := hentries e he
    rwa [hcommon] at hpath

end Report

end Coverage
