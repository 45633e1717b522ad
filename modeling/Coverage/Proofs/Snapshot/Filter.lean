import Coverage.Proofs.CommandLine
import Coverage.Proofs.Snapshot.InPlace
import Coverage.Snapshot.Exclude

/-!
# Leaving files out before or after merging

Whether a file is left out depends on its path alone, and merging keeps paths. A record of a file
that is kept is therefore added to the files that are kept in the same way (`add_filter_of_keep`),
and one of a file that is left out shows nowhere (`filter_of_add`). So a run of records, a list of
snapshots and the documents of several files give the same files in the same order, whether files
are left out of the parts or of the whole.

The main result is `filter_merge`.
-/

namespace Coverage.Snapshot

open CommandLine

section Add

variable {s t : Snapshot} {r m : FileRecord} {l l' : List FileRecord} {keep : String → Bool}

/-! ### One more record -/

theorem add_eq_ok_iff : s.add r = .ok t ↔ addTo r s.files = .ok t.files := by
  rw [addTo_eq_add]
  constructor
  · intro h
    rw [h]
    rfl
  · intro h
    cases hadd : s.add r with
    | error e =>
      rw [hadd] at h
      cases h
    | ok u =>
      rw [hadd] at h
      exact congrArg Except.ok (Snapshot.ext (Except.ok.inj h))

theorem addTo_cons_of_eq {f : FileRecord} (hf : f.path = r.path) (hm : f.merge r = .ok m) :
    addTo r (f :: l) = .ok (m :: l) := by
  rw [addTo, if_pos hf, hm]
  rfl

theorem addTo_cons_of_ne {f : FileRecord} (hf : f.path ≠ r.path) (h : addTo r l = .ok l') :
    addTo r (f :: l) = .ok (f :: l') := by
  rw [addTo, if_neg hf, h]
  rfl

/-- What adding a record to a list that is not empty can do. -/
theorem addTo_cons_cases {f : FileRecord} (h : addTo r (f :: l) = .ok l') :
    (∃ m, f.path = r.path ∧ f.merge r = .ok m ∧ l' = m :: l) ∨
      ∃ rest, f.path ≠ r.path ∧ addTo r l = .ok rest ∧ l' = f :: rest := by
  rw [addTo] at h
  by_cases hf : f.path = r.path
  · rw [if_pos hf] at h
    cases hm : f.merge r with
    | error e =>
      rw [hm] at h
      cases h
    | ok m =>
      rw [hm] at h
      cases h
      exact .inl ⟨m, hf, rfl, rfl⟩
  · rw [if_neg hf] at h
    cases hrest : addTo r l with
    | error e =>
      rw [hrest] at h
      cases h
    | ok rest =>
      rw [hrest] at h
      cases h
      exact .inr ⟨rest, hf, rfl, rfl⟩

/-- A record of a file that is kept goes to the same place among the files that are kept. -/
theorem addTo_filter_of_keep (hr : keep r.path = true) (h : addTo r l = .ok l') :
    addTo r (l.filter fun f => keep f.path) = .ok (l'.filter fun f => keep f.path) := by
  induction l generalizing l' with
  | nil =>
    cases h
    rw [List.filter_cons_of_pos (by simpa using hr)]
    rfl
  | cons f l ih =>
    rcases addTo_cons_cases h with ⟨m, hf, hm, rfl⟩ | ⟨rest, hf, hrest, rfl⟩
    · have hpath : m.path = r.path := (FileRecord.path_of_merge hm).trans hf
      rw [List.filter_cons_of_pos (by rwa [hf]), List.filter_cons_of_pos (by rwa [hpath])]
      exact addTo_cons_of_eq hf hm
    · cases hkeep : keep f.path with
      | true =>
        rw [List.filter_cons_of_pos (by simpa using hkeep),
          List.filter_cons_of_pos (by simpa using hkeep)]
        exact addTo_cons_of_ne hf (ih hrest)
      | false =>
        rw [List.filter_cons_of_neg (by simp [hkeep]), List.filter_cons_of_neg (by simp [hkeep])]
        exact ih hrest

/-- A record of a file that is left out leaves the files that are kept as they are. -/
theorem filter_of_addTo (hr : keep r.path = false) (h : addTo r l = .ok l') :
    (l'.filter fun f => keep f.path) = l.filter fun f => keep f.path := by
  induction l generalizing l' with
  | nil =>
    cases h
    rw [List.filter_cons_of_neg (by simp [hr])]
  | cons f l ih =>
    rcases addTo_cons_cases h with ⟨m, hf, hm, rfl⟩ | ⟨rest, hf, hrest, rfl⟩
    · have hpath : m.path = r.path := (FileRecord.path_of_merge hm).trans hf
      rw [List.filter_cons_of_neg (by simp [hpath, hr]), List.filter_cons_of_neg (by simp [hf, hr])]
    · rw [List.filter_cons, List.filter_cons, ih hrest]

theorem add_filter_of_keep (hr : keep r.path = true) (h : s.add r = .ok t) :
    (s.filter keep).add r = .ok (t.filter keep) :=
  add_eq_ok_iff.2 (addTo_filter_of_keep hr (add_eq_ok_iff.1 h))

theorem filter_of_add (hr : keep r.path = false) (h : s.add r = .ok t) :
    t.filter keep = s.filter keep :=
  Snapshot.ext (filter_of_addTo hr (add_eq_ok_iff.1 h))

end Add

/-! ### Runs of records and of snapshots -/

section Run

variable {s t u : Snapshot}

/-- A run of records: those of files that are kept give the files that are kept. -/
theorem foldlM_add_filter (keep : String → Bool) {rs : List FileRecord}
    (h : rs.foldlM add s = .ok u) :
    (rs.filter fun r => keep r.path).foldlM add (s.filter keep) = .ok (u.filter keep) := by
  induction rs generalizing s with
  | nil =>
    cases h
    rfl
  | cons r rs ih =>
    rw [List.foldlM_cons] at h
    cases hadd : s.add r with
    | error e =>
      rw [hadd] at h
      cases h
    | ok t =>
      rw [hadd] at h
      cases hr : keep r.path with
      | true =>
        rw [List.filter_cons_of_pos (by simpa using hr), List.foldlM_cons,
          add_filter_of_keep hr hadd]
        exact ih h
      | false =>
        rw [List.filter_cons_of_neg (by simp [hr]), ← filter_of_add hr hadd]
        exact ih h

theorem merge_filter_eq (keep : String → Bool) (h : s.merge t = .ok u) :
    (s.filter keep).merge (t.filter keep) = .ok (u.filter keep) := by
  rw [merge_eq_foldlM] at h ⊢
  exact foldlM_add_filter keep h

/-- A list of snapshots that are merged one after the other. -/
theorem foldlM_merge_filter (keep : String → Bool) {l : List Snapshot}
    (h : l.foldlM merge s = .ok u) :
    (l.map fun t => t.filter keep).foldlM merge (s.filter keep) = .ok (u.filter keep) := by
  induction l generalizing s with
  | nil =>
    cases h
    rfl
  | cons t l ih =>
    rw [List.foldlM_cons] at h
    cases hmerge : s.merge t with
    | error e =>
      rw [hmerge] at h
      cases h
    | ok m =>
      rw [hmerge] at h
      rw [List.map_cons, List.foldlM_cons, merge_filter_eq keep hmerge]
      exact ih h

end Run

/-! ### Documents -/

/-- Files are left out of what documents give together when they are left out of each of them. -/
theorem mergeInto_filter {d d' : Disk} {paths : List String} {s u : Snapshot}
    (keep : String → Bool)
    (hdocuments : ∀ path ∈ paths, ∀ t, d.snapshot path = .ok t →
      d'.snapshot path = .ok (t.filter keep))
    (h : d.mergeInto s paths = .ok u) :
    d'.mergeInto (s.filter keep) paths = .ok (u.filter keep) := by
  induction paths generalizing s with
  | nil =>
    cases h
    rfl
  | cons path paths ih =>
    obtain ⟨hfirst, hrest⟩ := List.forall_mem_cons.1 hdocuments
    obtain ⟨t, m, hread, hmerge, h⟩ := mergeInto_cons_iff.1 h
    exact mergeInto_cons_iff.2
      ⟨t.filter keep, m.filter keep, hfirst t hread, merge_filter_eq keep hmerge, ih hrest h⟩

/-! ### What is kept -/

theorem mem_filter_iff {s : Snapshot} {keep : String → Bool} {r : FileRecord} :
    r ∈ (s.filter keep).files ↔ r ∈ s.files ∧ keep r.path = true := List.mem_filter

theorem find?_eq_some_iff {s : Snapshot} {path : String} {r : FileRecord} :
    s.find? path = some r ↔ r ∈ s.files ∧ r.path = path := by
  constructor
  · intro h
    have hpath : r.path = path := by simpa using List.find?_some h
    exact ⟨List.mem_of_find?_eq_some h, hpath⟩
  · rintro ⟨hr, rfl⟩
    exact mem_files_iff.1 hr

/-- The record of a file that is kept is the one that was there. -/
theorem find?_filter (s : Snapshot) (keep : String → Bool) (path : String) :
    (s.filter keep).find? path = if keep path then s.find? path else none := by
  apply Option.ext
  intro r
  rw [find?_eq_some_iff, mem_filter_iff]
  split
  · next hkeep =>
    rw [find?_eq_some_iff]
    constructor
    · exact fun h => ⟨h.1.1, h.2⟩
    · rintro ⟨hr, rfl⟩
      exact ⟨⟨hr, hkeep⟩, rfl⟩
  · next hout =>
    refine ⟨?_, nofun⟩
    rintro ⟨⟨-, hkeep⟩, rfl⟩
    exact absurd hkeep hout

/-- Where snapshots merge, leaving files out of the result and leaving them out of both sides is
the same, also in the order of the files, and these merge too. The same goes for leaving out the
files that match patterns and any list of snapshots, or the documents that hold them. A file that is
kept is not altered, and what is kept stays in its order. -/
theorem filter_merge :
    (∀ (s t u : Snapshot) (keep : String → Bool), s.merge t = .ok u →
      (s.filter keep).merge (t.filter keep) = .ok (u.filter keep)) ∧
    (∀ (patterns : List Pattern) (l : List Snapshot) (u : Snapshot),
      l.foldlM merge empty = .ok u →
      (l.map fun t => t.exclude patterns).foldlM merge empty = .ok (u.exclude patterns)) ∧
    (∀ (patterns : List Pattern) (d d' : Disk) (paths : List String) (u : Snapshot),
      (∀ path ∈ paths, ∀ t, Reads d (readSnapshot .inMemory path) (.ok t) →
        Reads d' (readSnapshot .inMemory path) (.ok (t.exclude patterns))) →
      Reads d (readSnapshots .inMemory paths empty) (.ok u) →
      Reads d' (readSnapshots .inMemory paths empty) (.ok (u.exclude patterns))) ∧
    ∀ (s : Snapshot) (keep : String → Bool),
      (s.filter keep).files.Sublist s.files ∧
      (∀ r, r ∈ (s.filter keep).files ↔ r ∈ s.files ∧ keep r.path = true) ∧
      ∀ path, (s.filter keep).find? path = if keep path then s.find? path else none := by
  refine ⟨fun s t u keep h => merge_filter_eq keep h, fun patterns l u h => ?_,
    fun patterns d d' paths u hdocuments h => ?_, fun s keep => ?_⟩
  · exact foldlM_merge_filter _ h
  · refine reads_readSnapshots_iff.2 (mergeInto_filter _ ?_ (reads_readSnapshots_iff.1 h))
    intro path hpath t ht
    exact reads_readSnapshot_iff.1 (hdocuments path hpath t (reads_readSnapshot_iff.2 ht))
  · exact ⟨List.filter_sublist, fun r => mem_filter_iff, s.find?_filter keep⟩

/-- A run that loaded two files that are left out, one of them new. -/
def laterRun : Snapshot :=
  ⟨[oneStatement "lib/c.js" 2 false, oneStatement "d.js" 1 false, oneStatement "lib/b.js" 5 false,
    oneStatement "a.js" 3 false], by decide⟩

/-- An earlier run, which loaded one of these. -/
def earlierRun : Snapshot :=
  ⟨[oneStatement "lib/b.js" 4 false, oneStatement "a.js" 0 true], by decide⟩

theorem filter_merge_laterRun :
    ∃ u, earlierRun.merge laterRun = .ok u ∧
      u.paths = ["lib/b.js", "a.js", "lib/c.js", "d.js"] ∧
      (earlierRun.filter fun path => path ∈ ["a.js", "d.js"]).merge
        (laterRun.filter fun path => path ∈ ["a.js", "d.js"]) =
          .ok (u.filter fun path => path ∈ ["a.js", "d.js"]) ∧
      (u.filter fun path => path ∈ ["a.js", "d.js"]).files =
        [oneStatement "a.js" 3 false, oneStatement "d.js" 1 false] :=
  ⟨_, rfl, rfl, filter_merge.1 _ _ _ _ rfl, rfl⟩

end Coverage.Snapshot
