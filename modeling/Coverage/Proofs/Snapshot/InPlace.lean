import Coverage.Proofs.FileRecord.InPlace
import Coverage.Proofs.Snapshot.Merge

/-!
# What a failed merge of snapshots leaves behind

Merging a snapshot adds its files one by one and stops at the first that does not fit. Each file is
merged into the one that is there, which is changed in place (`mergeInPlace`); since a merge of two
records that fails has written nothing, no file is left half merged (`run_mergeInPlace`).

The main result is `mergeInto_stopped`: what is left is the snapshot with exactly the files that
come before the one that did not fit.
-/

namespace Coverage

namespace FileRecord

variable {a b : FileRecord}

/-- A conflict is a branch that both records count with different numbers of outcomes. -/
theorem exists_of_conflict?_eq_some {id : Id} {expected found : Nat}
    (h : a.conflict? b = some (id, expected, found)) :
    ∃ counts counts', a.branchHits.get? id = some counts ∧ b.branchHits.get? id = some counts' ∧
      counts.length ≠ counts'.length ∧ expected = counts.length ∧ found = counts'.length := by
  obtain ⟨⟨id', counts'⟩, hmem, hconflict⟩ := List.exists_of_findSome?_eq_some h
  cases hmine : a.branchHits.get? id' with
  | none => simp [hmine] at hconflict
  | some counts =>
    simp only [hmine, Option.ite_none_right_eq_some, Option.some.injEq, Prod.mk.injEq] at hconflict
    obtain ⟨hlength, rfl, rfl, rfl⟩ := hconflict
    exact ⟨counts, counts', hmine, Table.get?_eq_some_iff.2 hmem, hlength, rfl, rfl⟩

/-- Records of one file fail to merge for one reason only. -/
theorem conflict_of_merge_error {e : Error} (hpath : a.path = b.path) (h : a.merge b = .error e) :
    ∃ id counts counts', a.branchHits.get? id = some counts ∧
      b.branchHits.get? id = some counts' ∧ counts.length ≠ counts'.length ∧
      e = .branchShapesDiffer b.path id counts.length counts'.length := by
  cases hother : b.unexecuted with
  | true =>
    rw [merge_unexecuted hpath hother] at h
    cases h
  | false =>
    cases hmine : a.unexecuted with
    | true =>
      rw [unexecuted_merge hpath hmine hother] at h
      cases h
    | false =>
      cases hconflict : a.conflict? b with
      | none =>
        rw [merge_eq_ok hpath hmine hother hconflict] at h
        cases h
      | some e =>
        obtain ⟨id, expected, found⟩ := e
        rw [merge_eq_error hpath hmine hother hconflict] at h
        cases h
        obtain ⟨counts, counts', hcounts, hcounts', hlength, rfl, rfl⟩ :=
          exists_of_conflict?_eq_some hconflict
        exact ⟨id, counts, counts', hcounts, hcounts', hlength, by rw [hpath]⟩

end FileRecord

namespace Snapshot

/-! ### Merging in place -/

/-- Adds a record to a list of files: the file of its path is changed in place, also when this
fails. -/
def addToInPlace (r : FileRecord) : List FileRecord → EStateM.Result Error (List FileRecord) Unit
  | [] => .ok () [r]
  | f :: rest =>
    if f.path = r.path then
      match (FileRecord.mergeInPlace r).run f with
      | .ok _ left => .ok () (left :: rest)
      | .error e left => .error e (left :: rest)
    else
      match addToInPlace r rest with
      | .ok _ left => .ok () (f :: left)
      | .error e left => .error e (f :: left)

/-- Adds a record to the files of a snapshot. -/
def addInPlace (r : FileRecord) : EStateM Error (List FileRecord) Unit := addToInPlace r

/-- Adds the files of `other` one after the other. -/
def mergeInPlace (other : Snapshot) : EStateM Error (List FileRecord) Unit :=
  forM other.files addInPlace

theorem addToInPlace_eq (r : FileRecord) (l : List FileRecord) :
    addToInPlace r l =
      match addTo r l with
      | .ok left => .ok () left
      | .error e => .error e l := by
  induction l with
  | nil => rfl
  | cons f rest ih =>
    rw [addToInPlace, addTo]
    by_cases hf : f.path = r.path
    · rw [if_pos hf, if_pos hf, FileRecord.run_mergeInPlace]
      cases f.merge r <;> rfl
    · rw [if_neg hf, if_neg hf, ih]
      cases addTo r rest <;> rfl

theorem addTo_eq_add (s : Snapshot) (r : FileRecord) : addTo r s.files = (s.add r).map files := by
  unfold add
  split
  · next h => exact h
  · next h => exact h

theorem run_addInPlace (s : Snapshot) (r : FileRecord) :
    (addInPlace r).run s.files =
      match s.add r with
      | .ok t => .ok () t.files
      | .error e => .error e s.files := by
  refine (addToInPlace_eq r s.files).trans ?_
  rw [addTo_eq_add]
  cases s.add r <;> rfl

/-- Merging in place leaves the same files, whether it fails or not. -/
theorem run_mergeInPlace (s other : Snapshot) :
    (mergeInPlace other).run s.files =
      match s.mergeInto other with
      | (t, none) => .ok () t.files
      | (t, some e) => .error e t.files := by
  rw [mergeInPlace, mergeInto]
  generalize other.files = rs
  induction rs generalizing s with
  | nil => rfl
  | cons r rs ih =>
    rw [List.forM_cons, EStateM.run_bind, run_addInPlace, addAll]
    cases s.add r with
    | error e => rfl
    | ok t => exact ih t

/-! ### Where a merge stops -/

section AddAll

variable {s t : Snapshot} {rs : List FileRecord} {e : Error}

theorem addAll_eq_error (h : s.addAll rs = (t, some e)) :
    ∃ before f behind, rs = before ++ f :: behind ∧ s.addAll before = (t, none) ∧
      t.add f = .error e := by
  induction rs generalizing s with
  | nil => cases h
  | cons r rs ih =>
    rw [addAll] at h
    cases hadd : s.add r with
    | error e' =>
      rw [hadd] at h
      cases h
      exact ⟨[], r, rs, rfl, rfl, hadd⟩
    | ok u =>
      rw [hadd] at h
      obtain ⟨before, f, behind, rfl, hbefore, hf⟩ := ih h
      refine ⟨r :: before, f, behind, rfl, ?_, hf⟩
      rw [addAll, hadd]
      exact hbefore

theorem exists_of_joined_error {old : Option FileRecord} {r : FileRecord}
    (h : joined old r = .error e) : ∃ mine, old = some mine ∧ mine.merge r = .error e := by
  cases old with
  | none => cases h
  | some mine => exact ⟨mine, rfl, h⟩

theorem joined_of_add_error {r : FileRecord} (h : s.add r = .error e) :
    joined (s.find? r.path) r = .error e := by
  cases hj : joined (s.find? r.path) r with
  | error e' =>
    rw [add_of_error hj] at h
    cases h
    rfl
  | ok m =>
    obtain ⟨u, hu, -⟩ := add_of_ok hj
    rw [hu] at h
    cases h

/-- A record that is added is merged with the one of its path, and all other paths stay as they
are. -/
theorem find?_of_add {r : FileRecord} (h : s.add r = .ok t) :
    ∃ m, joined (s.find? r.path) r = .ok m ∧
      ∀ path, t.find? path = if r.path = path then some m else s.find? path := by
  cases hj : joined (s.find? r.path) r with
  | error e =>
    rw [add_of_error hj] at h
    cases h
  | ok m =>
    obtain ⟨u, hu, hfind⟩ := add_of_ok hj
    rw [hu] at h
    cases h
    exact ⟨m, rfl, hfind⟩

theorem find?_of_addAll (hdistinct : (rs.map (·.path)).Nodup) (h : s.addAll rs = (t, none)) :
    (∀ r ∈ rs, ∃ m, joined (s.find? r.path) r = .ok m ∧ t.find? r.path = some m) ∧
      ∀ path, path ∉ rs.map (·.path) → t.find? path = s.find? path := by
  induction rs generalizing s with
  | nil =>
    cases h
    exact ⟨nofun, fun _ _ => rfl⟩
  | cons r rs ih =>
    obtain ⟨hnew, hdistinct⟩ := List.nodup_cons.1 hdistinct
    rw [addAll] at h
    cases hadd : s.add r with
    | error e =>
      rw [hadd] at h
      cases h
    | ok u =>
      rw [hadd] at h
      obtain ⟨m, hm, hfind⟩ := find?_of_add hadd
      obtain ⟨hmerged, hother⟩ := ih hdistinct h
      refine ⟨List.forall_mem_cons.2 ⟨⟨m, hm, ?_⟩, fun x hx => ?_⟩, fun path hpath => ?_⟩
      · rw [hother _ hnew, hfind, if_pos rfl]
      · have hne : r.path ≠ x.path := fun heq => hnew (List.mem_map.2 ⟨x, hx, heq.symm⟩)
        obtain ⟨m', hm', hx'⟩ := hmerged x hx
        rw [hfind, if_neg hne] at hm'
        exact ⟨m', hm', hx'⟩
      · rw [List.map_cons, List.mem_cons, not_or] at hpath
        rw [hother path hpath.2, hfind, if_neg (Ne.symm hpath.1)]

/-- Only paths that are new are put at the end. -/
theorem paths_of_addAll (hdistinct : (rs.map (·.path)).Nodup) (h : s.addAll rs = (t, none)) :
    t.paths = s.paths ++ (rs.map (·.path)).filter (· ∉ s.paths) := by
  induction rs generalizing s with
  | nil =>
    cases h
    simp
  | cons r rs ih =>
    obtain ⟨hnew, hdistinct⟩ := List.nodup_cons.1 hdistinct
    rw [addAll] at h
    cases hadd : s.add r with
    | error e =>
      rw [hadd] at h
      cases h
    | ok u =>
      rw [hadd] at h
      have hpaths : u.paths = if r.path ∈ s.paths then s.paths else s.paths ++ [r.path] := by
        apply paths_of_addTo
        rw [addTo_eq_add, hadd]
        rfl
      rw [ih hdistinct h, hpaths, List.map_cons, List.filter_cons]
      by_cases hr : r.path ∈ s.paths
      · simp only [hr, if_true, not_true_eq_false, decide_false, Bool.false_eq_true, if_false]
      · have hfilter : (rs.map (·.path)).filter (· ∉ s.paths ++ [r.path]) =
            (rs.map (·.path)).filter (· ∉ s.paths) := by
          refine List.filter_congr fun path hpath => ?_
          have hne : path ≠ r.path := fun heq => hnew (by rwa [heq] at hpath)
          simp [hne]
        simp only [hr, if_false, not_false_eq_true, decide_true, if_true, hfilter,
          List.append_assoc, List.singleton_append]

end AddAll

/-- When a merge of snapshots fails, it stops at the first file `f` of `other` that does not fit the
one that is there, because they count a branch with different numbers of outcomes. The files before
`f` have been merged; `f` and the files behind it have left no trace. -/
theorem mergeInto_stopped {s other t : Snapshot} {e : Error} (h : s.mergeInto other = (t, some e)) :
    (mergeInPlace other).run s.files = .error e t.files ∧
    ∃ before f behind mine, other.files = before ++ f :: behind ∧
      s.addAll before = (t, none) ∧
      (∀ r ∈ before, ∃ m, joined (s.find? r.path) r = .ok m ∧ t.find? r.path = some m) ∧
      (s.find? f.path = some mine ∧ mine.merge f = .error e ∧
        ∃ id counts counts', mine.branchHits.get? id = some counts ∧
          f.branchHits.get? id = some counts' ∧ counts.length ≠ counts'.length ∧
          e = .branchShapesDiffer f.path id counts.length counts'.length) ∧
      (∀ r ∈ f :: behind, t.find? r.path = s.find? r.path) ∧
      (∀ path, path ∉ before.map (·.path) → t.find? path = s.find? path) ∧
      t.paths = s.paths ++ (before.map (·.path)).filter (· ∉ s.paths) := by
  obtain ⟨before, f, behind, hfiles, hbefore, hf⟩ := addAll_eq_error h
  have hdistinct := other.distinct
  rw [hfiles, List.map_append, List.nodup_append] at hdistinct
  obtain ⟨hfront, -, hapart⟩ := hdistinct
  obtain ⟨hmerged, hrest⟩ := find?_of_addAll hfront hbefore
  have huntouched : ∀ r ∈ f :: behind, t.find? r.path = s.find? r.path := by
    intro r hr
    apply hrest
    intro hmem
    exact hapart _ hmem _ (List.mem_map_of_mem hr) rfl
  have hjoined := joined_of_add_error hf
  rw [huntouched f List.mem_cons_self] at hjoined
  obtain ⟨mine, hmine, hmerge⟩ := exists_of_joined_error hjoined
  have hfound : s.files.find? (fun r => r.path = f.path) = some mine := hmine
  have hpath : mine.path = f.path := by simpa using List.find?_some hfound
  refine ⟨?_, before, f, behind, mine, hfiles, hbefore, hmerged,
    ⟨hmine, hmerge, FileRecord.conflict_of_merge_error hpath hmerge⟩, huntouched, hrest,
    paths_of_addAll hfront hbefore⟩
  rw [run_mergeInPlace, h]

/-- Two files that were seen before. -/
def seenBefore : Snapshot :=
  ⟨[.oneBranch "a.js" 0 [1, 0], .oneBranch "b.js" 0 [1]], by decide⟩

/-- Three files of which the second has another branch than before. -/
def seenAgain : Snapshot :=
  ⟨[.oneBranch "b.js" 0 [2], .oneBranch "a.js" 0 [0, 0, 4], .oneBranch "c.js" 0 [1]], by decide⟩

theorem mergeInto_stopped_seenAgain :
    ∃ t e, seenBefore.mergeInto seenAgain = (t, some e) ∧
      (mergeInPlace seenAgain).run seenBefore.files = .error e t.files ∧
      t.files = [.oneBranch "a.js" 0 [1, 0], .oneBranch "b.js" 0 [3]] ∧
      t.find? "a.js" = seenBefore.find? "a.js" ∧ t.find? "c.js" = none := by
  have hrun : seenBefore.mergeInto seenAgain =
      (⟨[.oneBranch "a.js" 0 [1, 0], .oneBranch "b.js" 0 [3]], by decide⟩,
        some (.branchShapesDiffer "a.js" 0 2 3)) := rfl
  obtain ⟨hinPlace, -⟩ := mergeInto_stopped hrun
  exact ⟨_, _, hrun, hinPlace, rfl, rfl, rfl⟩

end Snapshot

end Coverage
