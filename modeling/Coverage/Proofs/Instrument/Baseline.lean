import Coverage.Instrument.Baseline
import Coverage.Proofs.Snapshot.Filter
import Coverage.Proofs.Snapshot.Listing

/-!
# Recording a baseline

A record without hits gives way to any other record of its file, so it fits into every snapshot:
where the file is known already nothing changes, else it is put at the end (`add_unexecuted`).
Recording a baseline therefore never fails, and an instrumenter that does so cannot be told from the
one inside it (`run_withBaseline`). What the baseline holds follows from the answers alone.

The main result is `withBaseline_spec`.
-/

namespace Coverage

namespace Snapshot

variable {s t : Snapshot} {r : FileRecord} {l : List FileRecord}

/-! ### Records that give way -/

/-- A record without information leaves the record of its file as it is. -/
theorem addTo_unexecuted_of_mem (hr : r.unexecuted = true) (h : r.path ∈ l.map (·.path)) :
    addTo r l = .ok l := by
  induction l with
  | nil => cases h
  | cons f l ih =>
    by_cases hf : f.path = r.path
    · exact addTo_cons_of_eq hf (FileRecord.merge_unexecuted hf hr)
    · rcases List.mem_cons.1 h with heq | hmem
      · exact absurd heq.symm hf
      · exact addTo_cons_of_ne hf (ih hmem)

/-- A record without information fits everywhere, and says something of a new file only. -/
theorem add_unexecuted (s : Snapshot) (hr : r.unexecuted = true) :
    ∃ t, s.add r = .ok t ∧
      t.files = if r.path ∈ s.paths then s.files else s.files ++ [r] := by
  by_cases h : r.path ∈ s.paths
  · exact ⟨s, add_eq_ok_iff.2 (addTo_unexecuted_of_mem hr h), (if_pos h).symm⟩
  · have hadd := addTo_of_not_mem h
    exact ⟨⟨s.files ++ [r], distinct_of_addTo s.distinct hadd⟩, add_eq_ok_iff.2 hadd,
      (if_neg h).symm⟩

/-- Records of different files are taken in when each fits what is there of its file. -/
theorem exists_addAll (hdistinct : (l.map (·.path)).Nodup)
    (h : ∀ r ∈ l, ∃ m, joined (s.find? r.path) r = .ok m) : ∃ t, s.addAll l = (t, none) := by
  induction l generalizing s with
  | nil => exact ⟨s, rfl⟩
  | cons r l ih =>
    obtain ⟨hnew, hdistinct⟩ := List.nodup_cons.1 hdistinct
    obtain ⟨⟨m, hm⟩, hl⟩ := List.forall_mem_cons.1 h
    obtain ⟨t, ht, hfind⟩ := add_of_ok hm
    have hrest : ∀ x ∈ l, ∃ m, joined (t.find? x.path) x = .ok m := by
      intro x hx
      have hne : r.path ≠ x.path := fun heq => hnew (List.mem_map.2 ⟨x, hx, heq.symm⟩)
      rw [hfind, if_neg hne]
      exact hl x hx
    obtain ⟨u, hu⟩ := ih hdistinct hrest
    refine ⟨u, ?_⟩
    rw [addAll, ht]
    exact hu

/-- Snapshots merge when every file fits, and then the file by file results are what is there. -/
theorem merge_of_joined {g : FileRecord → FileRecord}
    (h : ∀ r ∈ t.files, joined (s.find? r.path) r = .ok (g r)) :
    ∃ u, s.merge t = .ok u ∧
      ∀ path, u.find? path = ((t.find? path).map g).or (s.find? path) := by
  obtain ⟨u, hu⟩ := exists_addAll t.distinct fun r hr => ⟨g r, h r hr⟩
  obtain ⟨hmerged, hother⟩ := find?_of_addAll t.distinct hu
  refine ⟨u, by rw [merge, mergeInto, hu], fun path => ?_⟩
  cases hfind : t.find? path with
  | none =>
    refine hother path fun hmem => ?_
    obtain ⟨r, hr, rfl⟩ := List.mem_map.1 hmem
    rw [mem_files_iff.1 hr] at hfind
    cases hfind
  | some r =>
    obtain ⟨hr, rfl⟩ := find?_eq_some_iff.1 hfind
    obtain ⟨m, hm, hum⟩ := hmerged r hr
    rw [h r hr] at hm
    cases hm
    exact hum

/-- Records without information give way to those of another snapshot, on whichever side they
stand. -/
theorem merge_unexecuted_files {base real : Snapshot}
    (hbase : ∀ r ∈ base.files, r.unexecuted = true)
    (hreal : ∀ r ∈ real.files, r.unexecuted = false) :
    (∃ u, base.merge real = .ok u ∧
      ∀ path, u.find? path = (real.find? path).or (base.find? path)) ∧
    ∃ u, real.merge base = .ok u ∧
      ∀ path, u.find? path = (real.find? path).or (base.find? path) := by
  constructor
  · have hjoined : ∀ r ∈ real.files, joined (base.find? r.path) r = .ok r := by
      intro r hr
      cases hmine : base.find? r.path with
      | none => rfl
      | some mine =>
        obtain ⟨hmem, hpath⟩ := find?_eq_some_iff.1 hmine
        exact FileRecord.unexecuted_merge hpath (hbase mine hmem) (hreal r hr)
    obtain ⟨u, hu, hfind⟩ := merge_of_joined (g := fun r => r) hjoined
    exact ⟨u, hu, fun path => by rw [hfind, Option.map_id']⟩
  · have hjoined : ∀ r ∈ base.files,
        joined (real.find? r.path) r = .ok ((real.find? r.path).getD r) := by
      intro r hr
      cases hmine : real.find? r.path with
      | none => rfl
      | some mine =>
        obtain ⟨-, hpath⟩ := find?_eq_some_iff.1 hmine
        exact FileRecord.merge_unexecuted hpath (hbase r hr)
    obtain ⟨u, hu, hfind⟩ := merge_of_joined hjoined
    refine ⟨u, hu, fun path => ?_⟩
    rw [hfind]
    cases hr : base.find? path with
    | none => rw [Option.map_none, Option.none_or, Option.or_none]
    | some r =>
      obtain ⟨-, rfl⟩ := find?_eq_some_iff.1 hr
      rw [Option.map_some, Option.some_or]
      cases real.find? r.path <;> rfl

end Snapshot

namespace Instrument

/-! ### Records of programs that were not run -/

theorem count_unexecutedRecord (r : FileRecord) (c : Counter) :
    (unexecutedRecord r).count c = 0 := by
  refine FileRecord.count_eq_zero (fun id hits h => ?_) (fun id hits h => ?_)
    (fun branch counts h hits hmem => ?_) c
  · obtain ⟨-, -, rfl⟩ := Option.map_eq_some_iff.1 ((Table.get?_map ..).symm.trans h)
    rfl
  · obtain ⟨-, -, rfl⟩ := Option.map_eq_some_iff.1 ((Table.get?_map ..).symm.trans h)
    rfl
  · obtain ⟨old, -, rfl⟩ := Option.map_eq_some_iff.1 ((Table.get?_map ..).symm.trans h)
    obtain ⟨-, -, rfl⟩ := List.mem_map.1 hmem
    rfl

/-! ### What is recorded -/

variable {σ : Type}

/-- The records of the programs that were instrumented. -/
def recordsOf (answers : List (Except Error Output)) : List FileRecord :=
  answers.filterMap fun
    | .ok out => some out.record
    | .error _ => none

/-- The baseline once all answers have been taken in. -/
def collectAll (baseline : Snapshot) (answers : List (Except Error Output)) : Snapshot :=
  answers.foldl (fun b answer => (collect b answer).2) baseline

/-- What instrumentation gave is handed on, whatever the baseline holds. -/
theorem fst_collect (baseline : Snapshot) (result : Except Error Output) :
    (collect baseline result).1 = result := by
  cases result with
  | error e => rfl
  | ok out =>
    obtain ⟨t, ht, -⟩ := baseline.add_unexecuted (r := unexecutedRecord out.record) rfl
    rw [collect, ht]

theorem files_collect_ok (baseline : Snapshot) (out : Output) :
    (collect baseline (.ok out)).2.files =
      if out.record.path ∈ baseline.paths then baseline.files
      else baseline.files ++ [unexecutedRecord out.record] := by
  obtain ⟨t, ht, hfiles⟩ := baseline.add_unexecuted (r := unexecutedRecord out.record) rfl
  rw [collect, ht]
  exact hfiles

theorem paths_collect_ok (baseline : Snapshot) (out : Output) :
    (collect baseline (.ok out)).2.paths =
      if out.record.path ∈ baseline.paths then baseline.paths
      else baseline.paths ++ [out.record.path] := by
  rw [Snapshot.paths, files_collect_ok]
  split
  · rfl
  · exact List.map_append

/-- A file that is in the baseline already keeps its record. -/
theorem find?_collect_ok (baseline : Snapshot) (out : Output) (path : String) :
    (collect baseline (.ok out)).2.find? path =
      (baseline.find? path).or
        (if out.record.path = path then some (unexecutedRecord out.record) else none) := by
  rw [Snapshot.find?, files_collect_ok]
  split
  · next hmem =>
    obtain ⟨r, hr, hpath⟩ := List.mem_map.1 hmem
    by_cases hsame : out.record.path = path
    · rw [← hsame, ← hpath, Snapshot.mem_files_iff.1 hr, Option.some_or]
      exact Snapshot.mem_files_iff.1 hr
    · rw [if_neg hsame, Option.or_none]
      rfl
  · rw [List.find?_append]
    congr 1
    by_cases hsame : out.record.path = path <;> simp [hsame, unexecutedRecord, FileRecord.resetHits]

/-- An instrumenter that records a baseline gives the answers of the one inside, which goes through
the same states; the baseline follows from the answers. -/
theorem run_withBaseline (inner : Instrumenter σ) (requests : List Request) (s : WithBaseline σ) :
    inner.withBaseline.run requests s =
      ((inner.run requests s.inner).1, ⟨(inner.run requests s.inner).2,
        collectAll s.baseline (inner.run requests s.inner).1⟩) := by
  induction requests generalizing s with
  | nil => rfl
  | cons request requests ih =>
    simp only [Instrumenter.run, ih]
    simp only [Instrumenter.withBaseline, fst_collect, collectAll, List.foldl_cons]

theorem collectAll_concat (baseline : Snapshot) (answers : List (Except Error Output))
    (answer : Except Error Output) :
    collectAll baseline (answers ++ [answer]) =
      (collect (collectAll baseline answers) answer).2 := by
  rw [collectAll, List.foldl_append]
  rfl

theorem recordsOf_concat_ok (answers : List (Except Error Output)) (out : Output) :
    recordsOf (answers ++ [.ok out]) = recordsOf answers ++ [out.record] :=
  List.filterMap_append ..

theorem recordsOf_concat_error (answers : List (Except Error Output)) (e : Error) :
    recordsOf (answers ++ [.error e]) = recordsOf answers :=
  (List.filterMap_append ..).trans (List.append_nil _)

/-- The baseline lists the files that were instrumented in the order of their first times. -/
theorem paths_collectAll (answers : List (Except Error Output)) :
    (collectAll .empty answers).paths = ((recordsOf answers).map (·.path)).eraseDups := by
  induction answers using List.reverseRecOn with
  | nil => rfl
  | append_singleton answers answer ih =>
    rw [collectAll_concat]
    cases answer with
    | error e =>
      rw [recordsOf_concat_error]
      exact ih
    | ok out =>
      rw [recordsOf_concat_ok, List.map_append, List.map_singleton, Snapshot.eraseDups_concat, ← ih,
        paths_collect_ok]
      exact if_congr (by rw [ih, List.mem_eraseDups]) rfl rfl

/-- The baseline holds of each file what the first time of instrumenting it gave. -/
theorem find?_collectAll (answers : List (Except Error Output)) (path : String) :
    (collectAll .empty answers).find? path =
      ((recordsOf answers).find? fun r => r.path = path).map unexecutedRecord := by
  induction answers using List.reverseRecOn with
  | nil => rfl
  | append_singleton answers answer ih =>
    rw [collectAll_concat]
    cases answer with
    | error e =>
      rw [recordsOf_concat_error]
      exact ih
    | ok out =>
      rw [recordsOf_concat_ok, List.find?_append, Option.map_or, ← ih, find?_collect_ok]
      congr 1
      by_cases hpath : out.record.path = path <;> simp [hpath]

/-- Recording a baseline changes nothing that the instrumenter inside gives, and cannot fail; a
request that fails leaves the baseline as it is. The baseline lists the files that were
instrumented, each with the record that its first time gave, without hits. Merged with records of
files that ran, in either order, it tells of the other files only. -/
theorem withBaseline_spec (inner : Instrumenter σ) (state : σ) (requests : List Request) :
    let answers := (inner.run requests state).1
    let recorded := inner.withBaseline.run requests ⟨state, .empty⟩
    let baseline := recorded.2.baseline
    recorded.1 = answers ∧ recorded.2.inner = (inner.run requests state).2 ∧
    (∀ request s e, (inner.withBaseline request s).1 = .error e →
      (inner.withBaseline request s).2.baseline = s.baseline) ∧
    baseline.paths = ((recordsOf answers).map (·.path)).eraseDups ∧
    (∀ path, baseline.find? path =
      ((recordsOf answers).find? fun r => r.path = path).map unexecutedRecord) ∧
    (∀ r ∈ baseline.files, r.unexecuted = true ∧ ∀ c, r.count c = 0) ∧
    ∀ real : Snapshot, (∀ r ∈ real.files, r.unexecuted = false) →
      (∃ u, baseline.merge real = .ok u ∧
        ∀ path, u.find? path = (real.find? path).or (baseline.find? path)) ∧
      ∃ u, real.merge baseline = .ok u ∧
        ∀ path, u.find? path = (real.find? path).or (baseline.find? path) := by
  intro answers recorded baseline
  have hrun : recorded = (answers, ⟨(inner.run requests state).2, collectAll .empty answers⟩) :=
    run_withBaseline inner requests ⟨state, .empty⟩
  have hbaseline : baseline = collectAll .empty answers := congrArg (·.2.baseline) hrun
  have hcopies : ∀ r ∈ baseline.files, ∃ first, r = unexecutedRecord first := by
    intro r hr
    have hfind := Snapshot.mem_files_iff.1 hr
    rw [hbaseline, find?_collectAll] at hfind
    obtain ⟨first, -, hfirst⟩ := Option.map_eq_some_iff.1 hfind
    exact ⟨first, hfirst.symm⟩
  have hmarked : ∀ r ∈ baseline.files, r.unexecuted = true := by
    intro r hr
    obtain ⟨first, rfl⟩ := hcopies r hr
    rfl
  refine ⟨congrArg (·.1) hrun, congrArg (·.2.inner) hrun, fun request s e h => ?_, ?_,
    fun path => ?_, fun r hr => ⟨hmarked r hr, ?_⟩, fun real hreal => ?_⟩
  · have hfailed : (inner request s.inner).1 = .error e := (fst_collect _ _).symm.trans h
    simp only [Instrumenter.withBaseline, hfailed, collect]
  · rw [hbaseline, paths_collectAll]
  · rw [hbaseline, find?_collectAll]
  · obtain ⟨first, rfl⟩ := hcopies r hr
    exact count_unexecutedRecord first
  · exact Snapshot.merge_unexecuted_files hmarked hreal

/-- Fails on an empty program; the statement that it finds in others has the number of the
request. -/
def numberingInstrumenter : Instrumenter Nat := fun request n =>
  if request.code.isEmpty then (.error (.badSyntax request.path 1 0 (.missing ";")), n + 1)
  else
    let record := { FileRecord.empty request.path with
      statements := Table.empty.insert (.ofNat n) default
      statementHits := Table.empty.insert (.ofNat n) 0 }
    (.ok ⟨request.code, record, "", none⟩, n + 1)

/-- Two files, of which the first is changed, with a failure in between. -/
def fourRequests : List Request :=
  [⟨"a();", "a.js", none⟩, ⟨"", "c.js", none⟩, ⟨"b();", "b.js", none⟩, ⟨"a(1);", "a.js", none⟩]

/-- A run that loaded one of them, and a file that was not instrumented. -/
def laterRun : Snapshot :=
  ⟨[Snapshot.oneStatement "b.js" 5 false, Snapshot.oneStatement "d.js" 1 false], by decide⟩

theorem withBaseline_spec_fourRequests :
    let recorded := numberingInstrumenter.withBaseline.run fourRequests ⟨0, .empty⟩
    let baseline := recorded.2.baseline
    recorded.1.map Except.isOk = [true, false, true, true] ∧
    baseline.files = [Snapshot.oneStatement "a.js" 0 true,
      { Snapshot.oneStatement "b.js" 0 true with
        statements := Table.empty.insert 2 default
        statementHits := Table.empty.insert 2 0 }] ∧
    ∃ u, baseline.merge laterRun = .ok u ∧ u.paths = ["a.js", "b.js", "d.js"] ∧
      u.find? "b.js" = some (Snapshot.oneStatement "b.js" 5 false) ∧
      u.find? "a.js" = baseline.find? "a.js" := by
  intro recorded baseline
  have hexecuted : ∀ r ∈ laterRun.files, r.unexecuted = false := by decide
  obtain ⟨-, -, -, -, -, -, hmerge⟩ := withBaseline_spec numberingInstrumenter 0 fourRequests
  obtain ⟨⟨u, hu, hfind⟩, -⟩ := hmerge laterRun hexecuted
  have hpaths : u.paths = ["a.js", "b.js", "d.js"] := by
    cases hu
    rfl
  exact ⟨rfl, rfl, u, hu, hpaths, hfind "b.js", hfind "a.js"⟩

end Instrument

end Coverage
