import Coverage.Proofs.Remap.Arrival
import Coverage.Proofs.Remap.Entries
import Coverage.Proofs.Snapshot.Merge

/-!
# Files that nothing is moved onto stay as they are

An event changes the record of the source that it reaches and no other (`Event.mem_apply_of_ne`). A
file without a source map is carried over in one event, and where this is the first event to reach
its source, the record is put behind the others as it is. So it comes out as it went in if no other
file reaches the source, before it or behind it.
-/

namespace Coverage.Remap

open SourceMap (Consumer)

namespace Event

variable {ev : Event} {evs : List Event} {out : Sources} {e : String × FileRecord}

/-- The step: an event leaves the records of all other sources as they are. -/
theorem mem_apply_of_ne (he : e ∈ out) (hne : sourceKey ev.path ≠ e.1) : e ∈ ev.apply out := by
  rcases ev.apply_cases out with ⟨r, -, -, happly⟩ | ⟨happly, -⟩
  · rw [happly]
    exact List.mem_append_left _ he
  · rw [happly]
    rcases Sources.mem_of_updateAt (sourceKey ev.path) ev.path (Deposit.addAllTo · ev.deposits) he
      with hmem | rfl
    · exact hmem
    · exact absurd rfl hne

/-- The run: events that reach other sources leave a record as it is. -/
theorem mem_applyAll_of_ne (he : e ∈ out) (hne : ∀ ev ∈ evs, sourceKey ev.path ≠ e.1) :
    e ∈ applyAll out evs := by
  induction evs generalizing out with
  | nil => exact he
  | cons ev evs ih =>
    obtain ⟨hev, hevs⟩ := List.forall_mem_cons.1 hne
    exact ih (mem_apply_of_ne he hev) hevs

/-- A record that is carried over to a source that nothing has reached yet is put at the end. -/
theorem apply_carried {r : FileRecord} (hnew : sourceKey r.path ∉ out.map (·.1)) :
    (carried r).apply out = out ++ [(sourceKey r.path, r)] := by
  rw [apply, carryOver, Sources.lookup_eq_none.2 hnew]

/-- Records of different sources that are carried over stand one behind the other. -/
theorem applyAll_carried {rs : List FileRecord} {out : Sources}
    (hnodup : (out.map (·.1) ++ rs.map fun r => sourceKey r.path).Nodup) :
    applyAll out (rs.map carried) = out ++ rs.map fun r => (sourceKey r.path, r) := by
  induction rs generalizing out with
  | nil => exact (List.append_nil out).symm
  | cons r rs ih =>
    rw [List.map_cons] at hnodup
    have hnew : sourceKey r.path ∉ out.map (·.1) := fun hmem =>
      (List.nodup_append.1 hnodup).2.2 _ hmem _ List.mem_cons_self rfl
    rw [List.map_cons, applyAll, List.foldl_cons, apply_carried hnew, ← applyAll, ih]
    · simp
    · simpa using hnodup

end Event

variable {find : FileRecord → Option Consumer} {s : Snapshot} {r : FileRecord}

theorem sourceKey_ne_of_reaches {files : List FileRecord} {name : String}
    (h : ∀ f ∈ files, reaches find name f = false) :
    ∀ ev ∈ files.flatMap (events find), sourceKey ev.path ≠ name := by
  intro ev hev
  obtain ⟨f, hf, hev⟩ := List.mem_flatMap.1 hev
  have hnot := h f hf
  rw [reaches, List.any_eq_false] at hnot
  simpa using hnot ev hev

/-- A file without a source map whose source no other file reaches comes out as it went in. -/
theorem mem_files_onSources (hr : r ∈ s.files) (hfind : find r = none)
    (halone : ∀ f ∈ s.files, f ≠ r → reaches find (sourceKey r.path) f = false) :
    r ∈ (onSources find s).files := by
  obtain ⟨out, hout, -, hfiles⟩ := exists_sources find s
  obtain ⟨before, behind, hsplit⟩ := List.append_of_mem hr
  have hdistinct := List.Nodup.of_map _ s.distinct
  rw [hsplit, List.nodup_middle, List.nodup_cons, List.mem_append, not_or] at hdistinct
  have hbefore := sourceKey_ne_of_reaches fun f hf =>
    halone f (hsplit ▸ List.mem_append_left _ hf) fun heq => hdistinct.1.1 (heq ▸ hf)
  have hbehind := sourceKey_ne_of_reaches fun f hf =>
    halone f (hsplit ▸ List.mem_append_right _ (List.mem_cons_of_mem _ hf)) fun heq =>
      hdistinct.1.2 (heq ▸ hf)
  -- Nothing has reached the source when the file is carried over, and nothing reaches it later.
  have hnew : sourceKey r.path ∉ (Event.applyAll [] (before.flatMap (events find))).map (·.1) := by
    rw [Event.mem_keys_applyAll]
    intro hreached
    obtain ⟨ev, hev, hname⟩ := hreached
    exact hbefore ev hev hname
  have hcarried := Event.apply_carried hnew
  have hown : events find r = [.carried r] := by rw [events, hfind]
  rw [hfiles, hout, hsplit, List.flatMap_append, List.flatMap_cons, hown]
  refine List.mem_map.2 ⟨(sourceKey r.path, r), ?_, rfl⟩
  rw [Event.applyAll] at hcarried ⊢
  rw [List.foldl_append, List.singleton_append, List.foldl_cons, hcarried]
  exact Event.mem_applyAll_of_ne (List.mem_append_right _ (List.mem_singleton_self _)) hbehind

theorem onSources_of_none (hfind : ∀ f ∈ s.files, find f = none)
    (hslashes : ∀ f ∈ s.files, ∀ g ∈ s.files, sourceKey f.path = sourceKey g.path →
      f.path = g.path) : onSources find s = s := by
  obtain ⟨out, hout, -, hfiles⟩ := exists_sources find s
  have hevents : s.files.flatMap (events find) = s.files.map .carried := by
    rw [List.map_eq_flatMap, List.flatMap_def, List.flatMap_def]
    refine congrArg List.flatten (List.map_congr_left fun f hf => ?_)
    rw [events, hfind f hf]
  have hnodup : (s.files.map fun r => sourceKey r.path).Nodup := by
    refine List.Nodup.map_on ?_ (List.Nodup.of_map _ s.distinct)
    intro f hf g hg heq
    exact List.inj_on_of_nodup_map s.distinct hf hg (hslashes f hf g hg heq)
  apply Snapshot.ext
  rw [hfiles, hout, hevents, Event.applyAll_carried (by simpa using hnodup), List.nil_append,
    List.map_map]
  exact List.map_id _

/-- What is not moved comes out as it went in, the whole record: a file without a source map whose
source no other file reaches is the only record of its source afterwards. Where no file has a source
map and no two paths differ in their slashes only, so does the snapshot, files in the same order. -/
theorem onSources_untouched (find : FileRecord → Option Consumer) (s : Snapshot) :
    (∀ r ∈ s.files, find r = none →
      (∀ f ∈ s.files, f ≠ r → reaches find (sourceKey r.path) f = false) →
      (onSources find s).find? r.path = some r ∧
        ∀ r' ∈ (onSources find s).files, sourceKey r'.path = sourceKey r.path → r' = r) ∧
    ((∀ f ∈ s.files, find f = none) →
      (∀ f ∈ s.files, ∀ g ∈ s.files, sourceKey f.path = sourceKey g.path → f.path = g.path) →
      onSources find s = s) := by
  refine ⟨?_, onSources_of_none⟩
  intro r hr hfind halone
  have hmem := mem_files_onSources hr hfind halone
  refine ⟨Snapshot.mem_files_iff.1 hmem, ?_⟩
  intro r' hr' hkey
  exact List.inj_on_of_nodup_map (nodup_sourceKeys find s) hr' hmem hkey

/-- The library file stays as it is beside a file that goes to another source, and without source
maps all files do. -/
theorem onSources_untouched_libraryAndSource :
    (∀ f ∈ libraryAndSource.files, f ≠ oneStatement "lib/z.js" 1 →
      reaches mapOfFirst (sourceKey "lib/z.js") f = false) ∧
    (onSources mapOfFirst libraryAndSource).find? "lib/z.js" = some (oneStatement "lib/z.js" 1) ∧
    onSources (fun _ => none) libraryAndSource = libraryAndSource := by
  have halone : ∀ f ∈ libraryAndSource.files, f ≠ oneStatement "lib/z.js" 1 →
      reaches mapOfFirst (sourceKey "lib/z.js") f = false := by
    intro f hf hne
    simp only [libraryAndSource, List.mem_cons, List.not_mem_nil, or_false] at hf
    rcases hf with rfl | rfl | rfl
    · exact absurd rfl hne
    · decide
    · decide
  obtain ⟨huntouched, -⟩ := onSources_untouched mapOfFirst libraryAndSource
  obtain ⟨-, hall⟩ := onSources_untouched (fun _ => none) libraryAndSource
  refine ⟨halone, (huntouched _ List.mem_cons_self (if_neg (by decide)) halone).1, ?_⟩
  exact hall (fun _ _ => rfl) (by decide)

end Coverage.Remap
