import Coverage.Proofs.Remap.Snapshot
import Coverage.Proofs.Snapshot.Merge

/-!
# Sources stand in the order in which they are reached

Every event reaches one source. The first event that reaches a source opens its record: it gives
the record its path, and it alone decides whether the record is marked as unexecuted. What comes
later adds entries and changes neither (`opened_applyAll`). So the collected records are those of
the sources that are reached, each once, in the order of the first events (`keys_applyAll`).

The main result is `onSources_collected`: whichever ways the entries of a source took, its record
is sound, no two records are for one source, none is lost in the end, and the records stand in the
order in which the sources were first reached.
-/

namespace Coverage

open SourceMap (Consumer)

namespace Deposit

theorem unexecuted_addTo (r : FileRecord) (d : Deposit) :
    (d.addTo r).unexecuted = r.unexecuted := by
  cases d <;> rfl

theorem unexecuted_addAllTo (r : FileRecord) (ds : List Deposit) :
    (addAllTo r ds).unexecuted = r.unexecuted := by
  induction ds generalizing r with
  | nil => rfl
  | cons d ds ih => exact (ih (d.addTo r)).trans (unexecuted_addTo r d)

end Deposit

namespace Remap

namespace Event

/-- Whether an event gives the record that it opens the mark of files that were never run. -/
def unexecuted : Event → Bool
  | carried r => r.unexecuted
  | landed _ _ => false

/-- A record has the path and the mark of an event. -/
def Opens (ev : Event) (r : FileRecord) : Prop := r.path = ev.path ∧ r.unexecuted = ev.unexecuted

/-- After an event a record is for a source that was there before, with the same path and the same
mark, or it is for a new source, and the event has opened it. -/
theorem mem_apply {ev : Event} {out : Sources} {e : String × FileRecord} (he : e ∈ ev.apply out) :
    (∃ old ∈ out, old.1 = e.1 ∧ old.2.path = e.2.path ∧ old.2.unexecuted = e.2.unexecuted) ∨
    (e.1 ∉ out.map (·.1) ∧ e.1 = sourceKey ev.path ∧ ev.Opens e.2) := by
  rcases ev.apply_cases out with ⟨r, rfl, hnew, happly⟩ | ⟨happly, hway⟩
  · rw [happly] at he
    rcases List.mem_append.1 he with he | he
    · exact .inl ⟨e, he, rfl, rfl, rfl⟩
    · rw [List.mem_singleton.1 he]
      exact .inr ⟨hnew, rfl, rfl, rfl⟩
  · rw [happly] at he
    rcases Sources.mem_updateAt he with rfl | he
    · rw [Opens, Deposit.path_addAllTo, Deposit.unexecuted_addAllTo, Sources.current]
      cases hlookup : out.lookup (sourceKey ev.path) with
      | some r => exact .inl ⟨_, Sources.mem_of_lookup hlookup, rfl, rfl, rfl⟩
      | none =>
        right
        have hnew := Sources.lookup_eq_none.1 hlookup
        rcases hway with hold | ⟨source, d, rfl⟩
        · exact absurd hold hnew
        · exact ⟨hnew, rfl, rfl, rfl⟩
    · exact .inl ⟨e, he, rfl, rfl, rfl⟩

/-- The first event that reaches a source opens its record. -/
theorem opened_applyAll {evs : List Event} {out : Sources} {e : String × FileRecord}
    (he : e ∈ applyAll out evs) :
    (∃ old ∈ out, old.1 = e.1 ∧ old.2.path = e.2.path ∧ old.2.unexecuted = e.2.unexecuted) ∨
    (e.1 ∉ out.map (·.1) ∧
      ∃ ev, evs.find? (fun ev => sourceKey ev.path = e.1) = some ev ∧ ev.Opens e.2) := by
  induction evs generalizing out with
  | nil => exact .inl ⟨e, he, rfl, rfl, rfl⟩
  | cons ev evs ih =>
    have hkeys := ev.keys_apply out
    rcases ih he with ⟨mid, hmid, hname, hpath, hmark⟩ | ⟨hnew, first, hfind, hopens⟩
    · rcases mem_apply hmid with ⟨old, hold, hname', hpath', hmark'⟩ | ⟨hnew, hname', hopens⟩
      · exact .inl ⟨old, hold, hname'.trans hname, hpath'.trans hpath, hmark'.trans hmark⟩
      · right
        rw [hname] at hnew hname'
        refine ⟨hnew, ev, List.find?_cons_of_pos (decide_eq_true hname'.symm), ?_⟩
        exact ⟨hpath.symm.trans hopens.1, hmark.symm.trans hopens.2⟩
    · right
      -- The source is not that of `ev`, which is there after `ev`.
      have hother : sourceKey ev.path ≠ e.1 ∧ e.1 ∉ out.map (·.1) := by
        rw [hkeys] at hnew
        split at hnew
        · rename_i hold
          exact ⟨fun heq => hnew (heq ▸ hold), hnew⟩
        · rw [List.mem_append, List.mem_singleton, not_or] at hnew
          exact ⟨Ne.symm hnew.2, hnew.1⟩
      refine ⟨hother.2, first, ?_, hopens⟩
      rw [List.find?_cons_of_neg (by simpa using hother.1)]
      exact hfind

/-- The collected sources are those that are reached, in the order in which they are first
reached. -/
theorem keys_applyAll (evs : List Event) (out : Sources) : (applyAll out evs).map (·.1) =
    out.map (·.1) ++
      ((evs.map fun ev => sourceKey ev.path).filter
        fun name => name ∉ out.map (·.1)).eraseDups := by
  induction evs generalizing out with
  | nil => exact (List.append_nil _).symm
  | cons ev evs ih =>
    have hstep := ih (ev.apply out)
    rw [keys_apply] at hstep
    rw [List.map_cons]
    split at hstep
    · rename_i hold
      rw [List.filter_cons_of_neg (by simpa using hold)]
      exact hstep
    · rename_i hnew
      rw [List.filter_cons_of_pos (by simpa using hnew), List.eraseDups_cons, List.filter_filter]
      refine hstep.trans ?_
      rw [List.append_assoc, List.singleton_append]
      congr 3
      refine List.filter_congr fun name _ => ?_
      rw [Bool.eq_iff_iff]
      simp only [List.mem_append, List.mem_singleton, not_or, decide_eq_true_eq, Bool.and_eq_true,
        Bool.not_eq_true', beq_eq_false_iff_ne]
      exact and_comm

end Event

/-- What is collected from a snapshot: every record is sound and found under its own path, no two
records are for one source, no record is dropped when they are put together, and they stand in the
order in which the entries of the files first reach their sources. The ids of the records play no
part in this. -/
theorem onSources_collected {find : FileRecord → Option Consumer} {s : Snapshot}
    (hvalid : ∀ r ∈ s.files, r.validate = .ok ()) :
    (∀ r ∈ (onSources find s).files, r.Sound ∧ (onSources find s).find? r.path = some r) ∧
    ((onSources find s).files.map fun r => sourceKey r.path).Nodup ∧
    (onSources find s).files = (s.files.foldl (addRecord find) []).map (·.2) ∧
    ((onSources find s).files.map fun r => sourceKey r.path) =
      ((s.files.flatMap (events find)).map fun ev => sourceKey ev.path).eraseDups := by
  obtain ⟨out, hout, hkeyed, hfiles⟩ := exists_sources find s
  have hsound : ∀ e ∈ out, e.2.Sound := by
    intro e he
    have hevents : ∀ ev ∈ s.files.flatMap (events find), ev.Valid :=
      valid_flatMap_events fun r hr => .of_validate (hvalid r hr)
    exact Event.sound_applyAll hevents (fun _ h => absurd h List.not_mem_nil) e (hout ▸ he)
  have hnames : (onSources find s).files.map (fun r => sourceKey r.path) = out.map (·.1) := by
    rw [hfiles, List.map_map]
    exact (List.map_congr_left hkeyed.named).symm
  refine ⟨fun r hr => ⟨?_, Snapshot.mem_files_iff.1 hr⟩, hnames ▸ hkeyed.distinct, ?_, ?_⟩
  · obtain ⟨e, he, rfl⟩ := List.mem_map.1 (hfiles ▸ hr)
    exact hsound e he
  · rw [hfiles, foldl_addRecord, hout]
  · rw [hnames, hout, Event.keys_applyAll]
    simp

/-- A library file, a file that was made from a source, and the source itself. -/
def libraryAndSource : Snapshot where
  files := [oneStatement "lib/z.js" 1, oneStatement "out/a.js" 2, oneStatement "out\\a.ts" 3]
  distinct := by decide

/-- The made file is the second to reach a source, and the record of the source goes to it. -/
theorem onSources_collected_libraryAndSource :
    (∀ r ∈ libraryAndSource.files, r.validate = .ok ()) ∧
    (∀ r ∈ (onSources mapOfFirst libraryAndSource).files, r.Sound) ∧
    ((onSources mapOfFirst libraryAndSource).files.map fun r => sourceKey r.path) =
      ["lib/z.js", "out/a.ts"] := by
  have hvalid : ∀ r ∈ libraryAndSource.files, r.validate = .ok () := by
    intro r hr
    simp only [libraryAndSource, List.mem_cons, List.not_mem_nil, or_false] at hr
    rcases hr with rfl | rfl | rfl <;> rfl
  obtain ⟨hrecords, -, -, horder⟩ := @onSources_collected mapOfFirst libraryAndSource hvalid
  refine ⟨hvalid, fun r hr => (hrecords r hr).1, ?_⟩
  rw [horder]
  decide

end Remap

end Coverage
