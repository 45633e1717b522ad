import Coverage.Snapshot.Basic
import Mathlib.Logic.Basic

/-!
# Snapshots of records of different files

Records of different files stand in a snapshot as they are listed (`files_ofRecords`): none of them
is merged, and none is left out.
-/

namespace Coverage.Snapshot

theorem addTo_of_not_mem {r : FileRecord} {l : List FileRecord} (h : r.path ∉ l.map (·.path)) :
    addTo r l = .ok (l ++ [r]) := by
  induction l with
  | nil => rfl
  | cons f l ih =>
    obtain ⟨hf, hl⟩ := not_or.1 (List.mem_cons.not.1 h)
    rw [addTo, if_neg fun heq => hf heq.symm, ih hl]
    rfl

/-- In the order of first times, a path at the end is new there or stands earlier. -/
theorem eraseDups_concat (paths : List String) (path : String) :
    (paths ++ [path]).eraseDups =
      if path ∈ paths then paths.eraseDups else paths.eraseDups ++ [path] := by
  rw [List.eraseDups_append]
  by_cases h : path ∈ paths
  · simp [List.removeAll, h]
  · simp [List.removeAll, h, List.eraseDups_cons]

theorem files_addIfFits {s : Snapshot} {r : FileRecord} (h : r.path ∉ s.paths) :
    (s.addIfFits r).files = s.files ++ [r] := by
  have hadd := addTo_of_not_mem h
  rw [addIfFits, add]
  split
  · next t ht =>
    split at ht
    · next l hl =>
      rw [hadd] at hl
      cases hl
      cases ht
      rfl
    · cases ht
  · next e he =>
    split at he
    · cases he
    · next hl =>
      rw [hadd] at hl
      cases hl

/-- Records of different files are the files of a snapshot as they are listed. -/
theorem files_ofRecords {l : List FileRecord} (h : (l.map (·.path)).Nodup) :
    (ofRecords l).files = l := by
  have hrun : ∀ (l : List FileRecord) (s : Snapshot), ((s.files ++ l).map (·.path)).Nodup →
      (l.foldl addIfFits s).files = s.files ++ l := by
    intro l
    induction l with
    | nil => exact fun s _ => (List.append_nil s.files).symm
    | cons r l ih =>
      intro s hnodup
      have hnew : r.path ∉ s.paths := by
        rw [List.map_append, List.nodup_append] at hnodup
        exact fun hmem => hnodup.2.2 _ hmem _ List.mem_cons_self rfl
      have hfiles := files_addIfFits hnew
      have hmove : s.files ++ [r] ++ l = s.files ++ r :: l := by simp
      rw [List.foldl_cons, ih _ (hfiles ▸ hmove ▸ hnodup), hfiles, hmove]
  exact hrun l empty h

end Coverage.Snapshot
