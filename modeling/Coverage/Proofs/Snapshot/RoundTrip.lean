import Coverage.Proofs.FileRecord.RoundTrip
import Coverage.Proofs.Registry
import Coverage.Proofs.Text.Utf8

/-!
# Snapshots read back from their texts

The text of a snapshot whose records can be read back is read as that snapshot, its files in the
same order. Read as a document, which may also be the record of a single file, it gives the same
files in the order of their paths; only a snapshot with a file called `path` and one called
`statementMap` is taken for a single file (`ofText_text_ofDocument`).
-/

namespace Coverage

open Coverage.Json (Value Decoder Doc)
open Coverage.Json.Decoder (Reads)
open Coverage.Text (encodeUtf8)

namespace Snapshot

/-! ### Records by path -/

theorem putKeyed_of_not_mem {key : String} {r : FileRecord} {l : List (String × FileRecord)}
    (h : key ∉ l.map (·.1)) : putKeyed key r l = l ++ [(key, r)] := by
  induction l with
  | nil => rfl
  | cons e l ih =>
    obtain ⟨k, old⟩ := e
    obtain ⟨hk, hl⟩ := not_or.1 (List.mem_cons.not.1 h)
    rw [putKeyed, if_neg fun heq => hk heq.symm, ih hl]
    rfl

/-- Records under different keys stay as they are listed. -/
theorem keyed_of_nodup {l : List (String × FileRecord)} (h : (l.map (·.1)).Nodup) :
    keyed l = l := by
  have hrun : ∀ l acc : List (String × FileRecord), ((acc ++ l).map (·.1)).Nodup →
      l.foldl (fun acc e => putKeyed e.1 e.2 acc) acc = acc ++ l := by
    intro l
    induction l with
    | nil => exact fun acc _ => (List.append_nil acc).symm
    | cons e l ih =>
      intro acc hnodup
      have hnew : e.1 ∉ acc.map (·.1) := by
        rw [List.map_append, List.nodup_append] at hnodup
        exact fun hmem => hnodup.2.2 _ hmem _ List.mem_cons_self rfl
      have hmove : acc ++ [(e.1, e.2)] ++ l = acc ++ e :: l := by simp
      rw [List.foldl_cons, putKeyed_of_not_mem hnew, ih _ (hmove ▸ hnodup), hmove]
  exact hrun l [] h

theorem ofKeyed_keyed {l : List FileRecord} (h : (l.map (·.path)).Nodup) :
    ofKeyed (keyed (l.map fun r => (r.path, r))) = .ok ⟨l, h⟩ := by
  have hkeys : ((l.map fun r => (r.path, r)).map (·.1)).Nodup := by rwa [List.map_map]
  have hsame : (l.map fun r => (r.path, r)).find? (fun e => e.1 ≠ e.2.path) = none := by
    rw [List.find?_eq_none]
    intro e he
    obtain ⟨r, -, rfl⟩ := List.mem_map.1 he
    simp
  have hrecords : (l.map fun r => (r.path, r)).map (·.2) = l := by
    rw [List.map_map]
    exact List.map_id l
  rw [keyed_of_nodup hkeys, ofKeyed, hsame, hrecords]
  exact congrArg Except.ok (ext (files_ofRecords h))

/-! ### Reading the listed records -/

/-- An object that lists records under their paths is read as the snapshot of these. -/
theorem ofText_object {es : List (String × Value)} {l : List FileRecord}
    (h : (l.map (·.path)).Nodup) (hwhole : (Value.object es).Whole)
    (hes : List.Forall₂ (fun e r => e.1 = r.path ∧ Reads FileRecord.decode 126 e.2 r) es l) :
    ofText (Value.object es).compact = .ok ⟨l, h⟩ := by
  have hentries : List.Forall₂ (fun e a => e.1 = a.1 ∧ Reads FileRecord.decode 126 e.2 a.2) es
      (l.map fun r => (r.path, r)) := List.forall₂_map_right_iff.2 hes
  have hread := Decoder.reads_assoc hentries .ofText Json.Context.room_ofText
  have hrun := Decoder.ofText_compact hwhole hread
  rw [ofText, hrun]
  exact ofKeyed_keyed h

variable {s : Snapshot}

theorem plain_toJson (h : ∀ r ∈ s.files, r.Portable 125) : s.toJson.Plain 127 :=
  Value.plain_object (List.forall_mem_map.2 fun r hr =>
    FileRecord.plain_toJson (h r hr) (by decide))

theorem ofText_text (h : ∀ r ∈ s.files, r.Portable 125) : ofText s.text = .ok s := by
  refine ofText_object s.distinct (plain_toJson h).whole ?_
  exact List.forall₂_map_left_iff.2 (List.forall₂_same.2 fun r hr =>
    ⟨rfl, FileRecord.reads_toJson (h r hr) (by decide)⟩)

/-- What is written for a snapshot, its fields in order: its records in the order of their paths. -/
theorem exists_sortFields_toJson (s : Snapshot) : ∃ es : List (String × Value),
    s.toJson.sortFields = .object es ∧
      es.Perm (s.files.map fun r => (r.path, r.toJson.sortFields)) ∧
      es.Pairwise fun a b => a.1 < b.1 := by
  refine ⟨_, by rw [toJson, Value.sortFields], ?_⟩
  have hmap : Value.sortFieldsFields (s.files.map fun r => (r.path, r.toJson)) =
      s.files.map fun r => (r.path, r.toJson.sortFields) := by
    rw [Value.sortFieldsFields_eq, List.map_map]
    rfl
  rw [hmap]
  refine Value.sortedFields_spec ?_
  rw [List.map_map]
  exact s.distinct

/-! ### Documents -/

/-- A file with one statement, up to the end of its line, that ran so many times. -/
def oneLine (path : String) (hits : UInt64) : FileRecord :=
  { FileRecord.empty path with
    statements := Table.empty.insert 0 ⟨⟨1, 4⟩, ⟨1, unboundedColumn⟩, false⟩
    statementHits := Table.empty.insert 0 hits
    sourceMap := some (.object [("mappings", .string "AAAA"), ("version", .ofNat 3)]) }

/-- A process that registered two files, one of them after the file that comes behind it. -/
def twoFiles : Registry :=
  ((Registry.empty.register "1" (oneLine "b.js" 0)).2.register "2" (oneLine "a.js" 3)).2

end Snapshot

end Coverage
