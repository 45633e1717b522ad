import Coverage.FileRecord.Merge
import Coverage.FileRecord.Views

/-!
# Coverage of several files

A snapshot holds the records of several files in the order in which the files were first seen, at
most one per path. Adding a record of a known file merges it with the one that is there.

The main statement is `FileRecord.path_of_merge`: merging keeps the path, which is why a snapshot
stays a snapshot.
-/

namespace Coverage

/-- A merged record is one of the same file. -/
theorem FileRecord.path_of_merge {mine other r : FileRecord} (h : mine.merge other = .ok r) :
    r.path = mine.path := by
  unfold FileRecord.merge at h
  by_cases hp : mine.path = other.path
  · simp only [hp, ne_eq, not_true_eq_false, if_false] at h
    split at h
    · cases h; rfl
    · split at h
      · cases h; exact hp.symm
      · split at h
        · cases h
        · cases h; exact hp.symm
  · simp [hp] at h
    cases h

/-- The records of several files, at most one per path. -/
structure Snapshot where
  files : List FileRecord
  distinct : (files.map (·.path)).Nodup

namespace Snapshot

@[ext] theorem ext {s t : Snapshot} (h : s.files = t.files) : s = t := by
  cases s; cases t; cases h; rfl

instance : DecidableEq Snapshot := fun s t =>
  decidable_of_iff (s.files = t.files) ⟨Snapshot.ext, fun h => h ▸ rfl⟩

/-- The snapshot without files. -/
def empty : Snapshot := ⟨[], .nil⟩

instance : EmptyCollection Snapshot := ⟨empty⟩

instance : Inhabited Snapshot := ⟨empty⟩

/-- The paths of a snapshot, in order. -/
def paths (s : Snapshot) : List String := s.files.map (·.path)

/-- How many files a snapshot has. -/
def size (s : Snapshot) : Nat := s.files.length

/-- Whether a snapshot has no files. -/
def isEmpty (s : Snapshot) : Bool := s.files.isEmpty

/-- The record of a path. -/
def find? (s : Snapshot) (path : String) : Option FileRecord :=
  s.files.find? fun r => r.path = path

/-- The record of a path that is expected to be there. -/
def get (s : Snapshot) (path : String) : Except Error FileRecord :=
  match s.find? path with
  | some r => .ok r
  | none => .error (.notFound path)

/-- A list of records with one more, merged with the record of its path or put at the end. -/
def addTo (r : FileRecord) : List FileRecord → Except Error (List FileRecord)
  | [] => .ok [r]
  | f :: rest =>
    if f.path = r.path then do return (← f.merge r) :: rest
    else do return f :: (← addTo r rest)

theorem paths_of_addTo {r : FileRecord} {l l' : List FileRecord} (h : addTo r l = .ok l') :
    l'.map (·.path) =
      if r.path ∈ l.map (·.path) then l.map (·.path) else l.map (·.path) ++ [r.path] := by
  induction l generalizing l' with
  | nil => cases h; simp
  | cons f rest ih =>
    simp only [addTo] at h
    split at h
    · rename_i hp
      cases hm : f.merge r with
      | error e => rw [hm] at h; cases h
      | ok m =>
        rw [hm] at h
        cases h
        simp [FileRecord.path_of_merge hm, hp]
    · rename_i hp
      cases hm : addTo r rest with
      | error e => rw [hm] at h; cases h
      | ok m =>
        rw [hm] at h
        cases h
        have hp' : ¬ r.path = f.path := fun h => hp h.symm
        by_cases hmem : r.path ∈ rest.map (·.path) <;> simp_all

theorem distinct_of_addTo {r : FileRecord} {l l' : List FileRecord}
    (hl : (l.map (·.path)).Nodup) (h : addTo r l = .ok l') : (l'.map (·.path)).Nodup := by
  rw [paths_of_addTo h]
  split
  · exact hl
  · rename_i hr
    refine List.nodup_append.2 ⟨hl, by simp, fun a ha b hb hab => hr ?_⟩
    rw [List.mem_singleton.1 hb] at hab
    exact hab ▸ ha

/-- The snapshot with one more record. -/
def add (s : Snapshot) (r : FileRecord) : Except Error Snapshot :=
  match h : addTo r s.files with
  | .ok l => .ok ⟨l, distinct_of_addTo s.distinct h⟩
  | .error e => .error e

/-- Adds records one after the other up to the first that does not fit: the snapshot that is
reached, and what was wrong with that record. -/
def addAll (s : Snapshot) : List FileRecord → Snapshot × Option Error
  | [] => (s, none)
  | r :: rest =>
    match s.add r with
    | .ok t => addAll t rest
    | .error e => (s, some e)

/-- Merges the files of `other` into `s`, in order, up to the first that does not fit. -/
def mergeInto (s other : Snapshot) : Snapshot × Option Error := s.addAll other.files

/-- The snapshot with all files of `other` merged into it. -/
def merge (s other : Snapshot) : Except Error Snapshot :=
  match s.mergeInto other with
  | (t, none) => .ok t
  | (_, some e) => .error e

/-- The snapshot with a record, unless the record does not fit. -/
def addIfFits (s : Snapshot) (r : FileRecord) : Snapshot :=
  match s.add r with
  | .ok t => t
  | .error _ => s

/-- The snapshot of a list of records; a record that does not fit the earlier ones of its path is
left out. -/
def ofRecords (l : List FileRecord) : Snapshot := l.foldl addIfFits empty

/-- The files whose path satisfies `keep`. -/
def filter (s : Snapshot) (keep : String → Bool) : Snapshot :=
  ⟨s.files.filter fun r => keep r.path, s.distinct.sublist (List.filter_sublist.map _)⟩

/-- The summary of all files. -/
def summary (s : Snapshot) : Summary := .sum (s.files.map FileRecord.summary)

end Snapshot

end Coverage
