import Coverage.Proofs.Snapshot.Listing
import Coverage.Registry
import Mathlib.Data.List.Nodup

/-!
# The registries of a process

Whatever a process registers and counts, its registry has each path once, with a record of that
path (`Reached.consistent`). The snapshot of it therefore lists the records as they are
(`files_snapshot`).
-/

namespace Coverage.Registry

/-- Each path stands once, with a record of that path. -/
structure Consistent (r : Registry) : Prop where
  nodup : (r.objects.map (·.1)).Nodup
  path : ∀ e ∈ r.objects, e.2.record.path = e.1

variable {r t : Registry} {path : String} {o : Registered}

theorem consistent_empty : empty.Consistent := ⟨.nil, nofun⟩

theorem keys_putAt (path : String) (o : Registered) (l : List (String × Registered)) :
    (putAt path o l).map (·.1) =
      if path ∈ l.map (·.1) then l.map (·.1) else l.map (·.1) ++ [path] := by
  induction l with
  | nil => rfl
  | cons e l ih =>
    obtain ⟨k, old⟩ := e
    rw [putAt]
    by_cases hk : k = path
    · simp [hk]
    · have hne : ¬ path = k := fun heq => hk heq.symm
      rw [if_neg hk, List.map_cons, ih]
      by_cases hmem : path ∈ l.map (·.1) <;> simp [hne, hmem]

theorem mem_putAt {l : List (String × Registered)} {e : String × Registered}
    (h : e ∈ putAt path o l) : e = (path, o) ∨ e ∈ l := by
  induction l with
  | nil => exact .inl (List.mem_singleton.1 h)
  | cons x l ih =>
    obtain ⟨k, old⟩ := x
    rw [putAt] at h
    split at h
    · next hk =>
      rcases List.mem_cons.1 h with rfl | h
      · exact .inl (hk ▸ rfl)
      · exact .inr (List.mem_cons_of_mem _ h)
    · rcases List.mem_cons.1 h with rfl | h
      · exact .inr List.mem_cons_self
      · exact (ih h).imp_right (List.mem_cons_of_mem _)

theorem Consistent.put (h : r.Consistent) (ho : o.record.path = path) :
    (r.put path o).Consistent := by
  refine ⟨?_, fun e he => ?_⟩
  · rw [Registry.put, keys_putAt]
    split
    · exact h.nodup
    · next hnew =>
      refine List.nodup_append.2 ⟨h.nodup, List.nodup_singleton _, fun a ha b hb hab => hnew ?_⟩
      rw [List.mem_singleton.1 hb] at hab
      exact hab ▸ ha
  · rcases mem_putAt he with rfl | he
    · exact ho
    · exact h.path e he

/-! ### What a process does -/

theorem Consistent.register (h : r.Consistent) (hash : String) (record : FileRecord) :
    (r.register hash record).2.Consistent := by
  rw [Registry.register]
  split
  · exact h.put rfl
  · split
    · exact h
    · exact h.put rfl

/-- A change of a record that keeps its path keeps the registry in order. -/
theorem Consistent.change (h : r.Consistent) {f : FileRecord → Except Error FileRecord}
    (hf : ∀ x y, f x = .ok y → y.path = x.path) (hchange : r.change path f = .ok t) :
    t.Consistent := by
  rw [Registry.change] at hchange
  split at hchange
  · cases hchange
  · next o ho =>
    cases hrecord : f o.record with
    | error e =>
      rw [hrecord] at hchange
      cases hchange
    | ok record =>
      rw [hrecord] at hchange
      cases hchange
      have hmem : (path, o) ∈ r.objects := by
        obtain ⟨before, after, heq, -⟩ := List.lookup_eq_some_iff.1 ho
        rw [heq]
        exact List.mem_append_right _ List.mem_cons_self
      exact h.put ((hf _ _ hrecord).trans (h.path _ hmem))

/-- The registries that a process can come to. -/
inductive Reached : Registry → Prop where
  | empty : Reached empty
  | register {r : Registry} (hash : String) (record : FileRecord) :
    Reached r → Reached (r.register hash record).2
  | hitStatement {r t : Registry} {path : String} {id : Id} :
    Reached r → r.hitStatement path id = .ok t → Reached t
  | hitFunction {r t : Registry} {path : String} {id : Id} :
    Reached r → r.hitFunction path id = .ok t → Reached t
  | hitOutcome {r t : Registry} {path : String} {id : Id} {outcome : Nat} :
    Reached r → r.hitOutcome path id outcome = .ok t → Reached t

theorem Reached.consistent (h : r.Reached) : r.Consistent := by
  induction h with
  | empty => exact consistent_empty
  | register hash record _ ih => exact ih.register hash record
  | hitStatement _ hrun ih =>
    refine ih.change (fun x y hxy => ?_) hrun
    split at hxy <;> cases hxy
    rfl
  | hitFunction _ hrun ih =>
    refine ih.change (fun x y hxy => ?_) hrun
    split at hxy <;> cases hxy
    rfl
  | hitOutcome _ hrun ih =>
    refine ih.change (fun x y hxy => ?_) hrun
    split at hxy
    · cases hxy
    · split at hxy <;> cases hxy
      rfl

/-- The snapshot of a registry lists its records as they are. -/
theorem files_snapshot (h : r.Consistent) :
    r.snapshot.files = r.objects.map fun e => e.2.record := by
  refine Snapshot.files_ofRecords ?_
  have hpaths : (r.objects.map fun e => e.2.record).map (·.path) = r.objects.map (·.1) := by
    rw [List.map_map]
    exact List.map_congr_left h.path
  rw [hpaths]
  exact h.nodup

end Coverage.Registry
