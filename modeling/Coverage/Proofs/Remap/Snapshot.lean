import Coverage.Proofs.Remap.Accumulator
import Coverage.Proofs.Snapshot.Listing
import Coverage.Remap.Snapshot

/-!
# Moving a snapshot neither loses nor invents a hit

Whatever happens to the files of a snapshot is a list of events: the record of a file is carried
over, or an entry lands in the record of a source. Each event adds what it brings to the sites of
one source (`hitsAt_apply`), whichever of the ways into the collected records it takes, and so a
whole run adds up what its events bring (`hitsAt_applyAll`). The main result is `onSources_hits`:
the hits in the moved snapshot are the sums of what the files contribute, and thus do not depend
on the order of the files.
-/

namespace Coverage

open SourceMap (Consumer)

namespace Deposit

theorem path_addTo (r : FileRecord) (d : Deposit) : (d.addTo r).path = r.path := by
  cases d <;> rfl

theorem path_addAllTo (r : FileRecord) (ds : List Deposit) : (addAllTo r ds).path = r.path := by
  induction ds generalizing r with
  | nil => rfl
  | cons d ds ih => exact (ih (d.addTo r)).trans (path_addTo r d)

end Deposit

namespace FileRecord

/-- The entries of a record, as they are added to another record of the same source. -/
def deposits (r : FileRecord) : List Deposit :=
  (r.statements.entries.map fun e => .statement e.2 (r.count (.statement e.1))) ++
  (r.functions.entries.map fun e =>
    .function e.2.name e.2.decl e.2.body (r.count (.function e.1))) ++
  r.branches.entries.filterMap fun e =>
    match e.2.range.or e.2.outcomes.head?, r.branchHits.get? e.1 with
    | some range, some hits => some (.branch e.2.kind range e.2.outcomes hits)
    | _, _ => none

end FileRecord

namespace Remap

theorem foldIn_eq (r target : FileRecord) :
    foldIn r target = Deposit.addAllTo target r.deposits := by
  simp only [foldIn, Deposit.addAllTo, FileRecord.deposits, List.foldl_append, List.foldl_map,
    List.foldl_filterMap]
  congr 1
  funext t e
  cases e.2.range.or e.2.outcomes.head? <;> cases r.branchHits.get? e.1 <;> rfl

end Remap

namespace FileRecord

variable {r : FileRecord}

theorem wellFormed_deposits (hr : r.Sound) : ∀ d ∈ r.deposits, d.WellFormed := by
  intro d hd
  simp only [deposits, List.mem_append, List.mem_map, List.mem_filterMap] at hd
  rcases hd with (⟨e, -, rfl⟩ | ⟨e, -, rfl⟩) | ⟨e, he, hd⟩
  · trivial
  · trivial
  · split at hd
    · rename_i range counts _ hc
      cases hd
      exact hr.length_counts (Table.get?_eq_some_iff.2 he) hc
    · cases hd

theorem sum_filterMap {α β : Type} (f : α → Option β) (g : β → Nat) (l : List α) :
    ((l.filterMap f).map g).sum = (l.map fun a => ((f a).map g).getD 0).sum := by
  induction l with
  | nil => rfl
  | cons a l ih =>
    rw [List.filterMap_cons]
    cases h : f a <;> simp [h, ih]

theorem sum_map_zero {α : Type} {l : List α} {f : α → Nat} (h : ∀ a ∈ l, f a = 0) :
    (l.map f).sum = 0 := by
  rw [List.sum_eq_zero_iff_forall_eq_nat]
  rintro n hn
  obtain ⟨a, ha, rfl⟩ := List.mem_map.1 hn
  exact h a ha

/-- The entries of a record bring all its hits. -/
theorem hitsAt_deposits (hr : r.Sound) (site : Site) :
    (r.deposits.map (·.hitsAt site)).sum = r.hitsAt site := by
  simp only [deposits, List.map_append, List.sum_append, List.map_map, sum_filterMap]
  cases site with
  | statement key =>
    change _ = r.hitsAt (.statement key) + 0 + 0
    congr 1
    · congr 1
      exact sum_map_zero fun e _ => rfl
    · refine sum_map_zero fun e _ => ?_
      cases e.2.range.or e.2.outcomes.head? <;> cases r.branchHits.get? e.1 <;> rfl
  | function key =>
    rw [← Nat.zero_add (r.hitsAt (.function key))]
    change _ = 0 + r.hitsAt (.function key) + 0
    congr 1
    · congr 1
      exact sum_map_zero fun e _ => rfl
    · refine sum_map_zero fun e _ => ?_
      cases e.2.range.or e.2.outcomes.head? <;> cases r.branchHits.get? e.1 <;> rfl
  | outcome key j =>
    rw [← Nat.zero_add (r.hitsAt (.outcome key j))]
    congr 1
    · rw [Nat.add_eq_zero_iff]
      exact ⟨sum_map_zero fun e _ => rfl, sum_map_zero fun e _ => rfl⟩
    refine congrArg List.sum (List.map_congr_left fun e he => ?_)
    -- A branch without a range and without outcomes is left out, and has no counts.
    obtain ⟨counts, hc, hlength⟩ := hr.exists_counts (Table.get?_eq_some_iff.2 he)
    cases hrange : e.2.range.or e.2.outcomes.head? with
    | some range => simp [Deposit.hitsAt, count, hc]
    | none =>
      rw [Option.or_eq_none_iff, List.head?_eq_none_iff] at hrange
      have hnil : counts = [] := List.eq_nil_of_length_eq_zero (by rw [hlength, hrange.2]; rfl)
      simp [count, hc, hnil]

end FileRecord

namespace Remap

/-! ### The records collected so far -/

namespace Sources

/-- The hits at a site of the source called `name`. -/
def hitsAt (out : Sources) (name : String) (site : Site) : Nat :=
  (out.map fun e => if e.1 = name then e.2.hitsAt site else 0).sum

/-- The record that an entry for `key` is added to. -/
def current (key path : String) (out : Sources) : FileRecord :=
  (out.lookup key).getD (.empty path)

/-- No record has the greatest id. -/
def HasRoom (out : Sources) : Prop := ∀ e ∈ out, e.2.HasRoom

/-- Each record stands under the name of its path, and under that name only. -/
structure Keyed (out : Sources) : Prop where
  distinct : (out.map (·.1)).Nodup
  named : ∀ e ∈ out, e.1 = sourceKey e.2.path

variable {out : Sources} {key path : String} {f : FileRecord → FileRecord}

theorem lookup_cons (e : String × FileRecord) :
    List.lookup key (e :: out) = if e.1 = key then some e.2 else out.lookup key := by
  obtain ⟨k, r⟩ := e
  rw [List.lookup_cons]
  by_cases h : k = key
  · simp [h]
  · have h' : (key == k) = false := beq_eq_false_iff_ne.2 (Ne.symm h)
    simp [h, h']

theorem current_cons (e : String × FileRecord) :
    current key path (e :: out) = if e.1 = key then e.2 else current key path out := by
  rw [current, lookup_cons]
  split <;> rfl

theorem mem_of_lookup {r : FileRecord} (h : out.lookup key = some r) : (key, r) ∈ out := by
  induction out with
  | nil => cases h
  | cons e out ih =>
    rw [lookup_cons] at h
    split at h
    · rename_i hk
      cases h
      exact hk ▸ List.mem_cons_self
    · exact List.mem_cons_of_mem _ (ih h)

theorem lookup_eq_none : out.lookup key = none ↔ key ∉ out.map (·.1) := by
  induction out with
  | nil => simp
  | cons e out ih =>
    rw [lookup_cons, List.map_cons, List.mem_cons, not_or, ← ih]
    split
    · rename_i hk
      simp [hk]
    · rename_i hk
      simp [Ne.symm hk]

theorem keys_updateAt : (updateAt key path f out).map (·.1) =
    if key ∈ out.map (·.1) then out.map (·.1) else out.map (·.1) ++ [key] := by
  induction out with
  | nil => rfl
  | cons e out ih =>
    rw [updateAt]
    split
    · rename_i hk
      simp [hk]
    · rename_i hk
      simp only [List.map_cons, ih, List.mem_cons, Ne.symm hk, false_or]
      split <;> rfl

/-- The changed record is the current one; the others stay. -/
theorem mem_updateAt {e : String × FileRecord} (h : e ∈ updateAt key path f out) :
    e = (key, f (current key path out)) ∨ e ∈ out := by
  induction out with
  | nil => exact .inl (List.mem_singleton.1 h)
  | cons hd out ih =>
    rw [updateAt] at h
    rw [current_cons]
    split at h
    · rename_i hk
      rcases List.mem_cons.1 h with rfl | h
      · left
        simp [hk]
      · exact .inr (List.mem_cons_of_mem _ h)
    · rename_i hk
      rcases List.mem_cons.1 h with rfl | h
      · exact .inr List.mem_cons_self
      · simp only [hk, if_false]
        exact (ih h).imp_right (List.mem_cons_of_mem _)

theorem current_mem_updateAt : (key, f (current key path out)) ∈ updateAt key path f out := by
  induction out with
  | nil => exact List.mem_singleton.2 rfl
  | cons e out ih =>
    rw [updateAt, current_cons]
    split
    · rename_i hk
      simp [hk]
    · exact List.mem_cons_of_mem _ ih

theorem mem_of_updateAt (key path : String) (f : FileRecord → FileRecord)
    {e : String × FileRecord} (h : e ∈ out) :
    e ∈ updateAt key path f out ∨ e = (key, current key path out) := by
  induction out with
  | nil => cases h
  | cons hd out ih =>
    rw [updateAt, current_cons]
    split
    · rename_i hk
      rcases List.mem_cons.1 h with rfl | h
      · right
        simp [← hk]
      · exact .inl (List.mem_cons_of_mem _ h)
    · rcases List.mem_cons.1 h with rfl | h
      · exact .inl List.mem_cons_self
      · exact (ih h).imp_left (List.mem_cons_of_mem _)

/-- An update exchanges the hits of the current record. -/
theorem hitsAt_updateAt (key path : String) (f : FileRecord → FileRecord) (out : Sources)
    (name : String) (site : Site) :
    hitsAt (updateAt key path f out) name site +
        (if key = name then (current key path out).hitsAt site else 0) =
      hitsAt out name site +
        (if key = name then (f (current key path out)).hitsAt site else 0) := by
  induction out with
  | nil =>
    have hempty : (FileRecord.empty path).hitsAt site = 0 := by cases site <;> rfl
    simp [hitsAt, updateAt, current, hempty]
  | cons e out ih =>
    simp only [hitsAt, updateAt, current_cons] at ih ⊢
    split
    · rename_i hk
      simp only [List.map_cons, List.sum_cons, hk]
      omega
    · simp only [List.map_cons, List.sum_cons]
      omega

theorem hitsAt_append (a b : Sources) (name : String) (site : Site) :
    hitsAt (a ++ b) name site = hitsAt a name site + hitsAt b name site := by
  rw [hitsAt, List.map_append, List.sum_append]
  rfl

theorem hitsAt_current_le (key path : String) (out : Sources) (site : Site) :
    (current key path out).hitsAt site ≤ hitsAt out key site := by
  induction out with
  | nil =>
    have hempty : (FileRecord.empty path).hitsAt site = 0 := by cases site <;> rfl
    simp [current, hempty]
  | cons e out ih =>
    simp only [current_cons, hitsAt, List.map_cons, List.sum_cons] at ih ⊢
    split
    · exact Nat.le_add_right _ _
    · omega

/-- The current record is one of those collected, or an empty one. -/
theorem current_cases (key path : String) (out : Sources) :
    (key, current key path out) ∈ out ∨ current key path out = .empty path := by
  cases h : out.lookup key with
  | some r =>
    left
    rw [current, h]
    exact mem_of_lookup h
  | none =>
    right
    rw [current, h]
    rfl

theorem sound_current (h : ∀ e ∈ out, e.2.Sound) : (current key path out).Sound := by
  rcases current_cases key path out with hmem | hempty
  · exact h _ hmem
  · rw [hempty]
    exact .empty path

theorem Keyed.sourceKey_current (h : Keyed out) :
    sourceKey (current (sourceKey path) path out).path = sourceKey path := by
  rcases current_cases (sourceKey path) path out with hmem | hempty
  · exact (h.named _ hmem).symm
  · rw [hempty]
    rfl

end Sources

/-! ### Events -/

/-- What happens to a part of a snapshot on the way to its sources. -/
inductive Event where
  /-- The record of a file is carried over. -/
  | carried (r : FileRecord)
  /-- An entry lands in the record of a source. -/
  | landed (source : String) (d : Deposit)

namespace Event

/-- The collected records after an event. -/
def apply (out : Sources) : Event → Sources
  | carried r => carryOver r out
  | landed source d => update source (fun t => d.addTo t) out

/-- The hits that an event brings to a site of the source called `name`. -/
def hitsAt (name : String) (site : Site) : Event → Nat
  | carried r => if sourceKey r.path = name then r.hitsAt site else 0
  | landed source d => if sourceKey source = name then d.hitsAt site else 0

/-- The path that an event has for the source that it reaches. -/
def path : Event → String
  | carried r => r.path
  | landed source _ => source

/-- The entries that an event adds to the record of its source. -/
def deposits : Event → List Deposit
  | carried r => r.deposits
  | landed _ d => [d]

/-- Records are sound, and branches bring one count per outcome. -/
def Valid : Event → Prop
  | carried r => r.Sound
  | landed _ d => d.WellFormed

theorem wellFormed_deposits {ev : Event} (hvalid : ev.Valid) : ∀ d ∈ ev.deposits, d.WellFormed := by
  cases ev with
  | carried r => exact FileRecord.wellFormed_deposits hvalid
  | landed source d => exact List.forall_mem_singleton.2 hvalid

/-- An event brings what the entries bring that it adds. -/
theorem hitsAt_eq {ev : Event} (hvalid : ev.Valid) (name : String) (site : Site) :
    ev.hitsAt name site =
      if sourceKey ev.path = name then (ev.deposits.map (·.hitsAt site)).sum else 0 := by
  cases ev with
  | carried r =>
    rw [deposits, FileRecord.hitsAt_deposits hvalid]
    rfl
  | landed source d => simp [hitsAt, path, deposits]

/-- The two things that an event does: it puts the record of a source at the end that no event has
reached yet, or it adds entries to the current record of a source. -/
theorem apply_cases (ev : Event) (out : Sources) :
    (∃ r, ev = carried r ∧ sourceKey r.path ∉ out.map (·.1) ∧
      ev.apply out = out ++ [(sourceKey r.path, r)]) ∨
    (ev.apply out = updateAt (sourceKey ev.path) ev.path (Deposit.addAllTo · ev.deposits) out ∧
      (sourceKey ev.path ∈ out.map (·.1) ∨ ∃ source d, ev = landed source d)) := by
  cases ev with
  | carried r =>
    cases h : out.lookup (sourceKey r.path) with
    | none =>
      left
      exact ⟨r, rfl, Sources.lookup_eq_none.1 h, by simp [apply, carryOver, h]⟩
    | some old =>
      right
      have hfold : foldIn r = (Deposit.addAllTo · r.deposits) := funext fun t => foldIn_eq r t
      refine ⟨by simp [apply, carryOver, h, hfold, path, deposits], .inl ?_⟩
      exact List.mem_map.2 ⟨_, Sources.mem_of_lookup h, rfl⟩
  | landed source d => exact .inr ⟨rfl, .inr ⟨source, d, rfl⟩⟩

variable {ev : Event} {out : Sources}

theorem keys_apply (ev : Event) (out : Sources) : (ev.apply out).map (·.1) =
    if sourceKey ev.path ∈ out.map (·.1) then out.map (·.1)
    else out.map (·.1) ++ [sourceKey ev.path] := by
  rcases ev.apply_cases out with ⟨r, rfl, hnew, happly⟩ | ⟨happly, -⟩
  · rw [happly, path, if_neg hnew, List.map_append]
    rfl
  · rw [happly, Sources.keys_updateAt]

theorem keyed_apply (ev : Event) (h : out.Keyed) : (ev.apply out).Keyed := by
  constructor
  · rw [keys_apply]
    split
    · exact h.distinct
    · rename_i hnew
      refine List.nodup_append.2 ⟨h.distinct, by simp, fun a ha b hb hab => hnew ?_⟩
      exact List.mem_singleton.1 hb ▸ hab ▸ ha
  · intro e he
    rcases ev.apply_cases out with ⟨r, -, -, happly⟩ | ⟨happly, -⟩ <;> rw [happly] at he
    · rcases List.mem_append.1 he with he | he
      · exact h.named e he
      · rw [List.mem_singleton.1 he]
    · rcases Sources.mem_updateAt he with rfl | he
      · simp only [Deposit.path_addAllTo]
        exact h.sourceKey_current.symm
      · exact h.named e he

/-- What has room after an event had it before. -/
theorem hasRoom_of_apply (ev : Event) (h : (ev.apply out).HasRoom) : out.HasRoom := by
  intro e he
  rcases ev.apply_cases out with ⟨r, -, -, happly⟩ | ⟨happly, -⟩
  · rw [happly] at h
    exact h e (List.mem_append_left _ he)
  · rw [happly] at h
    rcases Sources.mem_of_updateAt (sourceKey ev.path) ev.path (Deposit.addAllTo · ev.deposits) he
      with he | rfl
    · exact h e he
    · exact Deposit.hasRoom_of_addAllTo ev.deposits (h _ Sources.current_mem_updateAt)

theorem sound_apply (hvalid : ev.Valid) (h : ∀ e ∈ out, e.2.Sound) :
    ∀ e ∈ ev.apply out, e.2.Sound := by
  intro e he
  rcases ev.apply_cases out with ⟨r, rfl, -, happly⟩ | ⟨happly, -⟩
  · rw [happly] at he
    rcases List.mem_append.1 he with he | he
    · exact h e he
    · rw [List.mem_singleton.1 he]
      exact hvalid
  · rw [happly] at he
    rcases Sources.mem_updateAt he with rfl | he
    · exact Deposit.sound_addAllTo (Sources.sound_current h) ev.deposits
    · exact h e he

/-- The step: an event brings its hits to its own source. -/
theorem hitsAt_apply (hvalid : ev.Valid) (hroom : (ev.apply out).HasRoom)
    (h : ∀ e ∈ out, e.2.Sound)
    (hfit : ∀ name site, out.hitsAt name site + ev.hitsAt name site < 2 ^ 64) (name : String)
    (site : Site) :
    (ev.apply out).hitsAt name site = out.hitsAt name site + ev.hitsAt name site := by
  rcases ev.apply_cases out with ⟨r, rfl, -, happly⟩ | ⟨happly, -⟩
  · rw [happly, Sources.hitsAt_append]
    simp [Sources.hitsAt, hitsAt]
  · rw [happly] at hroom ⊢
    have hbelow : ∀ site, (Sources.current (sourceKey ev.path) ev.path out).hitsAt site +
        (ev.deposits.map (·.hitsAt site)).sum < 2 ^ 64 := by
      intro site
      have hle := Sources.hitsAt_current_le (sourceKey ev.path) ev.path out site
      have hlt := hfit (sourceKey ev.path) site
      rw [hitsAt_eq hvalid, if_pos rfl] at hlt
      omega
    have hadd := Deposit.hitsAt_addAllTo (Sources.sound_current h) (wellFormed_deposits hvalid)
      (hroom _ Sources.current_mem_updateAt) hbelow site
    have hchange := Sources.hitsAt_updateAt (sourceKey ev.path) ev.path
      (Deposit.addAllTo · ev.deposits) out name site
    simp only [hadd] at hchange
    rw [hitsAt_eq hvalid]
    split at hchange
    · rename_i hname
      rw [if_pos hname]
      omega
    · rename_i hname
      rw [if_neg hname]
      omega

/-- The collected records after events one after the other. -/
def applyAll (out : Sources) (evs : List Event) : Sources := evs.foldl apply out

variable {evs : List Event}

theorem keyed_applyAll (evs : List Event) (h : out.Keyed) : (applyAll out evs).Keyed := by
  induction evs generalizing out with
  | nil => exact h
  | cons ev evs ih => exact ih (keyed_apply ev h)

theorem hasRoom_of_applyAll (evs : List Event) (h : (applyAll out evs).HasRoom) :
    out.HasRoom := by
  induction evs generalizing out with
  | nil => exact h
  | cons ev evs ih => exact hasRoom_of_apply ev (ih h)

theorem sound_applyAll (hvalid : ∀ ev ∈ evs, ev.Valid) (h : ∀ e ∈ out, e.2.Sound) :
    ∀ e ∈ applyAll out evs, e.2.Sound := by
  induction evs generalizing out with
  | nil => exact h
  | cons ev evs ih =>
    obtain ⟨hev, hevs⟩ := List.forall_mem_cons.1 hvalid
    exact ih hevs (sound_apply hev h)

/-- The run: events bring what each of them brings, in whichever order they come. -/
theorem hitsAt_applyAll (hvalid : ∀ ev ∈ evs, ev.Valid) (hroom : (applyAll out evs).HasRoom)
    (h : ∀ e ∈ out, e.2.Sound)
    (hfit : ∀ name site,
      out.hitsAt name site + (evs.map (·.hitsAt name site)).sum < 2 ^ 64) (name : String)
    (site : Site) :
    (applyAll out evs).hitsAt name site =
      out.hitsAt name site + (evs.map (·.hitsAt name site)).sum := by
  induction evs generalizing out with
  | nil => rfl
  | cons ev evs ih =>
    obtain ⟨hev, hevs⟩ := List.forall_mem_cons.1 hvalid
    simp only [List.map_cons, List.sum_cons] at hfit ⊢
    have hmid : (ev.apply out).HasRoom := hasRoom_of_applyAll evs hroom
    have hstep : ∀ name site, (ev.apply out).hitsAt name site =
        out.hitsAt name site + ev.hitsAt name site := fun name site =>
      hitsAt_apply hev hmid h (fun name site => by have := hfit name site; omega) name site
    have hrest := ih hevs hroom (sound_apply hev h) fun name site => by
      rw [hstep]
      have := hfit name site
      omega
    calc (applyAll out (ev :: evs)).hitsAt name site
        = (ev.apply out).hitsAt name site + (evs.map (·.hitsAt name site)).sum := hrest
      _ = out.hitsAt name site + (ev.hitsAt name site + (evs.map (·.hitsAt name site)).sum) := by
        rw [hstep, Nat.add_assoc]

end Event

/-! ### What a file contributes -/

/-- The hits that the record of a file with the source map `m` contributes to a site of the source
called `name`. A function counts where its declaration and its body come from one source, a branch
where all its outcomes come from one source and there are any. -/
def movedHits (m : Consumer) (r : FileRecord) (name : String) : Site → Nat
  | .statement key =>
    r.statements.total fun id l =>
      match sourceRange? m r.path l with
      | some moved =>
        if sourceKey moved.source = name ∧ moved.range.range = key then
          (r.count (.statement id)).toNat
        else 0
      | none => 0
  | .function key =>
    r.functions.total fun id f =>
      match sourceRange? m r.path f.decl, sourceRange? m r.path f.body with
      | some decl, some body =>
        if decl.source = body.source ∧ sourceKey decl.source = name ∧ decl.range.range = key then
          (r.count (.function id)).toNat
        else 0
      | _, _ => 0
  | .outcome key j =>
    r.branches.total fun id b =>
      match b.outcomes.mapM (sourceRange? m r.path) with
      | some (first :: rest) =>
        if (∀ o ∈ rest, o.source = first.source) ∧ sourceKey first.source = name ∧
            (first :: rest).map (·.range.range) = key then
          (r.count (.outcome id j)).toNat
        else 0
      | _ => 0

/-- The hits that a file contributes: those of its entries that are moved, or where it has no
source map those that it has under its own path. -/
def contributed (find : FileRecord → Option Consumer) (name : String) (site : Site)
    (r : FileRecord) : Nat :=
  match find r with
  | some m => movedHits m r name site
  | none => if sourceKey r.path = name then r.hitsAt site else 0

/-- The statements of a record that come from a source. -/
def movedStatements (m : Consumer) (r : FileRecord) : List Event :=
  r.statements.entries.filterMap fun e =>
    (sourceRange? m r.path e.2).map fun moved =>
      .landed moved.source (.statement moved.range (r.count (.statement e.1)))

/-- The functions of a record whose declaration and body come from one source. -/
def movedFunctions (m : Consumer) (r : FileRecord) : List Event :=
  r.functions.entries.filterMap fun e =>
    match sourceRange? m r.path e.2.decl, sourceRange? m r.path e.2.body with
    | some decl, some body =>
      if decl.source = body.source then
        some (.landed decl.source
          (.function e.2.name decl.range body.range (r.count (.function e.1))))
      else none
    | _, _ => none

/-- The branches of a record whose outcomes come from one source. -/
def movedBranches (m : Consumer) (r : FileRecord) : List Event :=
  r.branches.entries.filterMap fun e =>
    match r.branchHits.get? e.1, movedOutcomes? m r.path e.2 with
    | some hits, some (source, first, outcomes) =>
      some (.landed source (.branch e.2.kind
        ((movedBranchRange? m r.path source e.2).getD first) outcomes hits))
    | _, _ => none

/-- The events that the record of a file makes. -/
def events (find : FileRecord → Option Consumer) (r : FileRecord) : List Event :=
  match find r with
  | some m => movedStatements m r ++ movedFunctions m r ++ movedBranches m r
  | none => [.carried r]

variable {m : Consumer} {r : FileRecord} {find : FileRecord → Option Consumer}

theorem moveStatements_eq (m : Consumer) (r : FileRecord) (out : Sources) :
    moveStatements m r out = Event.applyAll out (movedStatements m r) := by
  rw [moveStatements, Event.applyAll, movedStatements, List.foldl_filterMap]
  congr 1
  funext out e
  cases sourceRange? m r.path e.2 <;> rfl

theorem moveFunctions_eq (m : Consumer) (r : FileRecord) (out : Sources) :
    moveFunctions m r out = Event.applyAll out (movedFunctions m r) := by
  rw [moveFunctions, Event.applyAll, movedFunctions, List.foldl_filterMap]
  congr 1
  funext out e
  cases sourceRange? m r.path e.2.decl with
  | none => rfl
  | some decl =>
    cases sourceRange? m r.path e.2.body with
    | none => rfl
    | some body =>
      simp only
      split <;> rfl

theorem moveBranches_eq (m : Consumer) (r : FileRecord) (out : Sources) :
    moveBranches m r out = Event.applyAll out (movedBranches m r) := by
  rw [moveBranches, Event.applyAll, movedBranches, List.foldl_filterMap]
  congr 1
  funext out e
  cases r.branchHits.get? e.1 with
  | none => rfl
  | some hits => cases movedOutcomes? m r.path e.2 <;> rfl

theorem addRecord_eq (find : FileRecord → Option Consumer) (out : Sources) (r : FileRecord) :
    addRecord find out r = Event.applyAll out (events find r) := by
  rw [addRecord, events]
  cases find r with
  | none => rfl
  | some m =>
    simp only [moveRecord, moveStatements_eq, moveFunctions_eq, moveBranches_eq, Event.applyAll,
      List.foldl_append]

/-- The outcomes of a branch are followed together: all of them, into one source. -/
theorem movedOutcomes?_eq (m : Consumer) (file : String) (b : BranchEntry) :
    movedOutcomes? m file b =
      match b.outcomes.mapM (sourceRange? m file) with
      | some (first :: rest) =>
        if ∀ o ∈ rest, o.source = first.source then
          some (first.source, first.range, (first :: rest).map (·.range))
        else none
      | _ => none := by
  rw [movedOutcomes?]
  cases b.outcomes.mapM (sourceRange? m file) with
  | none => rfl
  | some outcomes =>
    cases outcomes with
    | nil => rfl
    | cons first rest => simp

theorem length_of_mapM {α β : Type} {f : α → Option β} {l : List α} {l' : List β}
    (h : l.mapM f = some l') : l'.length = l.length := by
  induction l generalizing l' with
  | nil =>
    cases h
    rfl
  | cons a l ih =>
    rw [List.mapM_cons] at h
    cases ha : f a with
    | none => simp [ha] at h
    | some b =>
      cases hl : l.mapM f with
      | none => simp [ha, hl] at h
      | some bs =>
        simp only [ha, hl, Option.pure_def, Option.bind_eq_bind, Option.bind_some,
          Option.some.injEq] at h
        rw [← h, List.length_cons, List.length_cons, ih hl]

theorem valid_events (hr : r.Sound) : ∀ ev ∈ events find r, ev.Valid := by
  intro ev hev
  rw [events] at hev
  split at hev
  · simp only [List.mem_append, movedStatements, movedFunctions, movedBranches,
      List.mem_filterMap] at hev
    rcases hev with (⟨e, -, he⟩ | ⟨e, -, he⟩) | ⟨e, hmem, he⟩
    · obtain ⟨_, -, rfl⟩ := Option.map_eq_some_iff.1 he
      trivial
    · split at he
      · split at he
        · cases he
          trivial
        · cases he
      · cases he
    · split at he
      · rename_i hits source first outcomes hc hmoved
        cases he
        rw [movedOutcomes?_eq] at hmoved
        split at hmoved
        · rename_i hmapM
          split at hmoved
          · cases hmoved
            have hlength := length_of_mapM hmapM
            have hcounts := hr.length_counts (Table.get?_eq_some_iff.2 hmem) hc
            exact hcounts.trans (by rw [← hlength, List.length_map])
          · cases hmoved
        · cases hmoved
      · cases he
  · rw [List.mem_singleton.1 hev]
    exact hr

/-! ### The events of a file bring what it contributes -/

theorem sum_movedStatements (name : String) (site : Site) :
    ((movedStatements m r).map (·.hitsAt name site)).sum =
      match site with
      | .statement key => movedHits m r name (.statement key)
      | _ => 0 := by
  rw [movedStatements, FileRecord.sum_filterMap]
  cases site with
  | statement key =>
    refine congrArg List.sum (List.map_congr_left fun e _ => ?_)
    dsimp only
    cases sourceRange? m r.path e.2 with
    | none => rfl
    | some moved => simp [Event.hitsAt, Deposit.hitsAt, ite_and]
  | function key =>
    refine FileRecord.sum_map_zero fun e _ => ?_
    cases sourceRange? m r.path e.2 <;> simp [Event.hitsAt, Deposit.hitsAt]
  | outcome key j =>
    refine FileRecord.sum_map_zero fun e _ => ?_
    cases sourceRange? m r.path e.2 <;> simp [Event.hitsAt, Deposit.hitsAt]

theorem sum_movedFunctions (name : String) (site : Site) :
    ((movedFunctions m r).map (·.hitsAt name site)).sum =
      match site with
      | .function key => movedHits m r name (.function key)
      | _ => 0 := by
  rw [movedFunctions, FileRecord.sum_filterMap]
  cases site with
  | function key =>
    refine congrArg List.sum (List.map_congr_left fun e _ => ?_)
    dsimp only
    cases sourceRange? m r.path e.2.decl with
    | none => rfl
    | some decl =>
      cases sourceRange? m r.path e.2.body with
      | none => rfl
      | some body =>
        by_cases hsource : decl.source = body.source <;>
          simp [hsource, Event.hitsAt, Deposit.hitsAt, ite_and]
  | statement key =>
    refine FileRecord.sum_map_zero fun e _ => ?_
    split
    · split <;> simp [Event.hitsAt, Deposit.hitsAt]
    · rfl
  | outcome key j =>
    refine FileRecord.sum_map_zero fun e _ => ?_
    split
    · split <;> simp [Event.hitsAt, Deposit.hitsAt]
    · rfl

theorem sum_movedBranches (hr : r.Sound) (name : String) (site : Site) :
    ((movedBranches m r).map (·.hitsAt name site)).sum =
      match site with
      | .outcome key j => movedHits m r name (.outcome key j)
      | _ => 0 := by
  rw [movedBranches, FileRecord.sum_filterMap]
  cases site with
  | outcome key j =>
    refine congrArg List.sum (List.map_congr_left fun e he => ?_)
    obtain ⟨counts, hc, -⟩ := hr.exists_counts (Table.get?_eq_some_iff.2 he)
    dsimp only
    rw [hc, movedOutcomes?_eq]
    cases e.2.outcomes.mapM (sourceRange? m r.path) with
    | none => rfl
    | some outcomes =>
      cases outcomes with
      | nil => rfl
      | cons first rest =>
        by_cases hsource : ∀ o ∈ rest, o.source = first.source
        · simp only [if_pos hsource, Option.map_some, Option.getD_some, Event.hitsAt,
            Deposit.hitsAt, ite_and, FileRecord.count, hc, List.map_map]
          rfl
        · simp [hsource]
  | statement key =>
    refine FileRecord.sum_map_zero fun e _ => ?_
    split <;> simp [Event.hitsAt, Deposit.hitsAt]
  | function key =>
    refine FileRecord.sum_map_zero fun e _ => ?_
    split <;> simp [Event.hitsAt, Deposit.hitsAt]

/-- What the events of a file bring is what the file contributes. -/
theorem hitsAt_events (hr : r.Sound) (name : String) (site : Site) :
    ((events find r).map (·.hitsAt name site)).sum = contributed find name site r := by
  rw [events, contributed]
  cases find r with
  | none => simp [Event.hitsAt]
  | some m =>
    simp only [List.map_append, List.sum_append, sum_movedStatements, sum_movedFunctions,
      sum_movedBranches hr]
    cases site <;> simp

/-- The hits at a site of the source called `name` in a snapshot. -/
def hitsAt (s : Snapshot) (name : String) (site : Site) : Nat :=
  (s.files.map fun r => if sourceKey r.path = name then r.hitsAt site else 0).sum

theorem foldl_addRecord (find : FileRecord → Option Consumer) (out : Sources)
    (files : List FileRecord) :
    files.foldl (addRecord find) out = Event.applyAll out (files.flatMap (events find)) := by
  induction files generalizing out with
  | nil => rfl
  | cons r files ih =>
    rw [List.foldl_cons, ih, addRecord_eq, List.flatMap_cons, Event.applyAll, Event.applyAll,
      Event.applyAll, List.foldl_append]

theorem sum_flatMap_events {files : List FileRecord} (h : ∀ r ∈ files, r.Sound) (name : String)
    (site : Site) : ((files.flatMap (events find)).map (·.hitsAt name site)).sum =
      (files.map (contributed find name site)).sum := by
  induction files with
  | nil => rfl
  | cons r files ih =>
    obtain ⟨hr, hfiles⟩ := List.forall_mem_cons.1 h
    rw [List.flatMap_cons, List.map_append, List.sum_append, ih hfiles, hitsAt_events hr,
      List.map_cons, List.sum_cons]

theorem valid_flatMap_events {files : List FileRecord} (h : ∀ r ∈ files, r.Sound) :
    ∀ ev ∈ files.flatMap (events find), ev.Valid := by
  intro ev hev
  obtain ⟨r, hr, hev⟩ := List.mem_flatMap.1 hev
  exact valid_events (h r hr) ev hev

theorem Sources.Keyed.empty : Keyed [] :=
  ⟨List.Pairwise.nil, fun _ he => absurd he List.not_mem_nil⟩

/-- The collected records of a run, which are the files of the moved snapshot. -/
theorem exists_sources (find : FileRecord → Option Consumer) (s : Snapshot) :
    ∃ out : Sources, out = Event.applyAll [] (s.files.flatMap (events find)) ∧ out.Keyed ∧
      (onSources find s).files = out.map (·.2) := by
  have hkeyed := Event.keyed_applyAll (s.files.flatMap (events find)) Sources.Keyed.empty
  refine ⟨_, rfl, hkeyed, ?_⟩
  rw [onSources, foldl_addRecord, Snapshot.files_ofRecords]
  have hnames := List.map_congr_left hkeyed.named ▸ hkeyed.distinct
  rw [List.map_map]
  refine List.pairwise_map.2 ((List.pairwise_map.1 hnames).imp ?_)
  exact fun hne heq => hne (congrArg sourceKey heq)

/-- Each source has one file. -/
theorem nodup_sourceKeys (find : FileRecord → Option Consumer) (s : Snapshot) :
    ((onSources find s).files.map fun r => sourceKey r.path).Nodup := by
  obtain ⟨out, -, hkeyed, hfiles⟩ := exists_sources find s
  rw [hfiles, List.map_map]
  have hnames := List.map_congr_left hkeyed.named
  exact hnames ▸ hkeyed.distinct

theorem hitsAt_onSources {s : Snapshot} (h : ∀ r ∈ s.files, r.Sound)
    (hroom : ∀ r ∈ (onSources find s).files, r.HasRoom)
    (hfit : ∀ name site, (s.files.map (contributed find name site)).sum < 2 ^ 64)
    (name : String) (site : Site) :
    hitsAt (onSources find s) name site = (s.files.map (contributed find name site)).sum := by
  obtain ⟨out, hout, hkeyed, hfiles⟩ := exists_sources find s
  have hroom' : (Event.applyAll [] (s.files.flatMap (events find))).HasRoom := by
    intro e he
    refine hroom e.2 ?_
    rw [hfiles, hout]
    exact List.mem_map.2 ⟨e, he, rfl⟩
  have hnone : ∀ name site, Sources.hitsAt [] name site = 0 := fun _ _ => rfl
  have hfit' : ∀ name site, Sources.hitsAt [] name site +
      ((s.files.flatMap (events find)).map fun ev => ev.hitsAt name site).sum < 2 ^ 64 := by
    intro name site
    rw [sum_flatMap_events h, hnone, Nat.zero_add]
    exact hfit name site
  have hrun := Event.hitsAt_applyAll (valid_flatMap_events h) hroom' nofun hfit' name site
  rw [sum_flatMap_events h, hnone, Nat.zero_add, ← hout] at hrun
  rw [← hrun, hitsAt, hfiles, List.map_map, Sources.hitsAt]
  refine congrArg List.sum (List.map_congr_left fun e he => ?_)
  rw [hkeyed.named e he]
  rfl

/-- Where each source has one file, the hits of a source are those of its file. -/
theorem hitsAt_of_mem {s : Snapshot} {r : FileRecord}
    (hnodup : (s.files.map fun r => sourceKey r.path).Nodup) (hr : r ∈ s.files) (site : Site) :
    hitsAt s (sourceKey r.path) site = r.hitsAt site := by
  obtain ⟨before, behind, hsplit⟩ := List.append_of_mem hr
  have hother : ∀ x ∈ before ++ behind, sourceKey x.path ≠ sourceKey r.path := by
    have hperm : s.files.Perm (r :: (before ++ behind)) := by
      rw [hsplit]
      exact List.perm_middle
    have hcons : ((r :: (before ++ behind)).map fun x => sourceKey x.path).Nodup :=
      List.Perm.nodup (hperm.map fun x : FileRecord => sourceKey x.path) hnodup
    rw [List.map_cons, List.nodup_cons] at hcons
    intro x hx heq
    exact hcons.1 (List.mem_map.2 ⟨x, hx, heq⟩)
  have hzero : ∀ l : List FileRecord, (∀ x ∈ l, sourceKey x.path ≠ sourceKey r.path) →
      (l.map fun x => if sourceKey x.path = sourceKey r.path then x.hitsAt site else 0).sum = 0 :=
    fun l hl => FileRecord.sum_map_zero fun x hx => if_neg (hl x hx)
  rw [hitsAt, hsplit, List.map_append, List.map_cons, List.sum_append, List.sum_cons, if_pos rfl,
    hzero before fun x hx => hother x (List.mem_append_left _ hx),
    hzero behind fun x hx => hother x (List.mem_append_right _ hx), Nat.zero_add, Nat.add_zero]

/-- Moving a snapshot onto its sources neither loses nor invents a hit: each source has one file,
the hits at each of its sites are the sum of what the files contribute to it, and the order of the
files makes no difference. No counter overflows as long as these sums fit, and no id is handed out
twice as long as no table gets as far as the greatest id. -/
theorem onSources_hits {find : FileRecord → Option Consumer} {s : Snapshot}
    (hvalid : ∀ r ∈ s.files, r.validate = .ok ())
    (hroom : ∀ r ∈ (onSources find s).files, r.HasRoom)
    (hfit : ∀ name site, (s.files.map (contributed find name site)).sum < 2 ^ 64) :
    ((onSources find s).files.map fun r => sourceKey r.path).Nodup ∧
    (∀ r ∈ (onSources find s).files, ∀ site,
      r.hitsAt site = (s.files.map (contributed find (sourceKey r.path) site)).sum) ∧
    (∀ name site, hitsAt (onSources find s) name site =
      (s.files.map (contributed find name site)).sum) ∧
    (∀ t : Snapshot, t.files.Perm s.files → (∀ r ∈ (onSources find t).files, r.HasRoom) →
      ∀ name site, hitsAt (onSources find t) name site = hitsAt (onSources find s) name site) := by
  have hsound : ∀ r ∈ s.files, r.Sound := fun r hr => .of_validate (hvalid r hr)
  have hnodup := nodup_sourceKeys find s
  have hhits := hitsAt_onSources hsound hroom hfit
  refine ⟨hnodup, ?_, hhits, ?_⟩
  · intro r hr site
    rw [← hhits, hitsAt_of_mem hnodup hr]
  · intro t hperm hroom' name site
    have hsum : ∀ name site, (t.files.map (contributed find name site)).sum =
        (s.files.map (contributed find name site)).sum := fun name site =>
      (hperm.map _).sum_nat
    rw [hhits, hitsAt_onSources (fun r hr => hsound r (hperm.mem_iff.1 hr)) hroom'
      (fun name site => hsum name site ▸ hfit name site), hsum]

/-- A source map that leaves every position where it is. -/
def unmoved : Consumer := ⟨fun p _ => some ("a.ts", p), fun _ p _ => some p⟩

/-- The record of a file with one statement. -/
def oneStatement (path : String) (hits : UInt64) : FileRecord :=
  { FileRecord.empty path with
    statements := Table.empty.insert 0 (.between ⟨1, 0⟩ ⟨1, 5⟩)
    statementHits := Table.empty.insert 0 hits }

/-- A file that was made from a source, and the source itself, whose path has the other slash. -/
def twoFiles : Snapshot where
  files := [oneStatement "out/a.js" 2, oneStatement "out\\a.ts" 3]
  distinct := by decide

/-- Only the file that was made has the source map. -/
def mapOfFirst (r : FileRecord) : Option Consumer :=
  if r.path = "out/a.js" then some unmoved else none

/-- The file that was made brings its two hits to one statement. -/
theorem contributed_made (name : String) (site : Site) :
    contributed mapOfFirst name site (oneStatement "out/a.js" 2) ≤ 2 := by
  have hmoved : sourceRange? unmoved "out/a.js" (.between ⟨1, 0⟩ ⟨1, 5⟩) =
      some ⟨"out/a.ts", .between ⟨1, 0⟩ ⟨1, 5⟩⟩ := by decide
  have hmap : mapOfFirst (oneStatement "out/a.js" 2) = some unmoved := if_pos rfl
  rw [contributed, hmap]
  cases site with
  | statement key =>
    have hentries : (oneStatement "out/a.js" 2).statements.entries =
      [(0, .between ⟨1, 0⟩ ⟨1, 5⟩)] := rfl
    have hpath : (oneStatement "out/a.js" 2).path = "out/a.js" := rfl
    simp only [movedHits, Table.total, hentries, hpath, hmoved, List.map_cons, List.map_nil]
    split <;> decide
  | function key => exact Nat.zero_le _
  | outcome key j => exact Nat.zero_le _

theorem contributed_twoFiles (name : String) (site : Site) :
    (twoFiles.files.map (contributed mapOfFirst name site)).sum ≤ 5 := by
  have hfirst := contributed_made name site
  have hsecond : contributed mapOfFirst name site (oneStatement "out\\a.ts" 3) ≤ 3 := by
    have hmap : mapOfFirst (oneStatement "out\\a.ts" 3) = none := if_neg (by decide)
    have hhits : (oneStatement "out\\a.ts" 3).hitsAt site ≤ 3 := by
      cases site with
      | statement key =>
        have hentries : (oneStatement "out\\a.ts" 3).statements.entries =
          [(0, .between ⟨1, 0⟩ ⟨1, 5⟩)] := rfl
        simp only [FileRecord.hitsAt, Table.total, hentries, List.map_cons, List.map_nil]
        split <;> decide
      | function key => exact Nat.zero_le _
      | outcome key j => exact Nat.zero_le _
    rw [contributed, hmap]
    dsimp only
    split
    · exact hhits
    · exact Nat.zero_le _
  simp only [twoFiles, List.map_cons, List.map_nil, List.sum_cons, List.sum_nil]
  omega

theorem onSources_hits_twoFiles :
    (∀ r ∈ twoFiles.files, r.validate = .ok ()) ∧
    (∀ r ∈ (onSources mapOfFirst twoFiles).files, r.HasRoom) ∧
    (∀ r ∈ (onSources mapOfFirst twoFiles).files,
      r.hitsAt (.statement (⟨1, 0⟩, ⟨1, 5⟩)) = 5) := by
  have hvalid : ∀ r ∈ twoFiles.files, r.validate = .ok () := by
    intro r hr
    simp only [twoFiles, List.mem_cons, List.not_mem_nil, or_false] at hr
    rcases hr with rfl | rfl <;> rfl
  have hroom : ∀ r ∈ (onSources mapOfFirst twoFiles).files, r.HasRoom := by
    have hkeys : ∀ r ∈ (onSources mapOfFirst twoFiles).files,
        r.statements.keys = [0] ∧ r.functions.keys = [] ∧ r.branches.keys = [] := by decide
    intro r hr
    obtain ⟨hs, hf, hb⟩ := hkeys r hr
    constructor <;> rw [Table.HasRoom] <;> simp [hs, hf, hb]
  have hhits := (onSources_hits hvalid hroom fun name site =>
    Nat.lt_of_le_of_lt (contributed_twoFiles name site) (by decide)).2.1
  refine ⟨hvalid, hroom, fun r hr => ?_⟩
  rw [hhits r hr]
  have hpath : ∀ r ∈ (onSources mapOfFirst twoFiles).files, r.path = "out/a.ts" := by decide
  rw [hpath r hr]
  decide

end Remap

end Coverage
