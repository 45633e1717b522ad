import Coverage.Proofs.FileRecord.Merge
import Coverage.Proofs.Summary

/-!
# Merging snapshots in any order

However many snapshots are merged, what becomes of a path depends on the records of that path
alone: the snapshot holds what these give together (`Gathers`). One more record keeps this, or does
not fit a record of its file (`gathers_add`), and so does a whole run (`gathers_foldlM`). The order
of the snapshots therefore shows neither in whether they fit together nor, where the records
describe their files alike, in any count (`foldlM_merge_perm`).
-/

namespace Coverage

namespace FileRecord

/-! ### Records that describe a file alike -/

/-- The ids that both records have are described alike. -/
structure DescribesAlike (x y : FileRecord) : Prop where
  statements : ∀ id a b, x.statements.get? id = some a → y.statements.get? id = some b → a = b
  functions : ∀ id a b, x.functions.get? id = some a → y.functions.get? id = some b → a = b
  branches : ∀ id a b, x.branches.get? id = some a → y.branches.get? id = some b → a = b

theorem DescribesAlike.of_eq {x y : FileRecord} (hs : x.statements = y.statements)
    (hf : x.functions = y.functions) (hb : x.branches = y.branches) : x.DescribesAlike y where
  statements _ _ _ h h' := Option.some.inj (h.symm.trans (hs ▸ h'))
  functions _ _ _ h h' := Option.some.inj (h.symm.trans (hf ▸ h'))
  branches _ _ _ h h' := Option.some.inj (h.symm.trans (hb ▸ h'))

/-- The first value that a list has is the same in every order if there is only one. -/
theorem findSome?_perm {α β : Type} {f : α → Option β} {l l' : List α} (h : l.Perm l')
    (hf : ∀ x ∈ l, ∀ y ∈ l, ∀ a b, f x = some a → f y = some b → a = b) :
    l.findSome? f = l'.findSome? f := by
  cases hl : l.findSome? f with
  | none =>
    rw [List.findSome?_eq_none_iff] at hl
    exact (List.findSome?_eq_none_iff.2 fun x hx => hl x (h.mem_iff.2 hx)).symm
  | some a =>
    obtain ⟨x, hx, ha⟩ := List.exists_of_findSome?_eq_some hl
    have hsome : (l'.findSome? f).isSome :=
      List.findSome?_isSome_iff.2 ⟨x, h.mem_iff.1 hx, by rw [ha]; rfl⟩
    obtain ⟨b, hb⟩ := Option.isSome_iff_exists.1 hsome
    obtain ⟨y, hy, hyb⟩ := List.exists_of_findSome?_eq_some hb
    rw [hb, hf x hx y (h.mem_iff.2 hy) a b ha hyb]

/-- A record without its source map. -/
def unmapped (r : FileRecord) : FileRecord := { r with sourceMap := none }

/-- Records that describe a file alike give the same in every order, source maps apart. -/
theorem Combination.unmapped_perm {r r' : FileRecord} {rs rs' : List FileRecord}
    (h : Combination r rs) (h' : Combination r' rs') (hperm : rs.Perm rs') (hne : rs ≠ [])
    (halike : ∀ x ∈ rs, ∀ y ∈ rs, x.DescribesAlike y) : r.unmapped = r'.unmapped := by
  have hmoved : Combination { r with sourceMap := r'.sourceMap } rs' :=
    { sound := ⟨h.sound.statements, h.sound.functions, h.sound.branches, h.sound.outcomes⟩
      executed := h.executed
      path := fun x hx => h.path x (hperm.mem_iff.2 hx)
      statements := fun id => (h.statements id).trans
        (findSome?_perm hperm fun x hx y hy => (halike x hx y hy).statements id)
      functions := fun id => (h.functions id).trans
        (findSome?_perm hperm fun x hx y hy => (halike x hx y hy).functions id)
      branches := fun id => (h.branches id).trans
        (findSome?_perm hperm fun x hx y hy => (halike x hx y hy).branches id)
      shapes := fun x hx => h.shapes x (hperm.mem_iff.2 hx)
      counts := fun c => (h.counts c).trans (hperm.map _).sum_eq
      sourceMap := h'.sourceMap }
  have hne' : rs' ≠ [] := fun hnil => hne (List.Perm.eq_nil (hnil ▸ hperm))
  have hmap : ({ r with sourceMap := r'.sourceMap } : FileRecord) = r' := hmoved.unique h' hne'
  have heq : ({ r with sourceMap := r'.sourceMap } : FileRecord).unmapped = r'.unmapped :=
    congrArg unmapped hmap
  exact heq

end FileRecord

namespace Grouping

open FileRecord (executed)

/-- What a list of records gives, in two orders: nothing twice, or two records that differ in their
source maps only. -/
theorem Outcome.unmapped_perm {path : String} {rs rs' : List FileRecord} {r r' : FileRecord}
    (h : Outcome path rs (.ok r)) (h' : Outcome path rs' (.ok r')) (hperm : rs.Perm rs')
    (halike : ∀ x ∈ rs, ∀ y ∈ rs, x.DescribesAlike y)
    (hmarked : (∃ x ∈ rs, x.unexecuted = false) ∨ ∀ x ∈ rs, ∀ y ∈ rs, x = y) :
    r.unmapped = r'.unmapped := by
  have hexecuted : (executed rs).Perm (executed rs') := hperm.filter _
  cases h with
  | leftmost _ _ _ hnone hhead =>
    have hmem : r ∈ rs := List.mem_of_head? hhead
    cases h' with
    | leftmost _ _ _ hnone' hhead' =>
      have hequal : ∀ x ∈ rs, ∀ y ∈ rs, x = y := by
        refine hmarked.resolve_left ?_
        rintro ⟨x, hx, hrun⟩
        have hx : x ∈ executed rs := List.mem_filter.2 ⟨hx, by rw [hrun]; rfl⟩
        rw [hnone] at hx
        cases hx
      rw [hequal r hmem r' (hperm.mem_iff.2 (List.mem_of_head? hhead'))]
    | combined _ _ hne' _ => exact absurd (List.Perm.nil_eq (hnone ▸ hexecuted)).symm hne'
  | combined _ _ hne hr =>
    cases h' with
    | leftmost _ _ _ hnone' _ => exact absurd (hexecuted.trans (hnone' ▸ .refl _)).eq_nil hne
    | combined _ _ _ hr' =>
      refine hr.unmapped_perm hr' hexecuted hne fun x hx y hy => ?_
      exact halike x (List.mem_filter.1 hx).1 y (List.mem_filter.1 hy).1

theorem Outcome.ne_nil {path : String} {rs : List FileRecord} {r : FileRecord}
    (h : Outcome path rs (.ok r)) : rs ≠ [] := by
  rintro rfl
  cases h with
  | leftmost _ _ _ _ hhead => cases hhead
  | combined _ _ hne _ => exact hne rfl

end Grouping

namespace Snapshot

open FileRecord (executed ShapesDisagree Combination)
open Grouping (Outcome)

/-! ### Adding one record -/

/-- The record that a path has once `r` is added to what was there. -/
def joined (old : Option FileRecord) (r : FileRecord) : Except Error FileRecord :=
  match old with
  | none => .ok r
  | some f => f.merge r

section AddTo

variable {r m : FileRecord} {l : List FileRecord} {e : Error}

theorem addTo_of_error (h : joined (l.find? fun f => f.path = r.path) r = .error e) :
    addTo r l = .error e := by
  induction l with
  | nil => cases h
  | cons f rest ih =>
    rw [addTo]
    by_cases hf : f.path = r.path
    · rw [List.find?_cons_of_pos (by simpa using hf)] at h
      have hmerge : f.merge r = .error e := h
      simp only [if_pos hf, hmerge, bind, Except.bind]
    · rw [List.find?_cons_of_neg (by simpa using hf)] at h
      simp only [if_neg hf, ih h, bind, Except.bind]

theorem addTo_of_ok (h : joined (l.find? fun f => f.path = r.path) r = .ok m) :
    ∃ l', addTo r l = .ok l' ∧ ∀ path, (l'.find? fun f => f.path = path) =
      if r.path = path then some m else l.find? fun f => f.path = path := by
  induction l with
  | nil =>
    cases h
    exact ⟨[r], rfl, fun path => by by_cases hp : r.path = path <;> simp [hp]⟩
  | cons f rest ih =>
    by_cases hf : f.path = r.path
    · rw [List.find?_cons_of_pos (by simpa using hf)] at h
      have hmerge : f.merge r = .ok m := h
      have hm : m.path = r.path := (FileRecord.path_of_merge hmerge).trans hf
      refine ⟨m :: rest, ?_, fun path => ?_⟩
      · simp only [addTo, if_pos hf, hmerge, bind, Except.bind, pure, Except.pure]
      · by_cases hp : r.path = path <;> simp [hm, hf, hp]
    · rw [List.find?_cons_of_neg (by simpa using hf)] at h
      obtain ⟨l', hl', hfind⟩ := ih h
      refine ⟨f :: l', ?_, fun path => ?_⟩
      · simp only [addTo, if_neg hf, hl', bind, Except.bind, pure, Except.pure]
      · by_cases hp : f.path = path
        · have hne : ¬ r.path = path := fun heq => hf (hp.trans heq.symm)
          simp [hp, hne]
        · simp [hp, hfind]

end AddTo

section Add

variable {s : Snapshot} {r m : FileRecord} {e : Error}

theorem add_of_error (h : joined (s.find? r.path) r = .error e) : s.add r = .error e := by
  have hadd := addTo_of_error h
  unfold add
  split
  · next hl => rw [hadd] at hl; cases hl
  · next hl => rw [hadd] at hl; cases hl; rfl

/-- A record that is added changes the look-up of its own path only. -/
theorem add_of_ok (h : joined (s.find? r.path) r = .ok m) :
    ∃ t, s.add r = .ok t ∧
      ∀ path, t.find? path = if r.path = path then some m else s.find? path := by
  obtain ⟨l, hl, hfind⟩ := addTo_of_ok h
  refine ⟨⟨l, distinct_of_addTo s.distinct hl⟩, ?_, hfind⟩
  unfold add
  split
  · next hl' => rw [hl] at hl'; cases hl'; rfl
  · next hl' => rw [hl] at hl'; cases hl'

end Add

/-! ### What a snapshot holds of each file -/

/-- The records of one file. -/
def observations (path : String) (rs : List FileRecord) : List FileRecord :=
  rs.filter fun r => r.path = path

theorem observations_append (path : String) (rs ts : List FileRecord) :
    observations path (rs ++ ts) = observations path rs ++ observations path ts :=
  List.filter_append ..

theorem observations_single (path : String) (r : FileRecord) :
    observations path [r] = if r.path = path then [r] else [] := by
  by_cases h : r.path = path <;> simp [observations, h]

/-- A snapshot holds what the records `rs` give together, file by file. -/
structure Gathers (s : Snapshot) (rs : List FileRecord) : Prop where
  missing : ∀ path, s.find? path = none → observations path rs = []
  present : ∀ path r, s.find? path = some r → Outcome path (observations path rs) (.ok r)

theorem gathers_empty : Gathers empty [] := ⟨fun _ _ => rfl, nofun⟩

/-- Two executed records of some file disagree on a branch. -/
def Clash (rs : List FileRecord) : Prop :=
  ∃ path, ShapesDisagree (executed (observations path rs))

theorem Clash.mono {rs ts : List FileRecord} (h : ∀ r ∈ rs, r ∈ ts) (hc : Clash rs) : Clash ts := by
  obtain ⟨path, hpath⟩ := hc
  refine ⟨path, hpath.mono fun r hr => ?_⟩
  obtain ⟨hr, hexecuted⟩ := List.mem_filter.1 hr
  obtain ⟨hr, hat⟩ := List.mem_filter.1 hr
  exact List.mem_filter.2 ⟨List.mem_filter.2 ⟨h r hr, hat⟩, hexecuted⟩

theorem Gathers.not_clash {s : Snapshot} {rs : List FileRecord} (h : Gathers s rs) :
    ¬ Clash rs := by
  rintro ⟨path, hd⟩
  cases hs : s.find? path with
  | none =>
    obtain ⟨x, hx, _⟩ := hd
    rw [h.missing path hs] at hx
    cases hx
  | some r =>
    obtain ⟨id, expected, found, he⟩ := (h.present path r hs).error_iff.2 hd
    cases he

section Run

variable {s : Snapshot} {rs ts : List FileRecord} {r : FileRecord}

/-- What a path has once a record of it is added is what all its records give together. -/
theorem Gathers.joined (h : Gathers s rs) (hr : r.Sound) :
    Outcome r.path (observations r.path (rs ++ [r])) (joined (s.find? r.path) r) := by
  have hone : Outcome r.path [r] (.ok r) := (Grouping.one r).outcome
    (fun x hx => by rw [List.mem_singleton.1 hx]) (fun x hx => by rwa [List.mem_singleton.1 hx])
  rw [observations_append, observations_single, if_pos rfl]
  cases hs : s.find? r.path with
  | none =>
    rw [h.missing r.path hs]
    exact hone
  | some f => exact (h.present r.path f hs).merge hone

/-- One more record keeps what the snapshot holds, or it clashes with a record of its file. -/
theorem gathers_add (h : Gathers s rs) (hr : r.Sound) :
    (∃ t, s.add r = .ok t ∧ Gathers t (rs ++ [r])) ∨
      (∃ e, s.add r = .error e) ∧ Clash (rs ++ [r]) := by
  have hout := h.joined hr
  cases hj : Snapshot.joined (s.find? r.path) r with
  | error e =>
    rw [hj] at hout
    cases hout with
    | disagreed id expected found hd => exact .inr ⟨⟨_, add_of_error hj⟩, r.path, hd⟩
  | ok m =>
    obtain ⟨t, ht, hfind⟩ := add_of_ok hj
    refine .inl ⟨t, ht, fun path hp => ?_, fun path x hp => ?_⟩
    · rw [hfind] at hp
      split at hp
      · cases hp
      · next hne =>
        rw [observations_append, observations_single, if_neg hne, h.missing path hp,
          List.append_nil]
    · rw [hfind] at hp
      split at hp
      · next heq =>
        cases hp
        subst heq
        rwa [hj] at hout
      · next hne =>
        rw [observations_append, observations_single, if_neg hne, List.append_nil]
        exact h.present path x hp

/-- A run of records is taken in up to the first clash. -/
theorem gathers_foldlM (h : Gathers s rs) (hts : ∀ r ∈ ts, r.Sound) :
    (∃ t, ts.foldlM add s = .ok t ∧ Gathers t (rs ++ ts)) ∨
      (∃ e, ts.foldlM add s = .error e) ∧ Clash (rs ++ ts) := by
  induction ts generalizing s rs with
  | nil => exact .inl ⟨s, rfl, by rwa [List.append_nil]⟩
  | cons r ts ih =>
    obtain ⟨hr, hts⟩ := List.forall_mem_cons.1 hts
    have hmove : rs ++ r :: ts = rs ++ [r] ++ ts := by simp
    rw [hmove]
    simp only [List.foldlM_cons]
    rcases gathers_add h hr with ⟨t, ht, hgathers⟩ | ⟨⟨e, he⟩, hclash⟩
    · rw [ht]
      exact ih hgathers hts
    · refine .inr ⟨⟨e, by rw [he]; rfl⟩, hclash.mono fun x hx => List.mem_append_left _ hx⟩

end Run

/-! ### Merging snapshots -/

/-- Merging a snapshot adds its records one by one. -/
theorem merge_eq_foldlM (s t : Snapshot) : s.merge t = t.files.foldlM add s := by
  rw [merge, mergeInto]
  generalize t.files = rs
  induction rs generalizing s with
  | nil => rfl
  | cons r rs ih =>
    rw [addAll, List.foldlM_cons]
    cases h : s.add r with
    | error e => rfl
    | ok u => exact ih u

theorem foldlM_merge (l : List Snapshot) (s : Snapshot) :
    l.foldlM merge s = (l.flatMap files).foldlM add s := by
  induction l generalizing s with
  | nil => rfl
  | cons t l ih =>
    rw [List.foldlM_cons, List.flatMap_cons, List.foldlM_append, merge_eq_foldlM]
    exact bind_congr ih

/-- Snapshots of sound records merge when no two of these clash, and then the result holds what
they give together. -/
theorem foldlM_merge_spec {l : List Snapshot} (h : ∀ r ∈ l.flatMap files, r.Sound) :
    ((∃ m, l.foldlM merge empty = .ok m) ↔ ¬ Clash (l.flatMap files)) ∧
      ∀ m, l.foldlM merge empty = .ok m → Gathers m (l.flatMap files) := by
  rw [foldlM_merge]
  have hrun := gathers_foldlM gathers_empty h
  rw [List.nil_append] at hrun
  rcases hrun with ⟨t, ht, hgathers⟩ | ⟨⟨e, he⟩, hclash⟩
  · refine ⟨⟨fun _ => hgathers.not_clash, fun _ => ⟨t, ht⟩⟩, fun m hm => ?_⟩
    rw [ht] at hm
    cases hm
    exact hgathers
  · refine ⟨⟨?_, fun hn => absurd hclash hn⟩, fun m hm => ?_⟩
    · rintro ⟨m, hm⟩
      rw [he] at hm
      cases hm
    · rw [he] at hm
      cases hm

/-! ### Every order -/

theorem mem_files_iff {s : Snapshot} {r : FileRecord} :
    r ∈ s.files ↔ s.find? r.path = some r := by
  constructor
  · intro hr
    obtain ⟨x, hx⟩ : ∃ x, s.find? r.path = some x := by
      rw [← Option.isSome_iff_exists, find?, List.find?_isSome]
      exact ⟨r, hr, decide_eq_true rfl⟩
    have hfound : s.files.find? (fun f => f.path = r.path) = some x := hx
    have hpath : x.path = r.path := by simpa using List.find?_some hfound
    rw [hx, List.inj_on_of_nodup_map s.distinct (List.mem_of_find?_eq_some hx) hr hpath]
  · exact List.mem_of_find?_eq_some

theorem mem_map_unmapped_iff {s : Snapshot} {x : FileRecord} :
    x ∈ s.files.map FileRecord.unmapped ↔ (s.find? x.path).map FileRecord.unmapped = some x := by
  rw [List.mem_map, Option.map_eq_some_iff]
  constructor
  · rintro ⟨r, hr, rfl⟩
    exact ⟨r, mem_files_iff.1 hr, rfl⟩
  · rintro ⟨r, hr, hx⟩
    exact ⟨r, List.mem_of_find?_eq_some hr, hx⟩

theorem nodup_map_unmapped (s : Snapshot) : (s.files.map FileRecord.unmapped).Nodup := by
  refine List.Nodup.of_map FileRecord.path ?_
  rw [List.map_map]
  exact s.distinct

/-- Snapshots with the same look-ups, source maps apart, have the same files up to their order. -/
theorem files_perm {s t : Snapshot}
    (h : ∀ path, (s.find? path).map FileRecord.unmapped = (t.find? path).map FileRecord.unmapped) :
    (s.files.map FileRecord.unmapped).Perm (t.files.map FileRecord.unmapped) := by
  refine (List.perm_ext_iff_of_nodup s.nodup_map_unmapped t.nodup_map_unmapped).2 fun x => ?_
  rw [mem_map_unmapped_iff, mem_map_unmapped_iff, h]

/-- Records that describe their files alike give the same snapshot in every order, source maps and
the order of the files apart. -/
theorem Gathers.find?_perm {m m' : Snapshot} {rs rs' : List FileRecord} (h : Gathers m rs)
    (h' : Gathers m' rs') (hperm : rs.Perm rs')
    (halike : ∀ x ∈ rs, ∀ y ∈ rs, x.path = y.path → x.DescribesAlike y)
    (hmarked : ∀ path, (∃ x ∈ observations path rs, x.unexecuted = false) ∨
      ∀ x ∈ observations path rs, ∀ y ∈ observations path rs, x = y) (path : String) :
    (m.find? path).map FileRecord.unmapped = (m'.find? path).map FileRecord.unmapped := by
  have hobserved : (observations path rs).Perm (observations path rs') := hperm.filter _
  cases hm : m.find? path with
  | none =>
    cases hm' : m'.find? path with
    | none => rfl
    | some r' =>
      have hnil := h.missing path hm
      exact absurd (List.Perm.nil_eq (hnil ▸ hobserved)).symm (h'.present path r' hm').ne_nil
  | some r =>
    have hr := h.present path r hm
    cases hm' : m'.find? path with
    | none => exact absurd (hobserved.trans (h'.missing path hm' ▸ .refl _)).eq_nil hr.ne_nil
    | some r' =>
      refine congrArg some (hr.unmapped_perm (h'.present path r' hm') hobserved ?_ (hmarked path))
      intro x hx y hy
      obtain ⟨hx, hxp⟩ := List.mem_filter.1 hx
      obtain ⟨hy, hyp⟩ := List.mem_filter.1 hy
      exact halike x hx y hy ((of_decide_eq_true hxp).trans (of_decide_eq_true hyp).symm)

/-- Snapshots of valid records merge in one order exactly if they merge in the other, namely if no
two executed records of a file disagree on a branch. If the records describe their files alike and
a file that was never run is recorded in one way only, both orders give the same paths, the same
counters and the same summary. -/
theorem foldlM_merge_perm {l l' : List Snapshot} (hperm : l.Perm l')
    (hvalid : ∀ s ∈ l, ∀ r ∈ s.files, r.validate = .ok ()) :
    ((∃ m, l.foldlM merge empty = .ok m) ↔ ∃ m', l'.foldlM merge empty = .ok m') ∧
    ((∃ m, l.foldlM merge empty = .ok m) ↔ ¬ Clash (l.flatMap files)) ∧
    ((∀ x ∈ l.flatMap files, ∀ y ∈ l.flatMap files, x.path = y.path → x.DescribesAlike y) →
      (∀ path, (∃ x ∈ observations path (l.flatMap files), x.unexecuted = false) ∨
        ∀ x ∈ observations path (l.flatMap files), ∀ y ∈ observations path (l.flatMap files),
          x = y) →
      ∀ m m', l.foldlM merge empty = .ok m → l'.foldlM merge empty = .ok m' →
        m.paths.Perm m'.paths ∧
        (∀ r ∈ m.files, ∀ r' ∈ m'.files, r.path = r'.path →
          r.statementHits = r'.statementHits ∧ r.functionHits = r'.functionHits ∧
            r.branchHits = r'.branchHits) ∧
        m.summary = m'.summary) := by
  have hrecords : (l.flatMap files).Perm (l'.flatMap files) := hperm.flatMap_right files
  have hsound : ∀ r ∈ l.flatMap files, r.Sound := by
    intro r hr
    obtain ⟨s, hs, hr⟩ := List.mem_flatMap.1 hr
    exact .of_validate (hvalid s hs r hr)
  obtain ⟨hmerge, hgathers⟩ := foldlM_merge_spec hsound
  obtain ⟨hmerge', hgathers'⟩ :=
    foldlM_merge_spec (l := l') fun r hr => hsound r (hrecords.mem_iff.2 hr)
  refine ⟨?_, hmerge, fun halike hmarked m m' hm hm' => ?_⟩
  · rw [hmerge, hmerge']
    exact not_congr ⟨.mono fun r => hrecords.mem_iff.1, .mono fun r => hrecords.mem_iff.2⟩
  · have hfind := (hgathers m hm).find?_perm (hgathers' m' hm') hrecords halike hmarked
    have hfiles := files_perm hfind
    refine ⟨?_, fun r hr r' hr' hpath => ?_, ?_⟩
    · have hpaths := hfiles.map FileRecord.path
      rwa [List.map_map, List.map_map] at hpaths
    · have hat := hfind r.path
      rw [mem_files_iff.1 hr, hpath, mem_files_iff.1 hr'] at hat
      have heq : r.unmapped = r'.unmapped := Option.some.inj hat
      exact ⟨congrArg (·.statementHits) heq, congrArg (·.functionHits) heq,
        congrArg (·.branchHits) heq⟩
    · have hsummaries := hfiles.map FileRecord.summary
      rw [List.map_map, List.map_map] at hsummaries
      exact Summary.sum_perm hsummaries

/-- A file with one statement that ran so many times. -/
def oneStatement (path : String) (hits : UInt64) (unexecuted : Bool) : FileRecord :=
  { FileRecord.empty path with
    statements := Table.empty.insert 0 default
    statementHits := Table.empty.insert 0 hits
    unexecuted }

/-- Three runs: the first never reached `a.js`, and the second never loaded `b.js`. -/
def threeRuns : List Snapshot :=
  [⟨[oneStatement "a.js" 0 true, oneStatement "b.js" 4 false], by decide⟩,
    ⟨[oneStatement "a.js" 1 false], by decide⟩,
    ⟨[oneStatement "b.js" 5 false, oneStatement "a.js" 2 false], by decide⟩]

theorem foldlM_merge_perm_threeRuns :
    threeRuns.Perm threeRuns.reverse ∧ (∀ s ∈ threeRuns, ∀ r ∈ s.files, r.validate = .ok ()) ∧
      ∃ m m', threeRuns.foldlM merge empty = .ok m ∧
        threeRuns.reverse.foldlM merge empty = .ok m' ∧ m.paths = ["a.js", "b.js"] ∧
        m'.paths = ["b.js", "a.js"] ∧ m.summary = m'.summary := by
  have hperm : threeRuns.Perm threeRuns.reverse := (List.reverse_perm threeRuns).symm
  have hvalid : ∀ s ∈ threeRuns, ∀ r ∈ s.files, r.validate = .ok () := by
    simp only [threeRuns, List.mem_cons, List.not_mem_nil, or_false, forall_eq_or_imp, forall_eq]
    exact ⟨⟨rfl, rfl⟩, rfl, rfl, rfl⟩
  have halike : ∀ x ∈ threeRuns.flatMap files, ∀ y ∈ threeRuns.flatMap files, x.path = y.path →
      x.DescribesAlike y := by
    have hsame : ∀ r ∈ threeRuns.flatMap files, r.statements = Table.empty.insert 0 default ∧
        r.functions = Table.empty ∧ r.branches = Table.empty := by decide
    intro x hx y hy _
    obtain ⟨hs, hf, hb⟩ := hsame x hx
    obtain ⟨hs', hf', hb'⟩ := hsame y hy
    exact .of_eq (hs.trans hs'.symm) (hf.trans hf'.symm) (hb.trans hb'.symm)
  have hpaths : ∀ r ∈ threeRuns.flatMap files, r.path = "a.js" ∨ r.path = "b.js" := by decide
  have hmarked : ∀ path, (∃ x ∈ observations path (threeRuns.flatMap files), x.unexecuted = false) ∨
      ∀ x ∈ observations path (threeRuns.flatMap files),
        ∀ y ∈ observations path (threeRuns.flatMap files), x = y := by
    intro path
    refine or_iff_not_imp_left.2 fun hnone x hx => ?_
    obtain ⟨hmem, hx⟩ := List.mem_filter.1 hx
    refine absurd ?_ hnone
    rcases hpaths x hmem with hp | hp <;> rw [hp] at hx <;> rw [← of_decide_eq_true hx]
    · exact ⟨oneStatement "a.js" 1 false, by decide, rfl⟩
    · exact ⟨oneStatement "b.js" 4 false, by decide, rfl⟩
  obtain ⟨-, -, hsame⟩ := foldlM_merge_perm hperm hvalid
  exact ⟨hperm, hvalid, _, _, rfl, rfl, rfl, rfl, (hsame halike hmarked _ _ rfl rfl).2.2⟩

end Snapshot

end Coverage
