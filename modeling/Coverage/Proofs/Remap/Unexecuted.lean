import Coverage.Proofs.Remap.Arrival
import Mathlib.Algebra.Order.BigOperators.Group.List
import Mathlib.Algebra.Order.Group.Nat

/-!
# The mark of an unexecuted file is kept when hits come to it

A record that is marked as unexecuted gives way when it is merged, so the mark should stand beside
counters at zero only. Where a snapshot is moved onto its sources, the mark of a source is that of
the first file that reaches it, and only if that file is carried over (`unexecuted_iff`). Hits come
to a source from every file that reaches it (`hit_of_applyAll`), and they leave the mark alone.

The main result is `onSources_unexecuted`, which says exactly which sources end up with the mark
and with hits: those that a marked file reaches first, without a source map, and that some file
which is not marked brings hits to. A later merge throws these hits away.
-/

namespace Coverage

open SourceMap (Consumer)

namespace FileRecord

/-- Some counter of a record is not at zero. -/
def Hit (r : FileRecord) : Prop := ∃ c, r.count c ≠ 0

theorem not_hit_empty (path : String) : ¬ (empty path).Hit := by
  rintro ⟨c, hc⟩
  cases c <;> exact hc rfl

/-- The hits of a sound record show at some site. -/
theorem exists_hitsAt_of_hit {r : FileRecord} (hr : r.Sound) (h : r.Hit) :
    ∃ site, 0 < r.hitsAt site := by
  obtain ⟨c, hc⟩ := h
  have hpos : 0 < (r.count c).toNat := Nat.pos_of_ne_zero fun hzero => hc (UInt64.toNat_inj.1 hzero)
  -- A counter that is not at zero is in its table, and thus has a description.
  have hcounted : ∀ {α γ : Type} {t : Table α} {hits : Table γ} {id : Id},
      hits.keys = t.keys → hits.get? id ≠ none → ∃ a, t.get? id = some a := by
    intro α γ t hits id hkeys hne
    refine Table.mem_keys_iff.1 (hkeys ▸ ?_)
    exact not_not.1 fun hnot => hne (Table.get?_eq_none_iff.2 hnot)
  cases c with
  | statement id =>
    obtain ⟨l, hl⟩ := hcounted hr.statements fun hnone => hc (by rw [count, hnone]; rfl)
    refine ⟨.statement l.range, Nat.lt_of_lt_of_le hpos ?_⟩
    have hle := Table.le_total
      (f := fun id x => if x.range = l.range then (r.count (.statement id)).toNat else 0) hl
    rwa [if_pos rfl] at hle
  | function id =>
    obtain ⟨f, hf⟩ := hcounted hr.functions fun hnone => hc (by rw [count, hnone]; rfl)
    refine ⟨.function f.decl.range, Nat.lt_of_lt_of_le hpos ?_⟩
    have hle := Table.le_total
      (f := fun id x =>
        if x.decl.range = f.decl.range then (r.count (.function id)).toNat else 0) hf
    rwa [if_pos rfl] at hle
  | outcome id j =>
    obtain ⟨b, hb⟩ := hcounted hr.branches fun hnone => hc (by rw [count, hnone]; rfl)
    refine ⟨.outcome (b.outcomes.map Location.range) j, Nat.lt_of_lt_of_le hpos ?_⟩
    have hle := Table.le_total
      (f := fun id x => if x.outcomes.map Location.range = b.outcomes.map Location.range then
        (r.count (.outcome id j)).toNat else 0) hb
    rwa [if_pos rfl] at hle

theorem hit_of_hitsAt {r : FileRecord} {site : Site} (h : 0 < r.hitsAt site) : r.Hit := by
  have hnone : ¬ r.Hit → r.hitsAt site = 0 := by
    intro hidle
    have hzero : ∀ c, (r.count c).toNat = 0 := by
      intro c
      rw [not_not.1 fun hne => hidle ⟨c, hne⟩]
      rfl
    cases site <;> exact sum_map_zero fun e _ => by simp [hzero]
  exact not_not.1 fun hidle => Nat.ne_of_gt h (hnone hidle)

theorem hit_of_counts {r : FileRecord} {id : Id} {counts : List UInt64}
    (hcounts : r.branchHits.get? id = some counts) (h : ∃ n ∈ counts, n ≠ 0) : r.Hit := by
  obtain ⟨n, hn, hne⟩ := h
  obtain ⟨j, hj, rfl⟩ := List.mem_iff_getElem.1 hn
  refine ⟨.outcome id j, ?_⟩
  simpa [count, hcounts, hj] using hne

end FileRecord

namespace Deposit

/-- An entry brings a hit. -/
def Hit : Deposit → Prop
  | .statement _ hits => hits ≠ 0
  | .function _ _ _ hits => hits ≠ 0
  | .branch _ _ _ hits => ∃ n ∈ hits, n ≠ 0

theorem hitsAt_pos_of_hit {d : Deposit} (hd : d.WellFormed) (h : d.Hit) :
    ∃ site, 0 < d.hitsAt site := by
  have hpos : ∀ n : UInt64, n ≠ 0 → 0 < n.toNat := fun n hn =>
    Nat.pos_of_ne_zero fun hzero => hn (UInt64.toNat_inj.1 hzero)
  cases d with
  | statement range hits => exact ⟨.statement range.range, by simpa [hitsAt] using hpos hits h⟩
  | function name decl body hits =>
    exact ⟨.function decl.range, by simpa [hitsAt] using hpos hits h⟩
  | branch kind range outcomes hits =>
    obtain ⟨n, hn, hne⟩ := h
    obtain ⟨j, hj, rfl⟩ := List.mem_iff_getElem.1 hn
    refine ⟨.outcome (outcomes.map Location.range) j, ?_⟩
    simpa [hitsAt, hj] using hpos hits[j] hne

theorem getD_addCounts_ne {old hits : List UInt64} {j : Nat}
    (h : (addCounts old hits).getD j 0 ≠ 0) :
    old.getD j 0 ≠ 0 ∨ ∃ n ∈ hits, n ≠ 0 := by
  induction old generalizing hits j with
  | nil => cases hits <;> exact absurd rfl h
  | cons m old ih =>
    cases hits with
    | nil => exact .inl h
    | cons n hits =>
      cases j with
      | zero =>
        by_cases hn : n = 0
        · left
          simpa [addCounts, hn] using h
        · exact .inr ⟨n, List.mem_cons_self, hn⟩
      | succ j =>
        rcases ih h with hold | ⟨n', hn', hne⟩
        · exact .inl hold
        · exact .inr ⟨n', List.mem_cons_of_mem n hn', hne⟩

/-- A counter of a branch that is not at zero was not at zero before, or the counts that are added
are not all zero. A branch that is new starts at zero. -/
theorem count_addBranch {r : FileRecord} {kind : BranchKind} {range : Location}
    {outcomes : List Location} {hits : List UInt64} {id : Id} {j : Nat}
    (h : (r.addBranch kind range outcomes hits).1.count (.outcome id j) ≠ 0) :
    r.count (.outcome id j) ≠ 0 ∨ ∃ n ∈ hits, n ≠ 0 := by
  simp only [FileRecord.addBranch, FileRecord.count] at h ⊢
  split at h
  · rename_i old hold
    rw [Table.get?_insert] at h
    split at h
    · rename_i hid
      rcases getD_addCounts_ne h with hne | hhits
      · split at hold
        · left
          rwa [← hid, hold]
        · rw [Table.get?_insert, if_pos rfl] at hold
          cases hold
          refine absurd ?_ hne
          rw [List.getD_eq_getElem?_getD, List.getElem?_map]
          cases outcomes[j]? <;> rfl
      · exact .inr hhits
    · rename_i hid
      left
      split at h
      · exact h
      · rwa [Table.get?_insert, if_neg hid] at h
  · rename_i hnone
    split at hnone
    · rename_i hknown
      left
      rwa [if_pos hknown] at h
    · rw [Table.get?_insert, if_pos rfl] at hnone
      cases hnone

theorem getD_alter_zero (t : Table UInt64) (id k : Id) :
    ((t.alter id fun h => h.getD 0 + 0).get? k).getD 0 = (t.get? k).getD 0 := by
  rw [Table.get?_alter]
  split
  · rename_i hid
    simp [hid]
  · rfl

theorem count_addStatement_zero (r : FileRecord) (range : Location) (c : Instrument.Counter) :
    (r.addStatement range 0).1.count c = r.count c := by
  cases c with
  | statement id => exact getD_alter_zero r.statementHits _ id
  | function id => rfl
  | outcome id j => rfl

theorem count_addFunction_zero (r : FileRecord) (name : String) (decl body : Location)
    (c : Instrument.Counter) : (r.addFunction name decl body 0).1.count c = r.count c := by
  cases c with
  | statement id => rfl
  | function id => exact getD_alter_zero r.functionHits _ id
  | outcome id j => rfl

/-- The step: a counter that is not at zero was not at zero before, or the entry has brought a
hit. -/
theorem hit_of_addTo {r : FileRecord} {d : Deposit} (h : (d.addTo r).Hit) : r.Hit ∨ d.Hit := by
  obtain ⟨c, hc⟩ := h
  cases d with
  | statement range hits =>
    by_cases hhits : hits = 0
    · subst hhits
      left
      rw [addTo, count_addStatement_zero] at hc
      exact ⟨c, hc⟩
    · exact .inr hhits
  | function name decl body hits =>
    by_cases hhits : hits = 0
    · subst hhits
      left
      rw [addTo, count_addFunction_zero] at hc
      exact ⟨c, hc⟩
    · exact .inr hhits
  | branch kind range outcomes hits =>
    cases c with
    | statement id => exact .inl ⟨.statement id, hc⟩
    | function id => exact .inl ⟨.function id, hc⟩
    | outcome id j => exact (count_addBranch hc).imp_left fun hold => ⟨.outcome id j, hold⟩

/-- The run: a counter that is not at zero was not at zero before, or some entry has brought a
hit. -/
theorem hit_of_addAllTo {r : FileRecord} {ds : List Deposit} (h : (addAllTo r ds).Hit) :
    r.Hit ∨ ∃ d ∈ ds, d.Hit := by
  induction ds generalizing r with
  | nil => exact .inl h
  | cons d ds ih =>
    rcases ih h with hadd | ⟨d', hd', hhit⟩
    · refine (hit_of_addTo hadd).imp_right ?_
      intro hhit
      exact ⟨d, List.mem_cons_self, hhit⟩
    · exact .inr ⟨d', List.mem_cons_of_mem d hd', hhit⟩

end Deposit

namespace FileRecord

/-- The entries of a record bring hits only if the record has some. -/
theorem hit_of_deposits {r : FileRecord} {d : Deposit} (hd : d ∈ r.deposits) (h : d.Hit) :
    r.Hit := by
  simp only [deposits, List.mem_append, List.mem_map, List.mem_filterMap] at hd
  rcases hd with (⟨e, -, rfl⟩ | ⟨e, -, rfl⟩) | ⟨e, -, hd⟩
  · exact ⟨.statement e.1, h⟩
  · exact ⟨.function e.1, h⟩
  · split at hd
    · rename_i range hits _ hcounts
      cases hd
      exact hit_of_counts hcounts h
    · cases hd

end FileRecord

namespace Remap

namespace Event

/-- An event brings a hit. -/
def Hit : Event → Prop
  | carried r => r.Hit
  | landed _ d => d.Hit

theorem hit_of_deposits {ev : Event} {d : Deposit} (hd : d ∈ ev.deposits) (h : d.Hit) : ev.Hit := by
  cases ev with
  | carried r => exact FileRecord.hit_of_deposits hd h
  | landed source d' =>
    rw [List.mem_singleton.1 hd] at h
    exact h

theorem hitsAt_pos_of_hit {ev : Event} (hvalid : ev.Valid) (h : ev.Hit) :
    ∃ site, 0 < ev.hitsAt (sourceKey ev.path) site := by
  cases ev with
  | carried r =>
    obtain ⟨site, hpos⟩ := FileRecord.exists_hitsAt_of_hit hvalid h
    refine ⟨site, ?_⟩
    rwa [hitsAt, path, if_pos rfl]
  | landed source d =>
    obtain ⟨site, hpos⟩ := Deposit.hitsAt_pos_of_hit hvalid h
    refine ⟨site, ?_⟩
    rwa [hitsAt, path, if_pos rfl]

/-- The step: hits of a source were there before, or the event has brought them to it. -/
theorem hit_of_apply {ev : Event} {out : Sources} {e : String × FileRecord} (he : e ∈ ev.apply out)
    (h : e.2.Hit) :
    (∃ old ∈ out, old.1 = e.1 ∧ old.2.Hit) ∨ (sourceKey ev.path = e.1 ∧ ev.Hit) := by
  rcases ev.apply_cases out with ⟨r, rfl, -, happly⟩ | ⟨happly, -⟩ <;> rw [happly] at he
  · rcases List.mem_append.1 he with he | he
    · exact .inl ⟨e, he, rfl, h⟩
    · rw [List.mem_singleton.1 he] at h ⊢
      exact .inr ⟨rfl, h⟩
  · rcases Sources.mem_updateAt he with rfl | he
    · rcases Deposit.hit_of_addAllTo h with hcurrent | ⟨d, hd, hhit⟩
      · left
        rcases Sources.current_cases (sourceKey ev.path) ev.path out with hmem | hempty
        · exact ⟨_, hmem, rfl, hcurrent⟩
        · rw [hempty] at hcurrent
          exact absurd hcurrent (FileRecord.not_hit_empty ev.path)
      · exact .inr ⟨rfl, hit_of_deposits hd hhit⟩
    · exact .inl ⟨e, he, rfl, h⟩

/-- The run: all hits of a source come from events that reach it. -/
theorem hit_of_applyAll {evs : List Event} {out : Sources} {e : String × FileRecord}
    (he : e ∈ applyAll out evs) (h : e.2.Hit) :
    (∃ old ∈ out, old.1 = e.1 ∧ old.2.Hit) ∨ ∃ ev ∈ evs, sourceKey ev.path = e.1 ∧ ev.Hit := by
  induction evs generalizing out with
  | nil => exact .inl ⟨e, he, rfl, h⟩
  | cons ev evs ih =>
    rcases ih he with ⟨mid, hmid, hname, hhit⟩ | ⟨ev', hev', hreach⟩
    · rcases hit_of_apply hmid hhit with ⟨old, hold, hname', hhit'⟩ | ⟨hname', hhit'⟩
      · exact .inl ⟨old, hold, hname'.trans hname, hhit'⟩
      · exact .inr ⟨ev, List.mem_cons_self, hname'.trans hname, hhit'⟩
    · exact .inr ⟨ev', List.mem_cons_of_mem ev hev', hreach⟩

end Event

variable {find : FileRecord → Option Consumer} {s : Snapshot}

/-- The entries of a file with a source map land one by one, and bring hits only if the record of
the file has some. -/
theorem landed_of_mem_events {f : FileRecord} {m : Consumer} (hm : find f = some m) {ev : Event}
    (hev : ev ∈ events find f) : ∃ source d, ev = .landed source d ∧ (d.Hit → f.Hit) := by
  simp only [events, hm, List.mem_append, movedStatements, movedFunctions, movedBranches,
    List.mem_filterMap] at hev
  rcases hev with (⟨e, -, he⟩ | ⟨e, -, he⟩) | ⟨e, -, he⟩
  · obtain ⟨moved, -, rfl⟩ := Option.map_eq_some_iff.1 he
    exact ⟨_, _, rfl, fun h => ⟨.statement e.1, h⟩⟩
  · split at he
    · split at he
      · cases he
        exact ⟨_, _, rfl, fun h => ⟨.function e.1, h⟩⟩
      · cases he
    · cases he
  · split at he
    · rename_i hits _ _ _ hcounts _
      cases he
      exact ⟨_, _, rfl, FileRecord.hit_of_counts hcounts⟩
    · cases he

/-- The entries of a file without a source map are carried over in one. -/
theorem carried_of_mem_events {f : FileRecord} (hnone : find f = none) {ev : Event}
    (hev : ev ∈ events find f) : ev = .carried f := by
  rw [events, hnone] at hev
  exact List.mem_singleton.1 hev

/-- A file brings hits only if its record has some. -/
theorem hit_of_events {f : FileRecord} {ev : Event} (hev : ev ∈ events find f) (h : ev.Hit) :
    f.Hit := by
  cases hm : find f with
  | some m =>
    obtain ⟨source, d, rfl, hhit⟩ := landed_of_mem_events hm hev
    exact hhit h
  | none =>
    rw [carried_of_mem_events hm hev] at h
    exact h

/-- Whether entries of a file come to the source called `name`. -/
def reaches (find : FileRecord → Option Consumer) (name : String) (f : FileRecord) : Bool :=
  (events find f).any fun ev => sourceKey ev.path = name

/-- A file brings hits to the source called `name`. -/
def BringsHits (find : FileRecord → Option Consumer) (name : String) (f : FileRecord) : Prop :=
  ∃ ev ∈ events find f, sourceKey ev.path = name ∧ ev.Hit

/-- The first event that reaches a source is the first one of the first file that does. -/
theorem exists_first_of_find? {files : List FileRecord} {name : String} {ev : Event}
    (h : (files.flatMap (events find)).find? (fun ev => sourceKey ev.path = name) = some ev) :
    ∃ f, files.find? (reaches find name) = some f ∧ ev ∈ events find f := by
  induction files with
  | nil => cases h
  | cons f files ih =>
    rw [List.flatMap_cons, List.find?_append, Option.or_eq_some_iff] at h
    rcases h with hfirst | ⟨hnone, hrest⟩
    · have hev := List.mem_of_find?_eq_some hfirst
      have hname := List.find?_some (p := fun ev : Event => sourceKey ev.path = name) hfirst
      exact ⟨f, List.find?_cons_of_pos (List.any_eq_true.2 ⟨ev, hev, hname⟩), hev⟩
    · obtain ⟨g, hg, hev⟩ := ih hrest
      refine ⟨g, ?_, hev⟩
      rw [List.find?_cons_of_neg]
      · exact hg
      · intro hreach
        obtain ⟨ev', hev', hname⟩ := List.any_eq_true.1 hreach
        exact List.find?_eq_none.1 hnone ev' hev' hname

/-- The mark of an event is that of its file, if that is carried over. -/
theorem unexecuted_of_mem_events {f : FileRecord} {ev : Event} (hev : ev ∈ events find f) :
    ev.unexecuted = true ↔ find f = none ∧ f.unexecuted = true := by
  cases hm : find f with
  | some m =>
    obtain ⟨source, d, rfl, -⟩ := landed_of_mem_events hm hev
    simp [Event.unexecuted]
  | none =>
    rw [carried_of_mem_events hm hev]
    simp [Event.unexecuted]

/-- A source is marked exactly if the first file that reaches it is marked and carried over. -/
theorem unexecuted_iff {r : FileRecord} (hr : r ∈ (onSources find s).files) :
    r.unexecuted = true ↔ ∃ first, s.files.find? (reaches find (sourceKey r.path)) = some first ∧
      find first = none ∧ first.unexecuted = true := by
  obtain ⟨out, hout, hkeyed, hfiles⟩ := exists_sources find s
  obtain ⟨e, he, rfl⟩ := List.mem_map.1 (hfiles ▸ hr)
  rcases Event.opened_applyAll (hout ▸ he) with ⟨old, hold, -⟩ | ⟨-, ev, hfind, -, hmark⟩
  · cases hold
  · rw [hkeyed.named e he] at hfind
    obtain ⟨f, hfirst, hev⟩ := exists_first_of_find? hfind
    rw [hmark, unexecuted_of_mem_events hev, hfirst]
    constructor
    · intro h
      exact ⟨f, rfl, h⟩
    · rintro ⟨g, hg, h⟩
      cases hg
      exact h

/-- All hits of a source are brought to it by files. -/
theorem exists_bringsHits {r : FileRecord} (hr : r ∈ (onSources find s).files) (h : r.Hit) :
    ∃ f ∈ s.files, BringsHits find (sourceKey r.path) f := by
  obtain ⟨out, hout, hkeyed, hfiles⟩ := exists_sources find s
  obtain ⟨e, he, rfl⟩ := List.mem_map.1 (hfiles ▸ hr)
  rcases Event.hit_of_applyAll (hout ▸ he) h with ⟨old, hold, -⟩ | ⟨ev, hev, hname, hhit⟩
  · cases hold
  · obtain ⟨f, hf, hmem⟩ := List.mem_flatMap.1 hev
    exact ⟨f, hf, ev, hmem, hname.trans (hkeyed.named e he), hhit⟩

/-- Hits that are brought to a source stay there, as long as no counter overflows and no id is
handed out twice. -/
theorem hit_of_bringsHits (hvalid : ∀ r ∈ s.files, r.validate = .ok ())
    (hroom : ∀ r ∈ (onSources find s).files, r.HasRoom)
    (hfit : ∀ name site, (s.files.map (contributed find name site)).sum < 2 ^ 64)
    {r : FileRecord} (hr : r ∈ (onSources find s).files) {f : FileRecord} (hf : f ∈ s.files)
    (h : BringsHits find (sourceKey r.path) f) : r.Hit := by
  have hsound : ∀ r ∈ s.files, r.Sound := fun r hr => .of_validate (hvalid r hr)
  obtain ⟨ev, hev, hname, hhit⟩ := h
  obtain ⟨site, hpos⟩ := Event.hitsAt_pos_of_hit (valid_events (hsound f hf) ev hev) hhit
  have hle : ev.hitsAt (sourceKey r.path) site ≤ contributed find (sourceKey r.path) site f := by
    rw [← hitsAt_events (hsound f hf)]
    exact List.le_sum_of_mem (List.mem_map.2 ⟨ev, hev, rfl⟩)
  have hle' : contributed find (sourceKey r.path) site f ≤ r.hitsAt site := by
    rw [← hitsAt_of_mem (nodup_sourceKeys find s) hr, hitsAt_onSources hsound hroom hfit]
    exact List.le_sum_of_mem (List.mem_map.2 ⟨f, hf, rfl⟩)
  have hsite : 0 < r.hitsAt site := by
    rw [hname] at hpos
    omega
  exact FileRecord.hit_of_hitsAt hsite

/-- Which sources have the mark of an unexecuted file beside hits, where the marked files of the
snapshot have none. The mark is there exactly if the first file that reaches the source is marked
and has no source map. Hits are there only if a file brings some that is not marked, and such hits
are kept as long as no counter overflows and no id is handed out twice. Nothing ties the two
together: where a marked file comes first, the hits of those behind it do not take the mark away. -/
theorem onSources_unexecuted
    (hidle : ∀ f ∈ s.files, f.unexecuted = true → ∀ c, f.count c = 0) :
    ∀ r ∈ (onSources find s).files,
      (r.unexecuted = true ↔
        ∃ first, s.files.find? (reaches find (sourceKey r.path)) = some first ∧
          find first = none ∧ first.unexecuted = true) ∧
      (r.Hit →
        ∃ f ∈ s.files, f.unexecuted = false ∧ BringsHits find (sourceKey r.path) f) ∧
      ((∀ f ∈ s.files, f.validate = .ok ()) →
        (∀ r ∈ (onSources find s).files, r.HasRoom) →
        (∀ name site, (s.files.map (contributed find name site)).sum < 2 ^ 64) →
        (∃ f ∈ s.files, BringsHits find (sourceKey r.path) f) → r.Hit) := by
  intro r hr
  refine ⟨unexecuted_iff hr, ?_, ?_⟩
  · intro hhit
    obtain ⟨f, hf, hbrings⟩ := exists_bringsHits hr hhit
    refine ⟨f, hf, ?_, hbrings⟩
    obtain ⟨ev, hev, -, hev'⟩ := hbrings
    obtain ⟨c, hc⟩ := hit_of_events hev hev'
    rw [← Bool.not_eq_true]
    intro hmark
    exact hc (hidle f hf hmark c)
  · rintro hvalid hroom hfit ⟨f, hf, hbrings⟩
    exact hit_of_bringsHits hvalid hroom hfit hr hf hbrings

/-- The record of a source that was never run. -/
def markedSource : FileRecord := { oneStatement "out/a.ts" 0 with unexecuted := true }

theorem count_markedSource (c : Instrument.Counter) : markedSource.count c = 0 := by
  cases c with
  | statement id =>
    show (((Table.empty.insert 0 0 : Table UInt64).get? id).getD 0) = 0
    rw [Table.get?_insert]
    split <;> rfl
  | function id => rfl
  | outcome id j => rfl

/-- A source that was never run, in front of a file that was made from it and was run. -/
def markedSourceFirst : Snapshot where
  files := [markedSource, oneStatement "out/a.js" 2]
  distinct := by decide

theorem contributed_markedSourceFirst (name : String) (site : Site) :
    (markedSourceFirst.files.map (contributed mapOfFirst name site)).sum ≤ 2 := by
  have hfirst : contributed mapOfFirst name site markedSource = 0 := by
    have hmap : mapOfFirst markedSource = none := if_neg (by decide)
    rw [contributed, hmap]
    dsimp only
    split
    · refine Nat.eq_zero_of_not_pos fun hpos => ?_
      obtain ⟨c, hc⟩ := FileRecord.hit_of_hitsAt hpos
      exact hc (count_markedSource c)
    · rfl
  have hsecond := contributed_made name site
  simp only [markedSourceFirst, List.map_cons, List.map_nil, List.sum_cons, List.sum_nil]
  omega

/-- The hits of the file that was made come to a record with the mark, and the next merge with a
record of the source discards them. -/
theorem onSources_unexecuted_markedSourceFirst :
    (∀ f ∈ markedSourceFirst.files, f.unexecuted = true → ∀ c, f.count c = 0) ∧
    (∀ f ∈ markedSourceFirst.files, f.validate = .ok ()) ∧
    ∀ r ∈ (onSources mapOfFirst markedSourceFirst).files, r.unexecuted = true ∧ r.Hit ∧
      (oneStatement "out/a.ts" 1).merge r = .ok (oneStatement "out/a.ts" 1) := by
  have hidle : ∀ f ∈ markedSourceFirst.files, f.unexecuted = true → ∀ c, f.count c = 0 := by
    intro f hf hmark
    simp only [markedSourceFirst, List.mem_cons, List.not_mem_nil, or_false] at hf
    rcases hf with rfl | rfl
    · exact count_markedSource
    · cases hmark
  have hvalid : ∀ f ∈ markedSourceFirst.files, f.validate = .ok () := by
    intro f hf
    simp only [markedSourceFirst, List.mem_cons, List.not_mem_nil, or_false] at hf
    rcases hf with rfl | rfl <;> rfl
  have hkeys : ∀ r ∈ (onSources mapOfFirst markedSourceFirst).files, r.path = "out/a.ts" ∧
      r.statements.keys = [0] ∧ r.functions.keys = [] ∧ r.branches.keys = [] := by decide
  have hroom : ∀ r ∈ (onSources mapOfFirst markedSourceFirst).files, r.HasRoom := by
    intro r hr
    obtain ⟨-, hs, hf, hb⟩ := hkeys r hr
    constructor <;> rw [Table.HasRoom] <;> simp [hs, hf, hb]
  have hbrings : BringsHits mapOfFirst (sourceKey "out/a.ts") (oneStatement "out/a.js" 2) := by
    have hevents : events mapOfFirst (oneStatement "out/a.js" 2) =
        [.landed "out/a.ts" (.statement (.between ⟨1, 0⟩ ⟨1, 5⟩) 2)] := rfl
    refine ⟨.landed "out/a.ts" (.statement (.between ⟨1, 0⟩ ⟨1, 5⟩) 2), ?_, rfl, ?_⟩
    · rw [hevents]
      exact List.mem_singleton_self _
    · show (2 : UInt64) ≠ 0
      decide
  refine ⟨hidle, hvalid, fun r hr => ?_⟩
  obtain ⟨hmark, -, hhit⟩ := onSources_unexecuted hidle r hr
  have hpath := (hkeys r hr).1
  have hmarked : r.unexecuted = true := by
    apply hmark.2
    rw [hpath]
    exact ⟨markedSource, by decide, by decide, rfl⟩
  refine ⟨hmarked, ?_, ?_⟩
  · apply hhit hvalid hroom
    · intro name site
      exact Nat.lt_of_le_of_lt (contributed_markedSourceFirst name site) (by decide)
    · rw [hpath]
      exact ⟨oneStatement "out/a.js" 2, by decide, hbrings⟩
  · have hsame : (oneStatement "out/a.ts" 1).path = r.path := hpath.symm
    simp only [FileRecord.merge, hsame, hmarked, ne_eq, not_true_eq_false, if_false, if_true]
    rfl

end Remap

end Coverage
