import Coverage.Proofs.FileRecord.Views
import Coverage.Proofs.Remap.Unexecuted
import Mathlib.Data.List.Induction

/-!
# Where the entries of a collected record come from

An entry of a record is known by its site (`FileRecord.site?`). An entry that is added either finds
the last one at its site, which then stays as it is, or it opens a new one. So every entry of a
collected record stood in the record of the file that opened it, or was opened by one of the entries
that were added later, and this one is the only one at its site (`addTo_cases`, `addAllTo_cases`).
The same goes for whole runs of events (`Event.traced_applyAll`).

What is followed here is whether an entry is skipped (`FileRecord.skips`), which is what the tallies
of a record go by (`FileRecord.summary_eq`).
-/

namespace Coverage

namespace Table

variable {α κ : Type} {t : Table α} {p : α → Bool} {k : Id}

theorem lastWhere?_eq_none_iff :
    t.lastWhere? p = none ↔ ∀ id a, t.get? id = some a → p a = false := by
  rw [lastWhere?, Option.map_eq_none_iff, List.find?_eq_none]
  simp only [List.mem_reverse, Bool.not_eq_true, Prod.forall, get?_eq_some_iff]

/-- The last entry with a property is the one with the greatest id. -/
theorem lastWhere?_eq_some_iff : t.lastWhere? p = some k ↔
    (∃ a, t.get? k = some a ∧ p a = true) ∧ ∀ id a, t.get? id = some a → p a = true → id ≤ k := by
  have hgreatest : ∀ k, t.lastWhere? p = some k →
      ∀ id a, t.get? id = some a → p a = true → id ≤ k := by
    intro k h id a ha hp
    obtain ⟨⟨k, b⟩, hfind, rfl⟩ := Option.map_eq_some_iff.1 h
    obtain ⟨-, behind, before, hsplit, hbehind⟩ := List.find?_eq_some_iff_append.1 hfind
    have hentries : t.entries = before.reverse ++ (k, b) :: behind.reverse := by
      rw [← List.reverse_reverse t.entries, hsplit]
      simp
    have hmem := get?_eq_some_iff.1 ha
    have hsorted := t.sorted
    rw [hentries] at hmem hsorted
    rcases List.mem_append.1 hmem with hmem | hmem
    · exact UInt32.le_of_lt ((List.pairwise_append.1 hsorted).2.2 _ hmem _ List.mem_cons_self)
    · rcases List.mem_cons.1 hmem with heq | hmem
      · cases heq
        exact UInt32.le_refl _
      · have hnot := hbehind _ (List.mem_reverse.1 hmem)
        simp [hp] at hnot
  constructor
  · intro h
    exact ⟨lastWhere?_eq_some h, hgreatest k h⟩
  · rintro ⟨⟨a, ha, hp⟩, hle⟩
    cases h : t.lastWhere? p with
    | none =>
      rw [lastWhere?_eq_none_iff.1 h k a ha] at hp
      cases hp
    | some j =>
      obtain ⟨b, hb, hpb⟩ := lastWhere?_eq_some h
      rw [UInt32.le_antisymm (hle j b hb hpb) (hgreatest j h k a ha hp)]

/-- An entry of a table with a slot for a key was there before, or it is the new one. If it was the
last one with its key before, it still is, and the new one is the last one with its own. -/
theorem withSlot_cases [DecidableEq κ] (key : α → κ) {a x : α}
    (h : (t.withSlot (fun y => key y = key a) a).get? k = some x) :
    (t.get? k = some x ∧ (t.lastWhere? (fun y => key y = key x) = some k →
      (t.withSlot (fun y => key y = key a) a).lastWhere? (fun y => key y = key x) = some k)) ∨
    (x = a ∧
      (t.withSlot (fun y => key y = key a) a).lastWhere? (fun y => key y = key a) = some k) := by
  cases hlast : t.lastWhere? fun y => key y = key a with
  | some j =>
    rw [withSlot_of_some hlast] at h ⊢
    exact .inl ⟨h, id⟩
  | none =>
    have hother : ∀ id b, t.get? id = some b → key b ≠ key a := by
      intro id b hb
      simpa using lastWhere?_eq_none_iff.1 hlast id b hb
    rw [withSlot_of_none hlast] at h ⊢
    rw [get?_insert] at h
    split at h
    · next hk =>
      right
      cases h
      refine ⟨rfl, lastWhere?_eq_some_iff.2 ⟨⟨a, by simp [get?_insert, hk], by simp⟩, ?_⟩⟩
      intro id b hb hkey
      rw [get?_insert] at hb
      split at hb
      · next hid => exact hid ▸ hk ▸ UInt32.le_refl _
      · exact absurd (of_decide_eq_true hkey) (hother id b hb)
    · next hk =>
      left
      refine ⟨h, fun hold => lastWhere?_eq_some_iff.2
        ⟨⟨x, by simp [get?_insert, hk, h], by simp⟩, ?_⟩⟩
      intro id b hb hkey
      rw [get?_insert] at hb
      split at hb
      · -- The new entry has a key of its own.
        cases hb
        exact absurd (of_decide_eq_true hkey).symm (hother k x h)
      · exact (lastWhere?_eq_some_iff.1 hold).2 id b hb hkey

end Table

/-! ### The entries of a record -/

namespace FileRecord

open Instrument (Counter)

/-- What the entry of a counter is known by. -/
def site? (r : FileRecord) : Counter → Option Site
  | .statement id => (r.statements.get? id).map fun l => .statement l.range
  | .function id => (r.functions.get? id).map fun f => .function f.decl.range
  | .outcome id j => (r.branches.get? id).bind fun b =>
    if j < b.outcomes.length then some (.outcome (b.outcomes.map Location.range) j) else none

/-- The counter of the last entry at a site. -/
def lastAt (r : FileRecord) : Site → Option Counter
  | .statement key => (r.statements.lastWhere? fun l => l.range = key).map .statement
  | .function key => (r.functions.lastWhere? fun f => f.decl.range = key).map .function
  | .outcome key j =>
    (r.branches.lastWhere? fun b => b.outcomes.map Location.range = key).map (.outcome · j)

/-- The entry of a counter stays at its site, skipped or not as before. -/
structure Keeps (old r : FileRecord) (c : Counter) (site : Site) : Prop where
  before : old.site? c = some site
  mark : r.skips c = old.skips c
  last : old.lastAt site = some c → r.lastAt site = some c

theorem Keeps.trans {r₁ r₂ r₃ : FileRecord} {c : Counter} {site : Site} (h : Keeps r₁ r₂ c site)
    (h' : Keeps r₂ r₃ c site) : Keeps r₁ r₃ c site :=
  ⟨h.before, h'.mark.trans h.mark, h'.last ∘ h.last⟩

end FileRecord

namespace Deposit

variable {r : FileRecord} {d : Deposit} {c : Instrument.Counter} {site : Site}

/-- An entry brings a site, and whether it is skipped there. A function is skipped if its body is
marked. -/
def Brings (site : Site) (skip : Bool) : Deposit → Prop
  | .statement range _ => site = .statement range.range ∧ skip = range.skip
  | .function _ decl body _ => site = .function decl.range ∧ skip = body.skip
  | .branch _ _ outcomes _ => ∃ j l, outcomes[j]? = some l ∧
    site = .outcome (outcomes.map Location.range) j ∧ skip = l.skip

end Deposit

namespace FileRecord

variable {r : FileRecord} {site : Site} {id : Id} {j : Nat}

theorem site?_statement : r.site? (.statement id) = some site ↔
    ∃ l, r.statements.get? id = some l ∧ .statement l.range = site :=
  Option.map_eq_some_iff

theorem site?_function : r.site? (.function id) = some site ↔
    ∃ f, r.functions.get? id = some f ∧ .function f.decl.range = site :=
  Option.map_eq_some_iff

theorem site?_outcome : r.site? (.outcome id j) = some site ↔
    ∃ b l, r.branches.get? id = some b ∧ b.outcomes[j]? = some l ∧
      .outcome (b.outcomes.map Location.range) j = site := by
  rw [site?, Option.bind_eq_some_iff]
  refine exists_congr fun b => ?_
  by_cases hj : j < b.outcomes.length <;> simp [hj]

theorem lastAt_statement {key : Position × Position} :
    r.lastAt (.statement key) = some (.statement id) ↔
      r.statements.lastWhere? (fun l => l.range = key) = some id := by
  simp [lastAt]

theorem lastAt_function {key : Position × Position} :
    r.lastAt (.function key) = some (.function id) ↔
      r.functions.lastWhere? (fun f => f.decl.range = key) = some id := by
  simp [lastAt]

theorem lastAt_outcome {key : List (Position × Position)} :
    r.lastAt (.outcome key j) = some (.outcome id j) ↔
      r.branches.lastWhere? (fun b => b.outcomes.map Location.range = key) = some id := by
  simp [lastAt]

end FileRecord

namespace Deposit

variable {r : FileRecord} {d : Deposit} {c : Instrument.Counter} {site : Site}

open FileRecord (Keeps site?_statement site?_function site?_outcome lastAt_statement
  lastAt_function lastAt_outcome)

theorem addStatement_cases {range : Location} {hits : UInt64} {id : Id}
    (h : (r.addStatement range hits).1.site? (.statement id) = some site) :
    Keeps r (r.addStatement range hits).1 (.statement id) site ∨
      (r.addStatement range hits).1.lastAt site = some (.statement id) ∧
        site = .statement range.range ∧
        (r.addStatement range hits).1.skips (.statement id) = range.skip := by
  obtain ⟨x, hx, rfl⟩ := site?_statement.1 h
  rcases Table.withSlot_cases Location.range hx with ⟨hold, hlast⟩ | ⟨rfl, hlast⟩
  · left
    refine ⟨site?_statement.2 ⟨x, hold, rfl⟩, ?_, ?_⟩
    · rw [FileRecord.skips, FileRecord.skips, hx, hold]
    · exact fun h => lastAt_statement.2 (hlast (lastAt_statement.1 h))
  · right
    refine ⟨lastAt_statement.2 hlast, rfl, ?_⟩
    rw [FileRecord.skips, hx]
    rfl

theorem addFunction_cases {name : String} {decl body : Location} {hits : UInt64} {id : Id}
    (h : (r.addFunction name decl body hits).1.site? (.function id) = some site) :
    Keeps r (r.addFunction name decl body hits).1 (.function id) site ∨
      (r.addFunction name decl body hits).1.lastAt site = some (.function id) ∧
        site = .function decl.range ∧
        (r.addFunction name decl body hits).1.skips (.function id) = body.skip := by
  obtain ⟨x, hx, rfl⟩ := site?_function.1 h
  rcases Table.withSlot_cases (t := r.functions)
    (a := ⟨name, decl, body, some body.start.line, body.skip⟩) (fun f => f.decl.range) hx with
    ⟨hold, hlast⟩ | ⟨rfl, hlast⟩
  · left
    refine ⟨site?_function.2 ⟨x, hold, rfl⟩, ?_, ?_⟩
    · rw [FileRecord.skips, FileRecord.skips, hx, hold]
    · exact fun h => lastAt_function.2 (hlast (lastAt_function.1 h))
  · right
    refine ⟨lastAt_function.2 hlast, rfl, ?_⟩
    rw [FileRecord.skips, hx]
    rfl

theorem addBranch_cases {kind : BranchKind} {range : Location} {outcomes : List Location}
    {hits : List UInt64} {id : Id} {j : Nat}
    (h : (r.addBranch kind range outcomes hits).1.site? (.outcome id j) = some site) :
    Keeps r (r.addBranch kind range outcomes hits).1 (.outcome id j) site ∨
      (r.addBranch kind range outcomes hits).1.lastAt site = some (.outcome id j) ∧
        ∃ l, outcomes[j]? = some l ∧ site = .outcome (outcomes.map Location.range) j ∧
          (r.addBranch kind range outcomes hits).1.skips (.outcome id j) = l.skip := by
  obtain ⟨x, l, hx, hl, rfl⟩ := site?_outcome.1 h
  rcases Table.withSlot_cases (t := r.branches)
    (a := ⟨some range, kind, outcomes, some range.start.line⟩)
    (fun b => b.outcomes.map Location.range) hx with
    ⟨hold, hlast⟩ | ⟨rfl, hlast⟩
  · left
    refine ⟨site?_outcome.2 ⟨x, l, hold, hl, rfl⟩, ?_, ?_⟩
    · rw [FileRecord.skips, FileRecord.skips, hx, hold]
    · exact fun h => lastAt_outcome.2 (hlast (lastAt_outcome.1 h))
  · right
    refine ⟨lastAt_outcome.2 hlast, l, hl, rfl, ?_⟩
    rw [FileRecord.skips, hx, Option.bind_some, hl]
    rfl

/-- The step: an entry stays as it is, or it is the one that has been added. -/
theorem addTo_cases (h : (d.addTo r).site? c = some site) :
    Keeps r (d.addTo r) c site ∨
      (d.addTo r).lastAt site = some c ∧ d.Brings site ((d.addTo r).skips c) := by
  -- An entry of another kind than the one that is added stands in a table that stays as it is.
  cases d with
  | statement range hits =>
    cases c with
    | statement id => exact addStatement_cases h
    | function id =>
      obtain ⟨x, -, rfl⟩ := site?_function.1 h
      exact .inl ⟨h, rfl, fun hlast => hlast⟩
    | outcome id j =>
      obtain ⟨x, l, -, -, rfl⟩ := site?_outcome.1 h
      exact .inl ⟨h, rfl, fun hlast => hlast⟩
  | function name decl body hits =>
    cases c with
    | statement id =>
      obtain ⟨x, -, rfl⟩ := site?_statement.1 h
      exact .inl ⟨h, rfl, fun hlast => hlast⟩
    | function id => exact addFunction_cases h
    | outcome id j =>
      obtain ⟨x, l, -, -, rfl⟩ := site?_outcome.1 h
      exact .inl ⟨h, rfl, fun hlast => hlast⟩
  | branch kind range outcomes hits =>
    cases c with
    | statement id =>
      obtain ⟨x, -, rfl⟩ := site?_statement.1 h
      exact .inl ⟨h, rfl, fun hlast => hlast⟩
    | function id =>
      obtain ⟨x, -, rfl⟩ := site?_function.1 h
      exact .inl ⟨h, rfl, fun hlast => hlast⟩
    | outcome id j => exact (addBranch_cases h).imp_right fun ⟨hlast, l, hl⟩ => ⟨hlast, j, l, hl⟩

/-- The run: an entry stays as it is, or one of those that have been added is the one. -/
theorem addAllTo_cases {ds : List Deposit} (h : (addAllTo r ds).site? c = some site) :
    Keeps r (addAllTo r ds) c site ∨ (addAllTo r ds).lastAt site = some c ∧
      ∃ d ∈ ds, d.Brings site ((addAllTo r ds).skips c) := by
  induction ds generalizing r with
  | nil => exact .inl ⟨h, rfl, id⟩
  | cons d ds ih =>
    rcases ih h with hkeeps | ⟨hlast, d', hd', hbrings⟩
    · rcases addTo_cases hkeeps.before with hstep | ⟨hlast, hbrings⟩
      · exact .inl (hstep.trans hkeeps)
      · refine .inr ⟨hkeeps.last hlast, d, List.mem_cons_self, ?_⟩
        rw [← hkeeps.mark] at hbrings
        exact hbrings
    · exact .inr ⟨hlast, d', List.mem_cons_of_mem _ hd', hbrings⟩

end Deposit

/-! ### Runs of events -/

namespace Remap

namespace Event

variable {evs : List Event} {name : String} {r f : FileRecord} {d : Deposit}

/-- The first of some events to reach a source carries the record of a file over. -/
def StartsWith (evs : List Event) (name : String) (f : FileRecord) : Prop :=
  ∃ before behind, evs = before ++ .carried f :: behind ∧ sourceKey f.path = name ∧
    ∀ ev ∈ before, sourceKey ev.path ≠ name

/-- One of some events adds an entry to the record of a source: it lands there, or there is a record
already that the one it stands in is added to. -/
def Adds (evs : List Event) (name : String) (d : Deposit) : Prop :=
  ∃ before ev behind, evs = before ++ ev :: behind ∧ sourceKey ev.path = name ∧
    d ∈ ev.deposits ∧
    ((∃ source, ev = .landed source d) ∨ ∃ ev' ∈ before, sourceKey ev'.path = name)

/-- Every entry of the record of a source comes from the record that was carried over first, or it is
the last one at its site and has been added. -/
def Traced (evs : List Event) (name : String) (r : FileRecord) : Prop :=
  ∀ c site, r.site? c = some site →
    (∃ f, StartsWith evs name f ∧ f.site? c = some site ∧ r.skips c = f.skips c) ∨
    r.lastAt site = some c ∧ ∃ d, Adds evs name d ∧ d.Brings site (r.skips c)

theorem StartsWith.append (h : StartsWith evs name f) (more : List Event) :
    StartsWith (evs ++ more) name f := by
  obtain ⟨before, behind, rfl, hname, hfirst⟩ := h
  exact ⟨before, behind ++ more, by simp, hname, hfirst⟩

theorem Adds.append (h : Adds evs name d) (more : List Event) : Adds (evs ++ more) name d := by
  obtain ⟨before, ev, behind, rfl, hname, hd, hway⟩ := h
  exact ⟨before, ev, behind ++ more, by simp, hname, hd, hway⟩

theorem Traced.append (h : Traced evs name r) (more : List Event) :
    Traced (evs ++ more) name r := by
  intro c site hc
  rcases h c site hc with ⟨f, hf, hsite, hskips⟩ | ⟨hlast, d, hd, hbrings⟩
  · exact .inl ⟨f, hf.append more, hsite, hskips⟩
  · exact .inr ⟨hlast, d, hd.append more, hbrings⟩

theorem applyAll_concat (out : Sources) (evs : List Event) (ev : Event) :
    applyAll out (evs ++ [ev]) = ev.apply (applyAll out evs) := List.foldl_concat ..

theorem mem_keys_applyAll : name ∈ (applyAll [] evs).map (·.1) ↔
    ∃ ev ∈ evs, sourceKey ev.path = name := by
  rw [keys_applyAll]
  simp

/-- The entries that an event adds to a record are traced to it. -/
theorem traced_addAllTo {ev : Event} (hr : Traced evs (sourceKey ev.path) r)
    (hway : (∃ ev' ∈ evs, sourceKey ev'.path = sourceKey ev.path) ∨
      ∃ source d, ev = .landed source d) :
    Traced (evs ++ [ev]) (sourceKey ev.path) (Deposit.addAllTo r ev.deposits) := by
  intro c site hc
  rcases Deposit.addAllTo_cases hc with hkeeps | ⟨hlast, d, hd, hbrings⟩
  · rcases hr.append [ev] c site hkeeps.before with ⟨f, hf, hsite, hskips⟩ | ⟨hlast, d, hd, hbrings⟩
    · exact .inl ⟨f, hf, hsite, hkeeps.mark.trans hskips⟩
    · refine .inr ⟨hkeeps.last hlast, d, hd, ?_⟩
      rw [hkeeps.mark]
      exact hbrings
  · refine .inr ⟨hlast, d, ⟨evs, ev, [], rfl, rfl, hd, ?_⟩, hbrings⟩
    rcases hway with hway | ⟨source, d', rfl⟩
    · exact .inr hway
    · rw [List.mem_singleton.1 hd]
      exact .inl ⟨source, rfl⟩

theorem traced_empty (evs : List Event) (name path : String) : Traced evs name (.empty path) := by
  intro c site hc
  cases c <;> cases hc

/-- The entries of all collected records are traced to the events of the run. -/
theorem traced_applyAll (evs : List Event) : ∀ e ∈ applyAll [] evs, Traced evs e.1 e.2 := by
  induction evs using List.reverseRecOn with
  | nil => exact nofun
  | append_singleton evs ev ih =>
    intro e he
    rw [applyAll_concat] at he
    rcases ev.apply_cases (applyAll [] evs) with ⟨r, rfl, hnew, happly⟩ | ⟨happly, hway⟩
    · rw [happly] at he
      rcases List.mem_append.1 he with he | he
      · exact (ih e he).append _
      · obtain rfl := List.mem_singleton.1 he
        intro c site hc
        refine .inl ⟨r, ⟨evs, [], rfl, rfl, fun ev hev hname => ?_⟩, hc, rfl⟩
        exact hnew (mem_keys_applyAll.2 ⟨ev, hev, hname⟩)
    · rw [happly] at he
      rcases Sources.mem_updateAt he with rfl | he
      · refine traced_addAllTo ?_ (hway.imp_left mem_keys_applyAll.1)
        rcases Sources.current_cases (sourceKey ev.path) ev.path (applyAll [] evs) with hmem | hempty
        · exact ih _ hmem
        · rw [hempty]
          exact traced_empty evs _ _
      · exact (ih e he).append _

end Event

end Remap

end Coverage
