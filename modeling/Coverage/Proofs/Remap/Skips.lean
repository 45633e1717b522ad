import Coverage.Proofs.Remap.Entries
import Coverage.Proofs.Remap.Range
import Mathlib.Data.List.Basic

/-!
# Entries stay skipped on their way to the sources

Whether an entry is skipped is written with its range, and for a function also with the function
itself, which is what its tally goes by. Ranges keep the mark when they are moved, and records that
are carried over as they are keep both. But a function that is moved, or added to a record that is
there already, takes the mark of its body (`FileRecord.addedSkip`). `Contributes` lists what goes
into an entry of a moved snapshot, and the main result is `onSources_skips`: each entry has the mark
of something that went into it, so that an entry with one contributor has the mark that this one
brings.
-/

namespace Coverage

open Instrument (Counter)
open SourceMap (Consumer)

namespace FileRecord

/-- Whether the entry of a counter is skipped once it has been added to another record: functions go
by their bodies. -/
def addedSkip (r : FileRecord) : Counter → Bool
  | .statement id => r.skips (.statement id)
  | .function id => (r.functions.get? id).any (·.body.skip)
  | .outcome id j => r.skips (.outcome id j)

end FileRecord

namespace Remap

/-- The source that an entry of a file with the source map `m` comes from, and its site there. -/
def movedSite? (m : Consumer) (f : FileRecord) : Counter → Option (String × Site)
  | .statement id => do
    let moved ← sourceRange? m f.path (← f.statements.get? id)
    return (moved.source, .statement moved.range.range)
  | .function id => do
    let e ← f.functions.get? id
    let decl ← sourceRange? m f.path e.decl
    let body ← sourceRange? m f.path e.body
    if decl.source = body.source then some (decl.source, .function decl.range.range) else none
  | .outcome id j => do
    let (source, _, outcomes) ← movedOutcomes? m f.path (← f.branches.get? id)
    if j < outcomes.length then some (source, .outcome (outcomes.map Location.range) j) else none

/-- Where an entry of a file is to go: to the place that it is moved to, or to the same site of the
file itself if that has no source map. -/
def target? (find : FileRecord → Option Consumer) (f : FileRecord) (c : Counter) :
    Option (String × Site) :=
  match find f with
  | some m => movedSite? m f c
  | none => (f.site? c).map fun site => (f.path, site)

/-- Something that goes into the entry of a counter of a collected record: an entry of a file, with
the mark that it brings. The file that is carried over first keeps its entries. All other entries
are added to the last one at their site. -/
inductive Contributes (find : FileRecord → Option Consumer) (s : Snapshot) (r : FileRecord)
    (c : Counter) : FileRecord → Counter → Bool → Prop
  | carried {before behind : List FileRecord} {f : FileRecord}
      (hfiles : s.files = before ++ f :: behind) (hfind : find f = none)
      (hname : sourceKey f.path = sourceKey r.path)
      (hfirst : ∀ g ∈ before, reaches find (sourceKey r.path) g = false)
      (hsite : f.site? c = r.site? c) : Contributes find s r c f c (f.skips c)
  | added {before behind : List FileRecord} {f : FileRecord} {c' : Counter} {source : String}
      {site : Site} (hfiles : s.files = before ++ f :: behind)
      (hlater : find f ≠ none ∨ ∃ g ∈ before, reaches find (sourceKey r.path) g = true)
      (htarget : target? find f c' = some (source, site))
      (hname : sourceKey source = sourceKey r.path) (hlast : r.lastAt site = some c) :
      Contributes find s r c f c' (f.addedSkip c')

variable {find : FileRecord → Option Consumer} {s : Snapshot} {m : Consumer} {r f : FileRecord}
  {c c' : Counter} {source : String} {site : Site} {skip : Bool} {d : Deposit}

/-! ### What the entries of a file bring -/

theorem skip_sourceRange? {file : String} {range : Location} {moved : SourceRange}
    (h : sourceRange? m file range = some moved) : moved.range.skip = range.skip := by
  obtain ⟨-, -, -, hskip⟩ := source_sourceRange? h
  exact hskip

theorem getElem?_of_mapM {α β : Type} {g : α → Option β} {l : List α} {l' : List β} {j : Nat} {b : β}
    (h : l.mapM g = some l') (hb : l'[j]? = some b) : ∃ a, l[j]? = some a ∧ g a = some b := by
  induction l generalizing l' j with
  | nil =>
    cases h
    cases hb
  | cons a l ih =>
    rw [List.mapM_cons] at h
    obtain ⟨b', hb', h⟩ := Option.bind_eq_some_iff.1 h
    obtain ⟨rest, hrest, h⟩ := Option.bind_eq_some_iff.1 h
    cases h
    cases j with
    | zero =>
      cases hb
      exact ⟨a, rfl, hb'⟩
    | succ j => exact ih hrest hb

/-- An entry that lands brings the mark of one that was moved there. -/
theorem exists_of_landed (hfind : find f = some m) {ev : Event} (hev : ev ∈ events find f)
    (hd : d ∈ ev.deposits) (hbrings : d.Brings site skip) :
    ∃ c', target? find f c' = some (ev.path, site) ∧ f.addedSkip c' = skip := by
  simp only [events, hfind, List.mem_append, movedStatements, movedFunctions, movedBranches,
    List.mem_filterMap] at hev
  simp only [target?, hfind]
  rcases hev with (⟨⟨id, l⟩, he, hev⟩ | ⟨⟨id, e⟩, he, hev⟩) | ⟨⟨id, b⟩, he, hev⟩
  · have hget := Table.get?_eq_some_iff.2 he
    obtain ⟨moved, hmoved, rfl⟩ := Option.map_eq_some_iff.1 hev
    cases List.mem_singleton.1 hd
    obtain ⟨rfl, rfl⟩ := hbrings
    refine ⟨.statement id, ?_, ?_⟩
    · simp only [movedSite?, hget, Option.bind_eq_bind, Option.bind_some, hmoved]
      rfl
    · rw [FileRecord.addedSkip, FileRecord.skips, hget, skip_sourceRange? hmoved]
      rfl
  · have hget := Table.get?_eq_some_iff.2 he
    split at hev
    · next decl body hdecl hbody =>
      split at hev
      · next hsame =>
        cases hev
        cases List.mem_singleton.1 hd
        obtain ⟨rfl, rfl⟩ := hbrings
        refine ⟨.function id, ?_, ?_⟩
        · simp [movedSite?, hget, hdecl, hbody, hsame, Event.path]
        · rw [FileRecord.addedSkip, hget, skip_sourceRange? hbody]
          rfl
      · cases hev
    · cases hev
  · have hget := Table.get?_eq_some_iff.2 he
    split at hev
    · next hits source first outcomes hcounts hmoved =>
      cases hev
      cases List.mem_singleton.1 hd
      obtain ⟨j, l, hl, rfl, rfl⟩ := hbrings
      have hlt : j < outcomes.length := (List.getElem?_eq_some_iff.1 hl).1
      refine ⟨.outcome id j, ?_, ?_⟩
      · simp [movedSite?, hget, hmoved, hlt, Event.path]
      · rw [movedOutcomes?_eq] at hmoved
        split at hmoved
        · next first rest hmapM =>
          split at hmoved
          · cases hmoved
            rw [List.getElem?_map] at hl
            obtain ⟨moved, hj, rfl⟩ := Option.map_eq_some_iff.1 hl
            obtain ⟨a, ha, hmoved⟩ := getElem?_of_mapM hmapM hj
            rw [FileRecord.addedSkip, FileRecord.skips, hget, Option.bind_some, ha,
              skip_sourceRange? hmoved]
            rfl
          · cases hmoved
        · cases hmoved
    · cases hev

/-- An entry of a record that is added to another one brings the mark of one of its entries. -/
theorem exists_of_deposits (hd : d ∈ f.deposits) (hbrings : d.Brings site skip) :
    ∃ c', f.site? c' = some site ∧ f.addedSkip c' = skip := by
  simp only [FileRecord.deposits, List.mem_append, List.mem_map, List.mem_filterMap] at hd
  rcases hd with (⟨⟨id, l⟩, he, rfl⟩ | ⟨⟨id, e⟩, he, rfl⟩) | ⟨⟨id, b⟩, he, hd⟩
  · have hget := Table.get?_eq_some_iff.2 he
    obtain ⟨rfl, rfl⟩ := hbrings
    refine ⟨.statement id, FileRecord.site?_statement.2 ⟨l, hget, rfl⟩, ?_⟩
    rw [FileRecord.addedSkip, FileRecord.skips, hget]
    rfl
  · have hget := Table.get?_eq_some_iff.2 he
    obtain ⟨rfl, rfl⟩ := hbrings
    refine ⟨.function id, FileRecord.site?_function.2 ⟨e, hget, rfl⟩, ?_⟩
    rw [FileRecord.addedSkip, hget]
    rfl
  · have hget := Table.get?_eq_some_iff.2 he
    split at hd
    · cases hd
      obtain ⟨j, l, hl, rfl, rfl⟩ := hbrings
      refine ⟨.outcome id j, FileRecord.site?_outcome.2 ⟨b, l, hget, hl, rfl⟩, ?_⟩
      rw [FileRecord.addedSkip, FileRecord.skips, hget, Option.bind_some, hl]
      rfl
    · cases hd

/-! ### From events to files -/

/-- An event of a list of files is an event of one of them, and the events before it are those of
the files before this one and some of its own. -/
theorem exists_split_of_flatMap {files : List FileRecord} {before behind : List Event} {ev : Event}
    (h : files.flatMap (events find) = before ++ ev :: behind) :
    ∃ earlier f later own rest, files = earlier ++ f :: later ∧
      events find f = own ++ ev :: rest ∧ before = earlier.flatMap (events find) ++ own := by
  induction files generalizing before with
  | nil => simp at h
  | cons f files ih =>
    rw [List.flatMap_cons, List.append_eq_append_iff] at h
    have hlater : ∀ more, before = events find f ++ more →
        files.flatMap (events find) = more ++ ev :: behind →
        ∃ earlier g later own rest, f :: files = earlier ++ g :: later ∧
          events find g = own ++ ev :: rest ∧ before = earlier.flatMap (events find) ++ own := by
      rintro more rfl hmore
      obtain ⟨earlier, g, later, own, rest, rfl, hg, rfl⟩ := ih hmore
      exact ⟨f :: earlier, g, later, own, rest, rfl, hg, by simp⟩
    rcases h with ⟨more, hbefore, hmore⟩ | ⟨more, hown, hmore⟩
    · exact hlater more hbefore hmore
    · cases more with
      | nil => exact hlater [] (by simpa using hown.symm) (by simpa using hmore.symm)
      | cons ev' more =>
        obtain ⟨rfl, -⟩ := List.cons.inj hmore
        exact ⟨[], f, files, before, more, rfl, hown, rfl⟩

theorem reaches_eq_true_iff {name : String} : reaches find name f = true ↔
    ∃ ev ∈ events find f, sourceKey ev.path = name := by
  simp [reaches]

/-- The events of a file that is carried over are one. -/
theorem own_of_carried (hfind : find f = none) {own rest : List Event} {ev : Event}
    (h : events find f = own ++ ev :: rest) : own = [] ∧ ev = .carried f := by
  rw [events, hfind] at h
  cases own with
  | nil => exact ⟨rfl, (List.cons.inj h).1.symm⟩
  | cons _ own => simp at h

theorem contributes_of_startsWith {f : FileRecord}
    (h : Event.StartsWith (s.files.flatMap (events find)) (sourceKey r.path) f)
    (hsite : f.site? c = r.site? c) : Contributes find s r c f c (f.skips c) := by
  obtain ⟨before, behind, hsplit, hname, hfirst⟩ := h
  obtain ⟨earlier, g, later, own, rest, hfiles, hown, rfl⟩ := exists_split_of_flatMap hsplit
  have hcarried : .carried f ∈ events find g := by simp [hown]
  cases hfind : find g with
  | some m =>
    obtain ⟨source, d, heq, -⟩ := landed_of_mem_events hfind hcarried
    cases heq
  | none =>
    cases carried_of_mem_events hfind hcarried
    refine .carried hfiles hfind hname (fun g hg => ?_) hsite
    rw [Bool.eq_false_iff, Ne, reaches_eq_true_iff]
    rintro ⟨ev, hev, hname⟩
    exact hfirst ev (List.mem_append_left _ (List.mem_flatMap.2 ⟨g, hg, hev⟩)) hname

theorem contributes_of_adds (h : Event.Adds (s.files.flatMap (events find)) (sourceKey r.path) d)
    (hbrings : d.Brings site skip) (hlast : r.lastAt site = some c) :
    ∃ f c', Contributes find s r c f c' skip := by
  obtain ⟨before, ev, behind, hsplit, hname, hd, hway⟩ := h
  obtain ⟨earlier, f, later, own, rest, hfiles, hown, rfl⟩ := exists_split_of_flatMap hsplit
  cases hfind : find f with
  | some m =>
    obtain ⟨c', htarget, rfl⟩ := exists_of_landed hfind (by simp [hown]) hd hbrings
    exact ⟨f, c', .added hfiles (.inl (by simp [hfind])) htarget hname hlast⟩
  | none =>
    obtain ⟨rfl, rfl⟩ := own_of_carried hfind hown
    obtain ⟨c', hsite, rfl⟩ := exists_of_deposits hd hbrings
    have htarget : target? find f c' = some (f.path, site) := by
      rw [target?, hfind]
      simp [hsite]
    refine ⟨f, c', .added hfiles (.inr ?_) htarget hname hlast⟩
    rcases hway with ⟨source, heq⟩ | ⟨ev', hev', hname'⟩
    · cases heq
    · rw [List.append_nil] at hev'
      obtain ⟨g, hg, hev'⟩ := List.mem_flatMap.1 hev'
      exact ⟨g, hg, reaches_eq_true_iff.2 ⟨ev', hev', hname'⟩⟩

/-- Something goes into every entry, and the entry has its mark. -/
theorem exists_contributes (hr : r ∈ (onSources find s).files) (hsite : r.site? c = some site) :
    ∃ f c', Contributes find s r c f c' (r.skips c) := by
  obtain ⟨out, rfl, hkeyed, hfiles⟩ := exists_sources find s
  rw [hfiles] at hr
  obtain ⟨e, he, rfl⟩ := List.mem_map.1 hr
  have htraced := Event.traced_applyAll _ e he
  rw [hkeyed.named e he] at htraced
  rcases htraced c site hsite with ⟨f, hf, hfsite, hskips⟩ | ⟨hlast, d, hd, hbrings⟩
  · rw [hskips]
    exact ⟨f, c, contributes_of_startsWith hf (hfsite.trans hsite.symm)⟩
  · exact contributes_of_adds hd hbrings hlast

/-- What an entry of a file brings is determined. -/
theorem Contributes.unique {skip' : Bool} (h : Contributes find s r c f c' skip)
    (h' : Contributes find s r c f c' skip') : skip = skip' := by
  have hsplit : ∀ before behind before' behind', s.files = before ++ f :: behind →
      s.files = before' ++ f :: behind' → before = before' := by
    intro before behind before' behind' hs hs'
    have hnodup := List.Nodup.of_map _ s.distinct
    rw [hs] at hnodup
    have hnot := List.nodup_middle.1 hnodup
    rw [List.nodup_cons, List.mem_append, not_or] at hnot
    exact ((List.append_cons_inj_of_notMem hnot.1.1 hnot.1.2).1 (hs.symm.trans hs')).1
  cases h with
  | carried hfiles hfind hname hfirst hsite =>
    cases h' with
    | carried => rfl
    | added hfiles' hlater htarget hname' hlast =>
      obtain rfl := hsplit _ _ _ _ hfiles hfiles'
      rcases hlater with hfind' | ⟨g, hg, hreach⟩
      · exact absurd hfind hfind'
      · rw [hfirst g hg] at hreach
        cases hreach
  | added hfiles hlater htarget hname hlast =>
    cases h' with
    | added => rfl
    | carried hfiles' hfind hname' hfirst hsite =>
      obtain rfl := hsplit _ _ _ _ hfiles hfiles'
      rcases hlater with hfind' | ⟨g, hg, hreach⟩
      · exact absurd hfind hfind'
      · rw [hfirst g hg] at hreach
        cases hreach

theorem Contributes.eq_skips (h : Contributes find s r c f c' skip)
    (hfunction : ∀ id, c' ≠ .function id) : skip = f.skips c' := by
  cases h with
  | carried => rfl
  | added =>
    cases c' with
    | statement id => rfl
    | function id => exact absurd rfl (hfunction id)
    | outcome id j => rfl

/-- Each entry of a moved snapshot is counted as skipped or not as something that went into it says,
and so as the only thing that did where nothing else did. Statements and outcomes keep their mark.
A function keeps it if its record is carried over first; otherwise it takes that of its body. -/
theorem onSources_skips (hvalid : ∀ f ∈ s.files, f.validate = .ok ())
    (hr : r ∈ (onSources find s).files) :
    (r.summary.statements = Tally.ofHits (r.statements.keys.map fun id =>
        (r.count (.statement id), r.skips (.statement id))) ∧
      r.summary.functions = Tally.ofHits (r.functions.keys.map fun id =>
        (r.count (.function id), r.skips (.function id))) ∧
      r.summary.branches = Tally.ofHits (r.branches.keys.flatMap fun id =>
        (List.range (r.outcomeCount id)).map fun j =>
          (r.count (.outcome id j), r.skips (.outcome id j)))) ∧
    ∀ c, r.site? c ≠ none →
      (∃ f c', Contributes find s r c f c' (r.skips c)) ∧
      ∀ f c' skip, Contributes find s r c f c' skip →
        (∀ g c'' skip', Contributes find s r c g c'' skip' → g = f ∧ c'' = c') →
        r.skips c = skip ∧ ((∀ id, c' ≠ .function id) → r.skips c = f.skips c') := by
  refine ⟨FileRecord.summary_eq ((onSources_collected hvalid).1 r hr).1, fun c hc => ?_⟩
  obtain ⟨site, hsite⟩ := Option.ne_none_iff_exists'.1 hc
  obtain ⟨g, c'', hcontributes⟩ := exists_contributes hr hsite
  refine ⟨⟨g, c'', hcontributes⟩, fun f c' skip h honly => ?_⟩
  obtain ⟨rfl, rfl⟩ := honly g c'' _ hcontributes
  exact ⟨hcontributes.unique h, hcontributes.eq_skips⟩

/-- The record of a file with a skipped statement and a skipped function, whose body is not
marked. -/
def skippedFunction : FileRecord :=
  { FileRecord.empty "out/a.js" with
    statements := Table.empty.insert 0 (Location.between ⟨1, 0⟩ ⟨1, 5⟩).skipped
    functions := Table.empty.insert 0
      ⟨"f", .between ⟨1, 0⟩ ⟨1, 5⟩, .between ⟨1, 0⟩ ⟨1, 5⟩, some 1, true⟩
    statementHits := Table.empty.insert 0 0
    functionHits := Table.empty.insert 0 0 }

/-- The record of its source. -/
def skippedFunctionSource : FileRecord :=
  { FileRecord.empty "out/a.ts" with
    statements := Table.empty.insert 0 (Location.between ⟨1, 0⟩ ⟨1, 5⟩).skipped
    functions := Table.empty.insert 0
      ⟨"f", .between ⟨1, 0⟩ ⟨1, 5⟩, .between ⟨1, 0⟩ ⟨1, 5⟩, some 1, false⟩
    statementHits := Table.empty.insert 0 0
    functionHits := Table.empty.insert 0 0 }

/-- The snapshot of that file. -/
def skippedFunctionOnly : Snapshot := ⟨[skippedFunction], List.pairwise_singleton _ _⟩

theorem files_skippedFunctionOnly :
    (onSources mapOfFirst skippedFunctionOnly).files = [skippedFunctionSource] := by
  decide

/-- The only thing that goes into an entry of the source is the entry of the file with its id. -/
theorem eq_of_contributes_skippedFunction (hc : c = .statement 0 ∨ c = .function 0)
    (h : Contributes mapOfFirst skippedFunctionOnly skippedFunctionSource c f c' skip) :
    f = skippedFunction ∧ c' = c := by
  have hfile : ∀ before behind, skippedFunctionOnly.files = before ++ f :: behind →
      f = skippedFunction := by
    intro before behind hsplit
    have hmem : f ∈ skippedFunctionOnly.files := hsplit ▸ by simp
    exact List.mem_singleton.1 hmem
  cases h with
  | carried hfiles => exact ⟨hfile _ _ hfiles, rfl⟩
  | added hfiles hlater htarget hname hlast =>
    obtain rfl := hfile _ _ hfiles
    refine ⟨rfl, ?_⟩
    have hfind : mapOfFirst skippedFunction = some unmoved := if_pos rfl
    rw [target?, hfind] at htarget
    cases c' with
    | statement id =>
      obtain ⟨l, hl, htarget⟩ := Option.bind_eq_some_iff.1 htarget
      obtain ⟨moved, -, htarget⟩ := Option.bind_eq_some_iff.1 htarget
      cases htarget
      obtain rfl : id = 0 :=
        congrArg Prod.fst (List.mem_singleton.1 (Table.get?_eq_some_iff.1 hl))
      rcases hc with rfl | rfl
      · rfl
      · simp [FileRecord.lastAt] at hlast
    | function id =>
      obtain ⟨e, he, htarget⟩ := Option.bind_eq_some_iff.1 htarget
      obtain ⟨decl, -, htarget⟩ := Option.bind_eq_some_iff.1 htarget
      obtain ⟨body, -, htarget⟩ := Option.bind_eq_some_iff.1 htarget
      split at htarget
      · cases htarget
        obtain rfl : id = 0 :=
          congrArg Prod.fst (List.mem_singleton.1 (Table.get?_eq_some_iff.1 he))
        rcases hc with rfl | rfl
        · simp [FileRecord.lastAt] at hlast
        · rfl
      · cases htarget
    | outcome id j => cases htarget

/-- The statement stays skipped. The function does not, and is counted as one that was not run. -/
theorem onSources_skips_skippedFunction :
    (∀ f ∈ skippedFunctionOnly.files, f.validate = .ok ()) ∧
    skippedFunctionSource ∈ (onSources mapOfFirst skippedFunctionOnly).files ∧
    skippedFunctionSource.skips (.statement 0) = skippedFunction.skips (.statement 0) ∧
    skippedFunction.skips (.function 0) = true ∧
    skippedFunctionSource.skips (.function 0) = false ∧
    skippedFunctionSource.summary.functions = ⟨1, 0, 0⟩ := by
  have hvalid : ∀ f ∈ skippedFunctionOnly.files, f.validate = .ok () := by
    intro f hf
    rw [List.mem_singleton.1 hf]
    rfl
  have hmem : skippedFunctionSource ∈ (onSources mapOfFirst skippedFunctionOnly).files := by
    rw [files_skippedFunctionOnly]
    exact List.mem_singleton.2 rfl
  obtain ⟨⟨-, hfunctions, -⟩, hentries⟩ := onSources_skips hvalid hmem
  have hfiles : skippedFunctionOnly.files = [] ++ skippedFunction :: [] := rfl
  have hstatement : Contributes mapOfFirst skippedFunctionOnly skippedFunctionSource (.statement 0)
      skippedFunction (.statement 0) true :=
    .added hfiles (.inl (by decide)) rfl rfl rfl
  have hfunction : Contributes mapOfFirst skippedFunctionOnly skippedFunctionSource (.function 0)
      skippedFunction (.function 0) false :=
    .added hfiles (.inl (by decide)) rfl rfl rfl
  have hkept := (hentries _ (by decide)).2 _ _ _ hstatement fun _ _ _ =>
    eq_of_contributes_skippedFunction (.inl rfl)
  have hlost := (hentries _ (by decide)).2 _ _ _ hfunction fun _ _ _ =>
    eq_of_contributes_skippedFunction (.inr rfl)
  refine ⟨hvalid, hmem, hkept.2 nofun, rfl, hlost.1, ?_⟩
  rw [hfunctions]
  rfl

end Remap

end Coverage
