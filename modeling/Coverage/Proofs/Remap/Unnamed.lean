import Coverage.Proofs.Remap.Arrival
import Coverage.Proofs.Remap.Range

/-!
# Sources without a name

A source map can leave the names of its sources out. Such a source is not told apart from one with
the empty name (`Index.ofMap_filled`): its name is the root of the map (`Document.unnamed`), and as
the root goes into the resolution of paths it stands for a directory. So positions that come from
such a source are moved like any other (`nearestPlace?_ofMap`), and a file that is named after that
directory collects what lands there (`onSources_unnamed`).
-/

namespace Coverage

namespace SourceMap

namespace Document

/-- The name of a source, as look-ups give it. -/
def sourceName (d : Document) (i : Nat) : String :=
  joinRoot d.sourceRoot ((d.sources[i]?.getD none).getD "")

/-- The name of the sources that the map leaves without one. -/
def unnamed (d : Document) : String := joinRoot d.sourceRoot ""

/-- The map with empty names where it leaves them out. -/
def filled (d : Document) : Document :=
  { d with sources := d.sources.map fun s => some (s.getD "") }

theorem sourceName_of_unnamed {d : Document} {i : Nat} (h : d.sources[i]? = some none) :
    d.sourceName i = d.unnamed := by
  rw [sourceName, h]
  rfl

end Document

/-- A map with a root gives the root, with one slash behind it, to the sources without a name. -/
theorem joinRoot_empty (root : Option String) :
    joinRoot root "" =
      match root with
      | none => ""
      | some root =>
        if root.isEmpty then ""
        else String.ofList (root.toList.reverse.dropWhile (· = '/')).reverse ++ "/" := by
  cases root with
  | none => rfl
  | some root =>
    have hbelow : isBelowRoot "" = true := by decide
    simp only [joinRoot, hbelow, Bool.not_true, Bool.or_false, String.append_empty]

/-- Next to a generated file the empty name means the directory of the file. -/
theorem resolve_empty (file : String) : FilePath.resolve "" file = FilePath.resolve "." file := by
  have hempty : FilePath.split (FilePath.dropScheme "".toList) = [[]] := by decide
  have hdot : FilePath.split (FilePath.dropScheme ".".toList) = [['.']] := by decide
  have habsolute : FilePath.isAbsolute (FilePath.dropScheme "".toList) = false ∧
      FilePath.isAbsolute (FilePath.dropScheme ".".toList) = false := by decide
  have hstep : ∀ absolute walked, FilePath.step absolute walked (String.ofList []) = walked ∧
      FilePath.step absolute walked (String.ofList ['.']) = walked := by
    intro absolute walked
    constructor <;> exact if_pos (by decide)
  simp only [FilePath.resolve, hempty, hdot, habsolute, Bool.false_eq_true, if_false,
    List.map_append, List.map_cons, List.map_nil, List.foldl_append, List.foldl_cons,
    List.foldl_nil, hstep]

/-- The place of the segment that answers for a position: the nearest one on its line that is not
behind it, or else the nearest one behind it. -/
def selectedPlace? (segments : List Segment) (p : Position) : Option SourcePlace :=
  ((nearestOnLine .down p segments).bind (·.place)).or
    ((nearestOnLine .up p segments).bind (·.place))

namespace Index

theorem ofMap_filled (d : Document) : ofMap d.filled = ofMap d := by
  have hsources : d.filled.sources.map (fun s => joinRoot d.filled.sourceRoot (s.getD "")) =
      d.sources.map fun s => joinRoot d.sourceRoot (s.getD "") := List.map_map
  rw [ofMap, ofMap, hsources]
  rfl

theorem place?_ofMap {d : Document} {m : Index} (h : ofMap d = .ok m) {p : Position}
    (hp : p.isValid = true) {segments : List Segment}
    (hsegments : readMappings d.sources.length d.mappings = .ok segments) (bias : Bias) :
    m.place? p bias = ((nearestOnLine bias p segments).bind (·.place)).map fun place =>
      (d.sourceName place.source, place.position) := by
  obtain ⟨segments', hsegments', hsources, hin, hplace, -⟩ := ofMap_lookups h hp bias
  obtain rfl : segments = segments' := Except.ok.inj (hsegments.symm.trans hsegments')
  rw [hplace]
  cases hnearest : nearestOnLine bias p segments with
  | none => rfl
  | some s =>
    cases hs : s.place with
    | none => simp [hs]
    | some place =>
      have hmem : s ∈ segments :=
        (List.mem_filter.1 (List.mem_of_find?_eq_some hnearest)).1
      have hlt : place.source < d.sources.length := by
        have := hin s hmem place hs
        rwa [hsources, List.length_map] at this
      simp [hs, hsources, Document.sourceName, List.getElem?_eq_getElem hlt]

end Index

end SourceMap

namespace Remap

open SourceMap (Consumer Document Index readMappings selectedPlace?)

/-- A position comes from the place of the segment that answers for it, in a source that is called
as the map says. -/
theorem nearestPlace?_ofMap {d : Document} {m : Index} (h : Index.ofMap d = .ok m) {p : Position}
    (hp : p.isValid = true) {segments : List SourceMap.Segment}
    (hsegments : readMappings d.sources.length d.mappings = .ok segments) :
    nearestPlace? m p = (selectedPlace? segments p).map fun place =>
      (d.sourceName place.source, place.position) := by
  have hplace := Index.place?_ofMap h hp hsegments
  show (m.place? p .down).or (m.place? p .up) = _
  rw [hplace .down, hplace .up, selectedPlace?, Option.map_or]

/-- A range whose ends both exist goes to a range of a source if both of its ends are found in one
source, whatever that is called. -/
theorem exists_sourceRange?_iff {m : Consumer} {file source : String} {range : Location}
    {start : Position} (hvalid : range.start.isValid = true ∧ range.stop.isValid = true)
    (hstart : nearestPlace? m range.start = some (source, start)) :
    (∃ moved, sourceRange? m file range = some moved) ↔
      ∃ stop, placeEnd? m range.stop = some (source, stop) := by
  constructor
  · rintro ⟨moved, hmoved⟩
    obtain ⟨-, -, source', stop, hstart', hstop, -⟩ := sourceRange?_cases hmoved
    rw [hstart] at hstart'
    cases hstart'
    exact ⟨stop, hstop⟩
  · rintro ⟨stop, hstop⟩
    simp [sourceRange?, hvalid, hstart, hstop]

/-- Every source that something lands in has a record in the end. -/
theorem exists_record_of_event {find : FileRecord → Option Consumer} {s : Snapshot} {ev : Event}
    (hev : ev ∈ s.files.flatMap (events find)) :
    ∃ r ∈ (onSources find s).files, sourceKey r.path = sourceKey ev.path := by
  obtain ⟨out, hout, hkeyed, hfiles⟩ := exists_sources find s
  have hkeys : sourceKey ev.path ∈ out.map (·.1) := by
    rw [hout, Event.keys_applyAll]
    simpa using ⟨ev, List.mem_flatMap.1 hev, rfl⟩
  obtain ⟨e, he, hkey⟩ := List.mem_map.1 hkeys
  refine ⟨e.2, hfiles ▸ List.mem_map_of_mem he, ?_⟩
  rw [← hkeyed.named e he, hkey]

/-- A source without a name is a source like any other. It has the name that the root of the map
gives to the empty name. Positions go there, and so do ranges if both of their ends are found there,
under the path that this name has next to the generated file. A statement that is moved there gets a
record of that path. -/
theorem onSources_unnamed {d : Document} {m : Index} {find : FileRecord → Option Consumer}
    {s : Snapshot} {f : FileRecord} (h : Index.ofMap d = .ok m) (hf : f ∈ s.files)
    (hfind : find f = some m.consumer) :
    Index.ofMap d.filled = .ok m ∧
    ∃ segments, readMappings d.sources.length d.mappings = .ok segments ∧
      (∀ p place, p.isValid = true → selectedPlace? segments p = some place →
        d.sources[place.source]? = some none →
        nearestPlace? m p = some (d.unnamed, place.position)) ∧
      (∀ range start, range.start.isValid = true ∧ range.stop.isValid = true →
        nearestPlace? m range.start = some (d.unnamed, start) →
        ((∃ moved, sourceRange? m f.path range = some moved) ↔
          ∃ stop, placeEnd? m range.stop = some (d.unnamed, stop)) ∧
        ∀ moved, sourceRange? m f.path range = some moved →
          moved.source = FilePath.resolve d.unnamed f.path ∧ moved.range.start = start) ∧
      ∀ id l moved, f.statements.get? id = some l → sourceRange? m f.path l = some moved →
        ∃ r ∈ (onSources find s).files, sourceKey r.path = sourceKey moved.source := by
  have hread := h
  rw [Index.ofMap] at hread
  split at hread
  · cases hread
  obtain ⟨segments, hsegments, -⟩ := Json.exists_of_bind_eq_ok hread
  rw [List.length_map] at hsegments
  refine ⟨(Index.ofMap_filled d).trans h, segments, hsegments, ?_, ?_, ?_⟩
  · intro p place hp hplace hnone
    rw [nearestPlace?_ofMap h hp hsegments, hplace, Option.map_some,
      Document.sourceName_of_unnamed hnone]
  · intro range start hvalid hstart
    refine ⟨exists_sourceRange?_iff hvalid hstart, fun moved hmoved => ?_⟩
    obtain ⟨source, hsource, hresolve, -⟩ := source_sourceRange? hmoved
    rw [hstart] at hsource
    cases hsource
    exact ⟨hresolve, rfl⟩
  · intro id l moved hl hmoved
    have hlanded : .landed moved.source (.statement moved.range (f.count (.statement id))) ∈
        movedStatements m.consumer f :=
      List.mem_filterMap.2 ⟨(id, l), Table.get?_eq_some_iff.1 hl, by rw [hmoved]; rfl⟩
    have hevent : .landed moved.source (.statement moved.range (f.count (.statement id))) ∈
        events find f := by
      rw [events, hfind]
      exact List.mem_append_left _ (List.mem_append_left _ hlanded)
    have hrecord := exists_record_of_event (List.mem_flatMap.2 ⟨f, hf, hevent⟩)
    exact hrecord

/-- A map without the name of its only source. -/
def withoutName : Document := ⟨3, none, [none], "AAAA,IAAI"⟩

/-- The record of a file that was made from that source. -/
def madeWithoutName : FileRecord :=
  { FileRecord.empty "/out/a.js" with
    statements := Table.empty.insert 0 (.between ⟨1, 0⟩ ⟨1, 4⟩)
    statementHits := Table.empty.insert 0 1 }

/-- The statement of the file goes to the directory of the file. -/
theorem onSources_unnamed_withoutName :
    ∃ m : Index, Index.ofMap withoutName = .ok m ∧ withoutName.unnamed = "" ∧
      nearestPlace? m ⟨1, 0⟩ = some ("", ⟨1, 0⟩) ∧
      ∃ moved, sourceRange? m "/out/a.js" (.between ⟨1, 0⟩ ⟨1, 4⟩) = some moved ∧
        moved.source = "/out" ∧
        ∃ r ∈ (onSources (fun _ => some m.consumer)
            ⟨[madeWithoutName], List.pairwise_singleton _ _⟩).files,
          sourceKey r.path = "/out" := by
  let m := Index.ofSegments [""]
    [⟨⟨1, 0⟩, some ⟨0, ⟨1, 0⟩⟩⟩, ⟨⟨1, 4⟩, some ⟨0, ⟨1, 4⟩⟩⟩]
  have hmap : Index.ofMap withoutName = .ok m := rfl
  have hlast : m.place? ⟨1, 3⟩ .down = some ("", ⟨1, 0⟩) := by
    rw [Index.place?_ofSegments rfl]
    decide
  have hnext : m.generated? "" ⟨1, 1⟩ .up = some ⟨1, 4⟩ := by
    rw [Index.generated?_ofSegments rfl]
    decide
  have hbehind : m.place? ⟨1, 4⟩ .down = some ("", ⟨1, 4⟩) := by
    rw [Index.place?_ofSegments rfl]
    decide
  have hend : placeEnd? m ⟨1, 4⟩ = some ("", ⟨1, 4⟩) := by
    have hbefore : columnBefore 4 = 3 := by decide
    have hafter : columnAfter 0 = 1 := by decide
    simp [placeEnd?, nearestPlace?, Index.consumer, hbefore, hafter, hlast, hnext, hbehind]
  let find : FileRecord → Option Consumer := fun _ => some m.consumer
  have hfind : find madeWithoutName = some m.consumer := rfl
  obtain ⟨-, segments, hsegments, hplaces, hranges, hrecords⟩ :=
    onSources_unnamed (s := ⟨[madeWithoutName], List.pairwise_singleton _ _⟩) hmap
      (List.mem_singleton.2 rfl) hfind
  cases hsegments
  have hstart : nearestPlace? m ⟨1, 0⟩ = some ("", ⟨1, 0⟩) :=
    hplaces ⟨1, 0⟩ ⟨0, ⟨1, 0⟩⟩ rfl (by decide) rfl
  obtain ⟨hexists, hmoved⟩ := hranges (.between ⟨1, 0⟩ ⟨1, 4⟩) _ ⟨rfl, rfl⟩ hstart
  obtain ⟨moved, hrange⟩ := hexists.2 ⟨_, hend⟩
  have hsource : moved.source = "/out" := by
    rw [(hmoved moved hrange).1]
    decide
  obtain ⟨r, hr, hkey⟩ := hrecords 0 _ moved rfl hrange
  refine ⟨m, hmap, by decide, hstart, moved, hrange, hsource, r, hr, ?_⟩
  rw [hkey, hsource]
  decide

end Remap

end Coverage
