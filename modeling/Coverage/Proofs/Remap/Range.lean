import Coverage.Proofs.SourceMap.Index
import Coverage.Remap.Range

/-!
# What ranges of a source look like

A range of the generated file goes to a range of a source in several look-ups there and back. The
main results say what is certain of the outcome: both ends are positions that exist, unless the end
of an empty range is taken from the start of a line (`isValid_sourceRange?`), and in a map that runs
forward the start is not behind the end, unless the last character of the range comes from the
greatest column there is (`start_le_stop_sourceRange?`).
-/

namespace Coverage.Remap

open SourceMap (Bias Consumer Document Index IsNearest)

/-! ### The columns beside a column -/

theorem toInt_sub_one {c : Int64} (h : 0 ≤ c.toInt) : (c - 1).toInt = c.toInt - 1 := by
  have hmax := c.toInt_lt
  rw [Int64.toInt_sub]
  exact Int.bmod_eq_of_le (by simp; omega) (by simp; omega)

theorem toInt_columnAfter {c : Int64} (h : c ≠ unboundedColumn) :
    (columnAfter c).toInt = c.toInt + 1 := by
  have hmin := c.le_toInt
  have hmax := c.toInt_lt
  have hne : c.toInt ≠ 2 ^ 63 - 1 := fun heq => h (Int64.toInt_inj.1 heq)
  rw [columnAfter, if_neg h, Int64.toInt_add]
  exact Int.bmod_eq_of_le (by simp; omega) (by simp; omega)

theorem columnBefore_of_nonneg {c : Int64} (h : 0 ≤ c.toInt) : columnBefore c = c - 1 := by
  refine if_neg fun heq => ?_
  have hneg : c.toInt = -2 ^ 63 := congrArg Int64.toInt heq
  omega

/-- Nothing on a line lies behind its end. -/
theorem le_lineEnd (p : Position) : p.le ⟨p.line, unboundedColumn⟩ = true := by
  rw [Position.le_iff]
  exact .inr ⟨rfl, p.column.toInt_le⟩

/-- Behind a position that is not the end of its line there is another one. -/
theorem not_columnAfter_le {p : Position} (h : p.column ≠ unboundedColumn) :
    Position.le ⟨p.line, columnAfter p.column⟩ p ≠ true := by
  rw [Ne, Position.le_iff, toInt_columnAfter h]
  dsimp only
  omega

/-! ### What a range is made of -/

section Consumer

variable {m : Consumer} {source file : String} {start stop p q : Position} {range : Location}
  {r : SourceRange}

theorem nearestPlace?_cases (h : nearestPlace? m p = some (source, q)) :
    m.place? p .down = some (source, q) ∨
      m.place? p .down = none ∧ m.place? p .up = some (source, q) := by
  rwa [nearestPlace?, Option.or_eq_some_iff] at h

/-- The end of a range is the end of the line of its last character, or a place on that line where
another segment starts. -/
theorem placeEnd?_cases (h : placeEnd? m stop = some (source, q)) :
    ∃ source' last, nearestPlace? m ⟨stop.line, columnBefore stop.column⟩ = some (source', last) ∧
      (source = source' ∧ q = ⟨last.line, unboundedColumn⟩ ∨
        ∃ next, m.generated? source' ⟨last.line, columnAfter last.column⟩ .up = some next ∧
          m.place? next .down = some (source, q) ∧ q.line = last.line) := by
  rw [placeEnd?] at h
  obtain ⟨⟨source', last⟩, hlast, h⟩ := Option.bind_eq_some_iff.1 h
  refine ⟨source', last, hlast, ?_⟩
  dsimp only at h
  split at h
  · cases h
    exact .inl ⟨rfl, rfl⟩
  · next next hnext =>
    split at h
    · next s p hplace =>
      split at h
      · next hline =>
        cases h
        exact .inr ⟨next, hnext, hplace, hline⟩
      · cases h
        exact .inl ⟨rfl, rfl⟩
    · cases h
      exact .inl ⟨rfl, rfl⟩

theorem widenedEnd?_eq_some_iff :
    widenedEnd? m source start stop = some p ↔
      ∃ q, m.place? stop .up = some (source, q) ∧ p = ⟨q.line, q.column - 1⟩ ∧
        start.le p = true := by
  simp only [widenedEnd?, Option.bind_eq_bind, Option.bind_eq_some_iff, Prod.exists,
    Option.ite_none_right_eq_some, Option.some.injEq]
  constructor
  · rintro ⟨s, q, hplace, ⟨rfl, hle⟩, rfl⟩
    exact ⟨q, hplace, rfl, hle⟩
  · rintro ⟨q, hplace, rfl, hle⟩
    exact ⟨source, q, hplace, ⟨rfl, hle⟩, rfl⟩

theorem sourceRange?_cases (h : sourceRange? m file range = some r) :
    range.start.isValid = true ∧ range.stop.isValid = true ∧
      ∃ source stop, nearestPlace? m range.start = some (source, r.range.start) ∧
        placeEnd? m range.stop = some (source, stop) ∧
        r.range.stop =
          if r.range.start = stop then
            (widenedEnd? m source r.range.start range.stop).getD stop
          else stop := by
  rw [sourceRange?] at h
  split at h
  · cases h
  · next hvalid =>
    obtain ⟨⟨source, start⟩, hstart, h⟩ := Option.bind_eq_some_iff.1 h
    obtain ⟨⟨endSource, stop⟩, hstop, h⟩ := Option.bind_eq_some_iff.1 h
    dsimp only at h
    split at h
    · cases h
    · next hsource =>
      cases h
      cases not_ne_iff.1 hsource
      have hvalid : range.start.isValid = true ∧ range.stop.isValid = true := by
        simpa using hvalid
      exact ⟨hvalid.1, hvalid.2, source, stop, hstart, hstop, rfl⟩

/-- A range goes to the source that its start comes from, and keeps its mark. -/
theorem source_sourceRange? (h : sourceRange? m file range = some r) :
    ∃ source, nearestPlace? m range.start = some (source, r.range.start) ∧
      r.source = FilePath.resolve source file ∧ r.range.skip = range.skip := by
  rw [sourceRange?] at h
  split at h
  · cases h
  · obtain ⟨⟨source, start⟩, hstart, h⟩ := Option.bind_eq_some_iff.1 h
    obtain ⟨⟨endSource, stop⟩, -, h⟩ := Option.bind_eq_some_iff.1 h
    dsimp only at h
    split at h
    · cases h
    · cases h
      exact ⟨source, hstart, rfl, rfl⟩

end Consumer

/-! ### Both ends exist -/

section Index

variable {m : Index} {source file : String} {start stop p p' q q' : Position} {range : Location}
  {r : SourceRange}

theorem isValid_nearestPlace? (hm : m.WellFormed) (h : nearestPlace? m p = some (source, q)) :
    q.isValid = true := by
  rcases nearestPlace?_cases h with h | ⟨-, h⟩
  · exact Index.isValid_of_place? hm h
  · exact Index.isValid_of_place? hm h

theorem isValid_placeEnd? (hm : m.WellFormed) (h : placeEnd? m stop = some (source, q)) :
    q.isValid = true := by
  obtain ⟨source', last, hlast, ⟨rfl, rfl⟩ | ⟨next, -, hplace, -⟩⟩ := placeEnd?_cases h
  · have hvalid := (Position.isValid_iff last).1 (isValid_nearestPlace? hm hlast)
    have hend : 0 ≤ unboundedColumn.toInt := by decide
    exact (Position.isValid_iff _).2 ⟨hvalid.1, hend⟩
  · exact Index.isValid_of_place? hm hplace

/-- One column short of a position that is not before the start there is a position, unless that is
the start of a line. -/
theorem isValid_columnBefore_iff (hstart : start.isValid = true) (hq : q.isValid = true)
    (hle : start.le ⟨q.line, q.column - 1⟩ = true) :
    (Position.isValid ⟨q.line, q.column - 1⟩) = true ↔ ¬ (q.column = 0 ∧ start.line < q.line) := by
  rw [Position.isValid_iff] at hstart hq
  rw [Position.le_iff, toInt_sub_one hq.2] at hle
  rw [Position.isValid_iff, toInt_sub_one hq.2, UInt32.lt_iff_toNat_lt, ← Int64.toInt_inj,
    Int64.toInt_zero]
  dsimp only at hle ⊢
  omega

/-- The start of a range in a source exists, and so does its end unless the range came out empty and
its end is taken from the start of a line behind it. -/
theorem isValid_sourceRange? {d : Document} (h : Index.ofMap d = .ok m)
    (hr : sourceRange? m file range = some r) :
    ∃ source, nearestPlace? m range.start = some (source, r.range.start) ∧
      r.range.start.isValid = true ∧
      (r.range.stop.isValid = true ↔
        ¬ (placeEnd? m range.stop = some (source, r.range.start) ∧
          ∃ line, m.place? range.stop .up = some (source, ⟨line, 0⟩) ∧
            r.range.start.line < line)) := by
  have hm := Index.wellFormed_of_ofMap h
  obtain ⟨-, -, source, stop, hstart, hstop, hend⟩ := sourceRange?_cases hr
  have hvalid := isValid_nearestPlace? hm hstart
  refine ⟨source, hstart, hvalid, ?_⟩
  by_cases hempty : r.range.start = stop
  · rw [if_pos hempty] at hend
    rw [← hempty] at hstop hend
    cases hwidened : widenedEnd? m source r.range.start range.stop with
    | none =>
      rw [hwidened, Option.getD_none] at hend
      rw [hend]
      refine iff_of_true hvalid ?_
      -- One column short of a later line is behind the start, so that the end would be widened.
      rintro ⟨-, line, hplace, hline⟩
      have hle : r.range.start.le ⟨line, 0 - 1⟩ = true :=
        (Position.le_iff ..).2 (.inl (UInt32.lt_iff_toNat_lt.1 hline))
      rw [widenedEnd?_eq_some_iff.2 ⟨_, hplace, rfl, hle⟩] at hwidened
      cases hwidened
    | some p =>
      obtain ⟨q, hplace, rfl, hle⟩ := widenedEnd?_eq_some_iff.1 hwidened
      have hplace : m.place? range.stop .up = some (source, q) := hplace
      rw [hwidened, Option.getD_some] at hend
      rw [hend, isValid_columnBefore_iff hvalid (Index.isValid_of_place? hm hplace) hle, hplace]
      refine not_congr ⟨fun ⟨hcolumn, hline⟩ => ⟨hstop, q.line, ?_, hline⟩, ?_⟩
      · rw [← hcolumn]
      · rintro ⟨-, line, hq, hline⟩
        cases hq
        exact ⟨rfl, hline⟩
  · rw [if_neg hempty] at hend
    rw [hend, hstop]
    simp [isValid_placeEnd? hm hstop, Ne.symm hempty]

/-- Two segments at one place, the second of them where the source goes on, and a third one that
comes from the start of the next line. -/
def twoAtOnePlace : Document := ⟨3, none, [some "a.ts"], "AAAA,AAAK,IACL"⟩

/-- The end of the range `1:0-1:4` is one column short of the start of a line. -/
theorem isValid_sourceRange?_twoAtOnePlace :
    ∃ m r, Index.ofMap twoAtOnePlace = .ok m ∧
      sourceRange? m "/out/a.js" (.between ⟨1, 0⟩ ⟨1, 4⟩) = some r ∧
      r.range = .between ⟨1, 0⟩ ⟨2, -1⟩ ∧ r.range.start.isValid = true ∧
      r.range.stop.isValid = false := by
  let m := Index.ofSegments ["a.ts"]
    [⟨⟨1, 0⟩, some ⟨0, ⟨1, 0⟩⟩⟩, ⟨⟨1, 0⟩, some ⟨0, ⟨1, 5⟩⟩⟩, ⟨⟨1, 4⟩, some ⟨0, ⟨2, 0⟩⟩⟩]
  have hmap : Index.ofMap twoAtOnePlace = .ok m := rfl
  have hstart : m.place? ⟨1, 0⟩ .down = some ("a.ts", ⟨1, 0⟩) := by
    rw [Index.place?_ofSegments rfl]
    decide
  have hlast : m.place? ⟨1, 3⟩ .down = some ("a.ts", ⟨1, 0⟩) := by
    rw [Index.place?_ofSegments rfl]
    decide
  have hnext : m.generated? "a.ts" ⟨1, 1⟩ .up = some ⟨1, 0⟩ := by
    rw [Index.generated?_ofSegments rfl]
    decide
  have hbehind : m.place? ⟨1, 4⟩ .up = some ("a.ts", ⟨2, 0⟩) := by
    rw [Index.place?_ofSegments rfl]
    decide
  have hrange : sourceRange? m "/out/a.js" (.between ⟨1, 0⟩ ⟨1, 4⟩) =
      some ⟨FilePath.resolve "a.ts" "/out/a.js", .between ⟨1, 0⟩ ⟨2, -1⟩⟩ := by
    have hbefore : columnBefore 4 = 3 := by decide
    have hafter : columnAfter 0 = 1 := by decide
    simp [sourceRange?, nearestPlace?, placeEnd?, widenedEnd?, Index.consumer, Location.between,
      hbefore, hafter, hstart, hlast, hnext, hbehind, Position.isValid, Position.le]
  obtain ⟨source, -, hvalid, hiff⟩ := isValid_sourceRange? hmap hrange
  exact ⟨m, _, hmap, hrange, rfl, hvalid, rfl⟩

/-! ### The start is not behind the end -/

/-- A place that is looked up is that of a segment that answers for it: the nearest one before, or
the nearest one behind if the other one has no place. -/
theorem exists_of_nearestPlace? (hm : m.WellFormed) (h : nearestPlace? m p = some (source, q)) :
    p.isValid = true ∧ ∃ s bias, IsNearest bias Position.le (·.generated) p m.byGenerated s ∧
      m.Leads s ∧ s.generated.line = p.line ∧ m.Origin s source q ∧
      (bias = .up → m.place? p .down = none) := by
  rcases nearestPlace?_cases h with h | ⟨hnone, h⟩
  · obtain ⟨hp, s, hnearest, hleads, hline, horigin⟩ := (Index.place?_eq_some_iff hm).1 h
    exact ⟨hp, s, .down, hnearest, hleads, hline, horigin, nofun⟩
  · obtain ⟨hp, s, hnearest, hleads, hline, horigin⟩ := (Index.place?_eq_some_iff hm).1 h
    exact ⟨hp, s, .up, hnearest, hleads, hline, horigin, fun _ => hnone⟩

/-- Of two positions the later one is answered for by a segment that is not before that of the
earlier one. -/
theorem nearestPlace?_mono (hm : m.WellFormed) (hle : p.le p' = true)
    (h : nearestPlace? m p = some (source, q)) {source' : String}
    (h' : nearestPlace? m p' = some (source', q')) :
    ∃ s s', m.Leads s ∧ m.Leads s' ∧ m.Origin s source q ∧ m.Origin s' source' q' ∧
      s.generated.le s'.generated = true := by
  obtain ⟨hp, s, bias, ⟨hs, hnear⟩, hleads, hline, horigin, hnone⟩ := exists_of_nearestPlace? hm h
  obtain ⟨-, s', bias', ⟨hs', hnear'⟩, hleads', hline', horigin', -⟩ :=
    exists_of_nearestPlace? hm h'
  refine ⟨s, s', hleads, hleads', horigin, horigin', ?_⟩
  have htrans := Position.linear_le.trans
  cases bias with
  | down =>
    have hs : s.generated.le p = true := hs
    cases bias' with
    | down => exact hnear' s hleads.mem (htrans _ _ _ hs hle)
    | up => exact htrans _ _ _ hs (htrans _ _ _ hle hs')
  | up =>
    cases bias' with
    | up => exact hnear s' hleads'.mem (htrans _ _ _ hle hs')
    | down =>
      by_cases hbehind : p.le s'.generated = true
      · exact hnear s' hleads'.mem hbehind
      · -- Then the segment of the later position is on the line of the earlier one and before it.
        have hbefore := Position.linear_le.le_of_not_le hbehind
        have hon : s'.generated.line = p.line :=
          (Position.line_of_between hline' hbefore hle).symm
        have hfound : m.place? p .down = some (source', q') := by
          refine (Index.place?_eq_some_iff hm).2 ⟨hp, s', ⟨hbefore, ?_⟩, hleads', hon, horigin'⟩
          intro b hb hadmits
          exact hnear' b hb (htrans _ _ _ hadmits hle)
        rw [hnone rfl] at hfound
        cases hfound

/-- In a map that runs forward a range does not end before it starts, if there is a column behind
that of its last character. -/
theorem le_placeEnd? (hm : m.WellFormed) (hforward : m.Forward)
    (hle : p.le ⟨stop.line, columnBefore stop.column⟩ = true)
    (hstart : nearestPlace? m p = some (source, q)) (hstop : placeEnd? m stop = some (source, q'))
    (hlast : ∀ source line, nearestPlace? m ⟨stop.line, columnBefore stop.column⟩ ≠
      some (source, ⟨line, unboundedColumn⟩)) : q.le q' = true := by
  have htrans := Position.linear_le.trans
  obtain ⟨source', last, hplace, hend⟩ := placeEnd?_cases hstop
  obtain ⟨s, s', hs, hs', horigin, horigin', hss⟩ := nearestPlace?_mono hm hle hstart hplace
  rcases hend with ⟨rfl, rfl⟩ | ⟨next, hnext, hback, -⟩
  · exact htrans _ _ _ (hforward.le_of_leads hm hs hs' hss horigin horigin') (le_lineEnd last)
  · obtain ⟨c, hc, rfl, p', hfrom, hbehind⟩ := Index.exists_of_generated? hm hnext
    obtain ⟨-, t, ⟨-, hnear⟩, ht, -, horigin''⟩ := (Index.place?_eq_some_iff hm).1 hback
    have hct : c.generated.le t.generated = true := hnear c hc (Position.linear_le.refl _)
    -- The next segment of the source comes from behind the last character, so it stands behind it.
    have hsc : s'.generated.le c.generated = true := by
      by_contra hnot
      have hbefore := hforward.le_of_not_le hm hc hs'.mem hnot hfrom horigin'
      have hcolumn : last.column ≠ unboundedColumn := by
        rintro heq
        exact hlast source' last.line (by rw [← heq]; exact hplace)
      exact not_columnAfter_le hcolumn (htrans _ _ _ hbehind hbefore)
    exact hforward.le_of_leads hm hs ht (htrans _ _ _ hss (htrans _ _ _ hsc hct)) horigin horigin''

/-- In a map that runs forward, a range whose start is not behind its last character goes to a range
whose start is not behind its end, unless the last character comes from the greatest column. -/
theorem start_le_stop_sourceRange? {d : Document} (h : Index.ofMap d = .ok m)
    (hforward : m.Forward)
    (hrange : range.start.le ⟨range.stop.line, range.stop.column - 1⟩ = true)
    (hr : sourceRange? m file range = some r)
    (hlast : ∀ source line, nearestPlace? m ⟨range.stop.line, range.stop.column - 1⟩ ≠
      some (source, ⟨line, unboundedColumn⟩)) : r.range.start.le r.range.stop = true := by
  obtain ⟨-, hvalid, source, stop, hstart, hstop, hend⟩ := sourceRange?_cases hr
  rw [← columnBefore_of_nonneg ((Position.isValid_iff _).1 hvalid).2] at hrange hlast
  have hle := le_placeEnd? (Index.wellFormed_of_ofMap h) hforward hrange hstart hstop hlast
  rw [hend]
  by_cases hempty : r.range.start = stop
  · rw [if_pos hempty]
    cases hwidened : widenedEnd? m source r.range.start range.stop with
    | none => exact hle
    | some p =>
      obtain ⟨-, -, -, hle⟩ := widenedEnd?_eq_some_iff.1 hwidened
      exact hle
  · rw [if_neg hempty]
    exact hle

/-- Three segments of one line, each with its own place. -/
def threeInLine : Document := ⟨3, none, [some "a.ts"], "AAAA,IAAM,IAAM"⟩

theorem start_le_stop_sourceRange?_threeInLine :
    ∃ m r, Index.ofMap threeInLine = .ok m ∧ m.Forward ∧
      sourceRange? m "/out/a.js" (.between ⟨1, 0⟩ ⟨1, 4⟩) = some r ∧
      r.range = .between ⟨1, 0⟩ ⟨1, 6⟩ ∧ r.range.start.le r.range.stop = true := by
  let segments : List SourceMap.Segment :=
    [⟨⟨1, 0⟩, some ⟨0, ⟨1, 0⟩⟩⟩, ⟨⟨1, 4⟩, some ⟨0, ⟨1, 6⟩⟩⟩, ⟨⟨1, 8⟩, some ⟨0, ⟨1, 12⟩⟩⟩]
  let m := Index.ofSegments ["a.ts"] segments
  have hmap : Index.ofMap threeInLine = .ok m := rfl
  have hforward : m.Forward := by
    have hsorted : m.byGenerated = segments := List.mergeSort_of_pairwise (by decide)
    apply Index.forward_of_places
    rw [hsorted]
    decide
  have hfirst : m.place? ⟨1, 0⟩ .down = some ("a.ts", ⟨1, 0⟩) := by
    rw [Index.place?_ofSegments rfl]
    decide
  have hlast : m.place? ⟨1, 3⟩ .down = some ("a.ts", ⟨1, 0⟩) := by
    rw [Index.place?_ofSegments rfl]
    decide
  have hnext : m.generated? "a.ts" ⟨1, 1⟩ .up = some ⟨1, 4⟩ := by
    rw [Index.generated?_ofSegments rfl]
    decide
  have hbehind : m.place? ⟨1, 4⟩ .down = some ("a.ts", ⟨1, 6⟩) := by
    rw [Index.place?_ofSegments rfl]
    decide
  have hrange : sourceRange? m "/out/a.js" (.between ⟨1, 0⟩ ⟨1, 4⟩) =
      some ⟨FilePath.resolve "a.ts" "/out/a.js", .between ⟨1, 0⟩ ⟨1, 6⟩⟩ := by
    have hbefore : columnBefore 4 = 3 := by decide
    have hafter : columnAfter 0 = 1 := by decide
    simp [sourceRange?, placeEnd?, nearestPlace?, Index.consumer, Location.between,
      Position.isValid, hbefore, hafter, hfirst, hlast, hnext, hbehind]
  have hcolumn : ∀ source line, nearestPlace? m ⟨1, 4 - 1⟩ ≠
      some (source, ⟨line, unboundedColumn⟩) := by
    intro source line heq
    have hfound : nearestPlace? m ⟨1, 3⟩ = some ("a.ts", ⟨1, 0⟩) :=
      congrArg (Option.or · (m.place? ⟨1, 3⟩ .up)) hlast
    have hcolumn : (0 : Int64) = unboundedColumn :=
      congrArg (·.2.column) (Option.some.inj (hfound.symm.trans heq))
    exact absurd hcolumn (by decide)
  exact ⟨m, _, hmap, hforward, hrange, rfl,
    start_le_stop_sourceRange? hmap hforward (by decide) hrange hcolumn⟩

/-- A map that runs forward to the greatest column of a line. -/
def toGreatestColumn : Document :=
  ⟨3, none, [some "a.ts"], "AAAA,AAA+///////////H,AAA+///////////H,AAAC,IAAA"⟩

/-- Behind the greatest column nothing is found but the first segment that comes from it, so that
the range ends where the first segment at that place comes from. -/
theorem not_start_le_stop_toGreatestColumn :
    ∃ m, Index.ofMap toGreatestColumn = .ok m ∧ m.Forward ∧
      Position.le ⟨1, 4⟩ ⟨1, 8 - 1⟩ = true ∧
      ∃ r, sourceRange? m "/out/a.js" (.between ⟨1, 4⟩ ⟨1, 8⟩) = some r ∧
        r.range = .between ⟨1, unboundedColumn⟩ ⟨1, 0⟩ ∧
        r.range.start.le r.range.stop = false := by
  let segments : List SourceMap.Segment :=
    [⟨⟨1, 0⟩, some ⟨0, ⟨1, 0⟩⟩⟩, ⟨⟨1, 0⟩, some ⟨0, ⟨1, 4611686018427387903⟩⟩⟩,
      ⟨⟨1, 0⟩, some ⟨0, ⟨1, 9223372036854775806⟩⟩⟩, ⟨⟨1, 0⟩, some ⟨0, ⟨1, unboundedColumn⟩⟩⟩,
      ⟨⟨1, 4⟩, some ⟨0, ⟨1, unboundedColumn⟩⟩⟩]
  let m := Index.ofSegments ["a.ts"] segments
  have hmap : Index.ofMap toGreatestColumn = .ok m := rfl
  have hforward : m.Forward := by
    have hsorted : m.byGenerated = segments := List.mergeSort_of_pairwise (by decide)
    apply Index.forward_of_places
    rw [hsorted]
    decide
  have hfirst : m.place? ⟨1, 4⟩ .down = some ("a.ts", ⟨1, unboundedColumn⟩) := by
    rw [Index.place?_ofSegments rfl]
    decide
  have hlast : m.place? ⟨1, 7⟩ .down = some ("a.ts", ⟨1, unboundedColumn⟩) := by
    rw [Index.place?_ofSegments rfl]
    decide
  have hnext : m.generated? "a.ts" ⟨1, unboundedColumn⟩ .up = some ⟨1, 0⟩ := by
    rw [Index.generated?_ofSegments rfl]
    decide
  have hbehind : m.place? ⟨1, 0⟩ .down = some ("a.ts", ⟨1, 0⟩) := by
    rw [Index.place?_ofSegments rfl]
    decide
  have hrange : sourceRange? m "/out/a.js" (.between ⟨1, 4⟩ ⟨1, 8⟩) =
      some ⟨FilePath.resolve "a.ts" "/out/a.js", .between ⟨1, unboundedColumn⟩ ⟨1, 0⟩⟩ := by
    have hbefore : columnBefore 8 = 7 := by decide
    have hafter : columnAfter unboundedColumn = unboundedColumn := by decide
    have hne : unboundedColumn ≠ 0 := by decide
    simp [sourceRange?, placeEnd?, nearestPlace?, Index.consumer, Location.between,
      Position.isValid, hbefore, hafter, hfirst, hlast, hnext, hbehind, hne]
  exact ⟨m, hmap, hforward, by decide, _, hrange, rfl, by decide⟩

end Index

end Coverage.Remap
