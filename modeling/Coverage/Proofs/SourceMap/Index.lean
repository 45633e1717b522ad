import Coverage.Proofs.SourceMap.Lookup

/-!
# From the generated file to the sources and back

Both look-ups of an index are about its segments: a position of the generated file comes from where
its nearest segment comes from (`place?_eq_some_iff`), and a position of a source went to where some
segment stands that comes from it or from behind it (`exists_of_generated?`). Of the segments at one
place of the generated file the first one answers for all of them (`Leads`).

In a map that runs forward, segments of one source that stand later in the generated file do not
come from earlier positions. For segments that answer look-ups their places in the generated file
decide this alone (`Forward.le_of_leads`).
-/

namespace Coverage.SourceMap

namespace Index

/-- The segment comes from a position of the source with this name. -/
def Origin (m : Index) (s : Segment) (source : String) (q : Position) : Prop :=
  ∃ place, s.place = some place ∧ m.sources[place.source]? = some source ∧ place.position = q

/-- The segment is the first of those that stand where it stands. -/
def Leads (m : Index) (s : Segment) : Prop :=
  m.byGenerated.find? (fun t => t.generated = s.generated) = some s

/-- What the lists of an index have to do with each other. -/
structure WellFormed (m : Index) : Prop where
  sorted : m.byGenerated.Pairwise fun s t => s.generated.le t.generated = true
  places : ∀ a ∈ m.byPlace, ∃ s ∈ m.byGenerated, s.place = some a.1 ∧ s.generated = a.2
  placeValid : ∀ s ∈ m.byGenerated, s.PlaceValid

theorem wellFormed_of_ofMap {d : Document} {m : Index} (h : ofMap d = .ok m) : m.WellFormed := by
  obtain ⟨-, segments, hsegments, rfl⟩ := ofMap_eq_ok_iff.1 h
  have hmem : ∀ s ∈ (ofSegments (d.sources.map fun s => joinRoot d.sourceRoot (s.getD ""))
      segments).byGenerated, s ∈ segments := fun s hs => (List.mergeSort_perm ..).mem_iff.1 hs
  constructor
  case sorted => exact pairwise_byGenerated _ segments
  case places =>
    intro a ha
    have ha := (List.mergeSort_perm ..).mem_iff.1 ha
    obtain ⟨s, hs, hplaced⟩ := List.mem_filterMap.1 ha
    obtain ⟨place, hplace, rfl⟩ := Option.map_eq_some_iff.1 hplaced
    exact ⟨s, hs, hplace, rfl⟩
  case placeValid => exact fun s hs => placeValid_of_readLines hsegments s (hmem s hs)

variable {m : Index} {s t : Segment} {p q q' : Position} {source : String} {bias : Bias}

theorem Origin.unique (h : m.Origin s source q) (h' : m.Origin s source q') : q = q' := by
  obtain ⟨place, hplace, -, rfl⟩ := h
  obtain ⟨place', hplace', -, rfl⟩ := h'
  rw [hplace] at hplace'
  cases hplace'
  rfl

theorem Leads.mem (h : m.Leads s) : s ∈ m.byGenerated := List.mem_of_find?_eq_some h

theorem Leads.eq (h : m.Leads s) (h' : m.Leads t) (hst : s.generated = t.generated) : s = t := by
  rw [Leads, hst] at h
  exact Option.some.inj (h.symm.trans h')

/-! ### The look-ups -/

/-- A position comes from where the nearest segment comes from, if that is on the same line. -/
theorem place?_eq_some_iff (hm : m.WellFormed) :
    m.place? p bias = some (source, q) ↔ p.isValid = true ∧
      ∃ s, IsNearest bias Position.le Segment.generated p m.byGenerated s ∧ m.Leads s ∧
        s.generated.line = p.line ∧ m.Origin s source q := by
  rw [place?]
  by_cases hp : p.isValid = true
  · simp only [hp, Bool.not_true, Bool.false_eq_true, if_false, true_and, Option.bind_eq_bind,
      Option.bind_eq_some_iff]
    refine exists_congr fun s => ?_
    rw [nearest_eq_some_iff Position.linear_le hm.sorted, and_assoc]
    refine and_congr_right fun _ => and_congr_right fun _ => ?_
    by_cases hline : s.generated.line = p.line
    · simp only [hline, ne_eq, not_true_eq_false, if_false, true_and, Origin,
        Option.bind_eq_some_iff, pure, Option.some.injEq, Prod.mk.injEq]
      refine exists_congr fun place => and_congr_right fun _ => ?_
      constructor
      · rintro ⟨name, hname, rfl, hq⟩
        exact ⟨hname, hq⟩
      · rintro ⟨hname, hq⟩
        exact ⟨source, hname, rfl, hq⟩
    · simp [hline]
  · simp [hp]

theorem isValid_of_place? (hm : m.WellFormed) (h : m.place? p bias = some (source, q)) :
    q.isValid = true := by
  obtain ⟨-, s, -, hs, -, place, hplace, -, rfl⟩ := (place?_eq_some_iff hm).1 h
  exact hm.placeValid s hs.mem place hplace

/-- Where a position of a source went there is a segment that comes from this position or one
behind it. -/
theorem exists_of_generated? (hm : m.WellFormed) (h : m.generated? source p .up = some q) :
    ∃ s ∈ m.byGenerated, s.generated = q ∧ ∃ p', m.Origin s source p' ∧ p.le p' = true := by
  rw [generated?] at h
  split at h
  · cases h
  simp only [Option.bind_eq_bind, Option.bind_eq_some_iff] at h
  obtain ⟨i, hi, a, ha, h⟩ := h
  split at h
  · cases h
  cases h
  rename_i hsource
  have hsource : a.1.source = i := not_ne_iff.1 hsource
  have hle : SourcePlace.le ⟨i, p⟩ a.1 = true := by simpa using List.find?_some ha
  obtain ⟨s, hs, hplace, hgenerated⟩ := hm.places a (List.mem_of_find?_eq_some ha)
  refine ⟨s, hs, hgenerated, a.1.position, ⟨a.1, hplace, ?_, rfl⟩, ?_⟩
  · obtain ⟨hlt, hname, -⟩ := List.findIdx?_eq_some_iff_getElem.1 hi
    rw [hsource, List.getElem?_eq_getElem hlt, eq_of_beq hname]
  · rw [SourcePlace.le_iff] at hle
    exact (hle.resolve_left (by dsimp only; omega)).2

/-! ### Maps that run forward -/

/-- Of two segments of one source the later one in the generated file does not come from before the
earlier one. -/
def Forward (m : Index) : Prop :=
  m.byGenerated.Pairwise fun s t =>
    ∀ source p q, m.Origin s source p → m.Origin t source q → p.le q = true

/-- A map runs forward if its places go on from segment to segment, whatever their sources. -/
theorem forward_of_places (h : m.byGenerated.Pairwise fun s t =>
    ∀ a ∈ s.place, ∀ b ∈ t.place, a.position.le b.position = true) : m.Forward := by
  refine h.imp ?_
  rintro s t hle source p q ⟨a, ha, -, rfl⟩ ⟨b, hb, -, rfl⟩
  exact hle a ha b hb

theorem Forward.le_of_not_le (hm : m.WellFormed) (hforward : m.Forward) (hs : s ∈ m.byGenerated)
    (ht : t ∈ m.byGenerated) (hst : t.generated.le s.generated ≠ true)
    (hp : m.Origin s source p) (hq : m.Origin t source q) : p.le q = true := by
  refine List.Pairwise.forall_of_forall_of_flip (l := m.byGenerated)
    (R := fun s t => t.generated.le s.generated ≠ true →
      ∀ source p q, m.Origin s source p → m.Origin t source q → p.le q = true)
    ?_ ?_ ?_ hs ht hst source p q hp hq
  · exact fun s _ hnot => absurd (Position.linear_le.refl _) hnot
  · refine List.Pairwise.imp ?_ hforward
    intro s t horigin _
    exact horigin
  · exact hm.sorted.imp fun hle hnot => absurd hle hnot

theorem Forward.le_of_leads (hm : m.WellFormed) (hforward : m.Forward) (hs : m.Leads s)
    (ht : m.Leads t) (hst : s.generated.le t.generated = true) (hp : m.Origin s source p)
    (hq : m.Origin t source q) : p.le q = true := by
  by_cases hts : t.generated.le s.generated = true
  · have heq : s = t := hs.eq ht (Position.linear_le.antisymm _ _ hst hts)
    subst heq
    rw [hp.unique hq]
    exact Position.linear_le.refl q
  · exact hforward.le_of_not_le hm hs.mem ht.mem hts hp hq

end Index

end Coverage.SourceMap
