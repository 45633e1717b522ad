import Coverage.Proofs.Json.Yielding
import Coverage.Proofs.Location
import Coverage.SourceMap.Segment

/-!
# What the segments of a map are like

`readSegment_cases` says what reading one segment comes to. What holds of every segment that can be
read holds of all segments of a map (`forall_of_readLines`), in particular that a segment with a
place names a source that the map has and a position in it that exists.
-/

namespace Coverage.SourceMap

open Json (exists_of_bind_eq_ok)

/-! ### The place of a segment -/

theorem le_of_moved {value sum : Int} {delta : Int64} (h : moved value delta = .ok sum) :
    sum ≤ Int64.maxValue.toInt := by
  rw [moved] at h
  split at h
  · next hbounds =>
    cases h
    exact hbounds.2
  · cases h

namespace Running

/-- A place is checked against the number of sources and the greatest line. -/
theorem place_cases {sourceCount : Nat} {r : Running} {place : SourcePlace}
    (h : r.place sourceCount = .ok place) :
    (0 ≤ r.source ∧ r.source < sourceCount) ∧ (0 ≤ r.line + 1 ∧ r.line + 1 < UInt32.size) ∧
      place = ⟨r.source.toNat, ⟨UInt32.ofNat (r.line + 1).toNat, Int64.ofInt r.column⟩⟩ := by
  rw [Running.place] at h
  split at h
  · cases h
  · next hsource =>
    split at h
    · cases h
    · next hline =>
      cases h
      exact ⟨by omega, by omega, rfl⟩

theorem isValid_of_place {sourceCount : Nat} {r : Running} {place : SourcePlace}
    (h : r.place sourceCount = .ok place) (hline : 0 ≤ r.line) (hcolumn : 0 ≤ r.column)
    (hmax : r.column ≤ Int64.maxValue.toInt) : place.position.isValid = true := by
  obtain ⟨-, ⟨-, hbound⟩, rfl⟩ := place_cases h
  have hsize : (UInt32.size : Int) = 2 ^ 32 := rfl
  have hmax' : Int64.maxValue.toInt = 2 ^ 63 - 1 := rfl
  have hline' : (UInt32.ofNat (r.line + 1).toNat).toNat = (r.line + 1).toNat :=
    UInt32.toNat_ofNat_of_lt' (by omega)
  have hcolumn' : (Int64.ofInt r.column).toInt = r.column :=
    Int64.toInt_ofInt_of_le (by omega) (by omega)
  rw [Position.isValid_iff, hline', hcolumn']
  omega

end Running

/-! ### Reading a segment -/

/-- Reading a segment leaves a running place and a column that are not negative. A segment with a
place has the one that the running place stands for. -/
theorem readSegment_cases {sourceCount line : Nat} {running running' : Running}
    {column column' : Int} {text : List Char} {s : Segment}
    (h : readSegment sourceCount line running column text = .ok (s, running', column')) :
    (0 ≤ column' ∧ 0 ≤ running'.line ∧ 0 ≤ running'.column) ∧
      s.generated = ⟨UInt32.ofNat line, Int64.ofInt column'⟩ ∧
      ∀ place, s.place = some place → running'.place sourceCount = .ok place ∧
        running'.column ≤ Int64.maxValue.toInt := by
  rw [readSegment] at h
  obtain ⟨fs, -, h⟩ := exists_of_bind_eq_ok h
  cases fs with
  | nil => cases h
  | cons first rest =>
    obtain ⟨c, -, h⟩ := exists_of_bind_eq_ok h
    split at h
    case h_1 =>
      obtain ⟨⟨c', r, place'⟩, hread, h⟩ := exists_of_bind_eq_ok h
      cases hread
      dsimp only at h
      split at h
      · cases h
      · next hbounds =>
        cases h
        exact ⟨by omega, rfl, nofun⟩
    case h_4 => cases h
    -- A place is read in the same way whether a name follows it or not.
    all_goals
      obtain ⟨source, -, h⟩ := exists_of_bind_eq_ok h
      obtain ⟨line', -, h⟩ := exists_of_bind_eq_ok h
      obtain ⟨column'', hcolumn, h⟩ := exists_of_bind_eq_ok h
      obtain ⟨there, hthere, h⟩ := exists_of_bind_eq_ok h
      obtain ⟨⟨c', r, place'⟩, hread, h⟩ := exists_of_bind_eq_ok h
      cases hread
      dsimp only at h
      split at h
      · cases h
      · next hbounds =>
        cases h
        dsimp only at hbounds ⊢
        refine ⟨by omega, rfl, fun place hplace => ?_⟩
        cases hplace
        exact ⟨hthere, le_of_moved hcolumn⟩

/-- A segment refers to a source that the map has. -/
def Segment.InSources (sourceCount : Nat) (s : Segment) : Prop :=
  ∀ place, s.place = some place → place.source < sourceCount

/-- A segment refers to a position that exists. -/
def Segment.PlaceValid (s : Segment) : Prop :=
  ∀ place, s.place = some place → place.position.isValid = true

section ReadSegment

variable {sourceCount line : Nat} {running running' : Running} {column column' : Int}
  {text : List Char} {s : Segment}

theorem inSources_of_readSegment
    (h : readSegment sourceCount line running column text = .ok (s, running', column')) :
    s.InSources sourceCount := by
  obtain ⟨-, -, hplace⟩ := readSegment_cases h
  intro place hsome
  obtain ⟨hsource, -, rfl⟩ := Running.place_cases (hplace place hsome).1
  show running'.source.toNat < sourceCount
  omega

theorem placeValid_of_readSegment
    (h : readSegment sourceCount line running column text = .ok (s, running', column')) :
    s.PlaceValid := by
  obtain ⟨⟨-, hline, hcolumn⟩, -, hplace⟩ := readSegment_cases h
  intro place hsome
  obtain ⟨hread, hmax⟩ := hplace place hsome
  exact Running.isValid_of_place hread hline hcolumn hmax

end ReadSegment

/-! ### Reading a map -/

section Reading

variable {P : Segment → Prop} {sourceCount : Nat}
  (hP : ∀ {line : Nat} {running running' : Running} {column column' : Int} {text : List Char}
    {s : Segment}, readSegment sourceCount line running column text = .ok (s, running', column') →
      P s)

include hP

theorem forall_of_readLine {line : Nat} {texts : List (List Char)} {running running' : Running}
    {column : Int} {segments : List Segment}
    (h : readLine sourceCount line running column texts = .ok (segments, running')) :
    ∀ s ∈ segments, P s := by
  induction texts generalizing running column segments with
  | nil =>
    cases h
    simp
  | cons text texts ih =>
    rw [readLine] at h
    obtain ⟨⟨segment, running₁, column₁⟩, hsegment, h⟩ := exists_of_bind_eq_ok h
    obtain ⟨⟨rest, running₂⟩, hrest, h⟩ := exists_of_bind_eq_ok h
    cases h
    exact List.forall_mem_cons.2 ⟨hP hsegment, ih hrest⟩

theorem forall_of_readLines {line : Nat} {lines : List (List Char)} {running : Running}
    {segments : List Segment} (h : readLines sourceCount line running lines = .ok segments) :
    ∀ s ∈ segments, P s := by
  induction lines generalizing line running segments with
  | nil =>
    cases h
    simp
  | cons text lines ih =>
    rw [readLines] at h
    obtain ⟨⟨first, running₁⟩, hfirst, h⟩ := exists_of_bind_eq_ok h
    obtain ⟨rest, hrest, h⟩ := exists_of_bind_eq_ok h
    cases h
    intro s hs
    rcases List.mem_append.1 hs with hs | hs
    · exact forall_of_readLine hP hfirst s hs
    · exact ih hrest s hs

end Reading

section Segments

variable {sourceCount line : Nat} {lines : List (List Char)} {running : Running}
  {segments : List Segment} (h : readLines sourceCount line running lines = .ok segments)

include h

theorem inSources_of_readLines : ∀ s ∈ segments, s.InSources sourceCount :=
  forall_of_readLines inSources_of_readSegment h

theorem placeValid_of_readLines : ∀ s ∈ segments, s.PlaceValid :=
  forall_of_readLines placeValid_of_readSegment h

end Segments

end Coverage.SourceMap
