import Coverage.Proofs.SourceMap.Lookup
import Mathlib.Algebra.Ring.Int.Defs
import Mathlib.Data.List.Forall2

/-!
# What the mappings of a map stand for

The segments of a map are written as differences, which are added up while the map is read. What
they stand for can be said without reading them one after the other: a segment stands at the sum of
the first fields on its line, and comes from the place whose numbers are the sums of the other
fields, from the first segment of the map on (`reckon`). These sums are numbers of any size, and a
segment is `Acceptable` if it has 1, 4 or 5 fields and its sums are in range and not too great.

Reading one segment adds its fields to sums that are kept (`readSegment_eq_ok_iff`), and reading
segments one after the other keeps the sums of all fields so far (`readLine_eq_ok_iff`,
`readLines_eq_ok_iff`). So a map is read exactly if all its segments are acceptable
(`readMappings_eq_ok_iff`), and its index has these segments, in two orders (`Index.Describes`). The
main result is `Index.ofText_reckoned`.
-/

namespace Coverage.SourceMap

open Json (Decoder bind_eq_ok_iff exists_of_bind_eq_ok)

/-! ### Segments as they are written -/

/-- A segment as it is written: the number of its line and its fields. -/
structure Written where
  line : Nat
  fields : List Int
  deriving DecidableEq, Repr

/-- The fields of a segment, none if it cannot be read. -/
def integers (text : List Char) : List Int := ((fields text).toOption.getD []).map Int64.toInt

/-- The segments on a line with this number. Commas separate them. -/
def writtenOn (number : Nat) (line : List Char) : List Written :=
  ((line.splitOn ',').filter fun text => !text.isEmpty).map fun text => ⟨number, integers text⟩

/-- The segments on some lines, the first of which has this number. -/
def writtenFrom (number : Nat) (lines : List (List Char)) : List Written :=
  (lines.zipIdx number).flatMap fun line => writtenOn line.2 line.1

/-- The lines of the generated file. Semicolons separate them. -/
def linesOf (mappings : String) : List (List Char) := mappings.toList.splitOn ';'

/-- The sum of the fields at place `k`, where those that are missing are nothing. -/
def sumOf (k : Nat) (ws : List Written) : Int := (ws.map fun w => w.fields.getD k 0).sum

/-! ### What they stand for -/

/-- What a segment stands for, in numbers of any size. -/
structure Reckoned where
  fieldCount : Nat
  line : Nat
  column : Int
  source : Int
  /-- Counts from one. -/
  originalLine : Int
  originalColumn : Int
  deriving DecidableEq, Repr

/-- What the segment `w` behind the segments `before` stands for: its column is the sum of the
first fields on its line, its place is the sums of the other fields from the first segment on. -/
def reckon (before : List Written) (w : Written) : Reckoned where
  fieldCount := w.fields.length
  line := w.line
  column := sumOf 0 ((before ++ [w]).filter fun v => v.line = w.line)
  source := sumOf 1 (before ++ [w])
  originalLine := sumOf 2 (before ++ [w]) + 1
  originalColumn := sumOf 3 (before ++ [w])

/-- What segments behind the segments `before` stand for. -/
def reckonedFrom (before : List Written) : List Written → List Reckoned
  | [] => []
  | w :: ws => reckon before w :: reckonedFrom (before ++ [w]) ws

/-- What the segments of some mappings stand for. -/
def reckoned (mappings : String) : List Reckoned :=
  reckonedFrom [] (writtenFrom 1 (linesOf mappings))

namespace Reckoned

/-- Whether the segment has a place in the sources. -/
def IsPlaced (r : Reckoned) : Prop := 4 ≤ r.fieldCount

instance (r : Reckoned) : Decidable r.IsPlaced := inferInstanceAs (Decidable (_ ≤ _))

/-- The numbers of fields that a segment may have. -/
def IsCounted (r : Reckoned) : Prop := r.fieldCount = 1 ∨ r.fieldCount = 4 ∨ r.fieldCount = 5

instance (r : Reckoned) : Decidable r.IsCounted := inferInstanceAs (Decidable (_ ∨ _))

/-- The place in the generated file exists, and that in the sources as well. -/
structure InRange (sourceCount : Nat) (r : Reckoned) : Prop where
  column : 0 ≤ r.column
  source : r.IsPlaced → 0 ≤ r.source ∧ r.source < sourceCount
  originalLine : r.IsPlaced → 1 ≤ r.originalLine
  originalColumn : r.IsPlaced → 0 ≤ r.originalColumn

instance (sourceCount : Nat) (r : Reckoned) : Decidable (r.InRange sourceCount) :=
  decidable_of_iff (0 ≤ r.column ∧ (r.IsPlaced → 0 ≤ r.source ∧ r.source < sourceCount) ∧
    (r.IsPlaced → 1 ≤ r.originalLine) ∧ (r.IsPlaced → 0 ≤ r.originalColumn))
    ⟨fun ⟨h₁, h₂, h₃, h₄⟩ => ⟨h₁, h₂, h₃, h₄⟩, fun ⟨h₁, h₂, h₃, h₄⟩ => ⟨h₁, h₂, h₃, h₄⟩⟩

/-- The numbers are not too great. -/
structure Fits (r : Reckoned) : Prop where
  column : r.column < 2 ^ 63
  source : r.IsPlaced → r.source < 2 ^ 63
  originalLine : r.IsPlaced → r.originalLine < 2 ^ 32
  originalColumn : r.IsPlaced → r.originalColumn < 2 ^ 63

instance (r : Reckoned) : Decidable r.Fits :=
  decidable_of_iff (r.column < 2 ^ 63 ∧ (r.IsPlaced → r.source < 2 ^ 63) ∧
    (r.IsPlaced → r.originalLine < 2 ^ 32) ∧ (r.IsPlaced → r.originalColumn < 2 ^ 63))
    ⟨fun ⟨h₁, h₂, h₃, h₄⟩ => ⟨h₁, h₂, h₃, h₄⟩, fun ⟨h₁, h₂, h₃, h₄⟩ => ⟨h₁, h₂, h₃, h₄⟩⟩

/-- A segment that a map may have. -/
structure Acceptable (sourceCount : Nat) (r : Reckoned) : Prop where
  counted : r.IsCounted
  inRange : r.InRange sourceCount
  fits : r.Fits

instance (sourceCount : Nat) (r : Reckoned) : Decidable (r.Acceptable sourceCount) :=
  decidable_of_iff (r.IsCounted ∧ r.InRange sourceCount ∧ r.Fits)
    ⟨fun ⟨h₁, h₂, h₃⟩ => ⟨h₁, h₂, h₃⟩, fun ⟨h₁, h₂, h₃⟩ => ⟨h₁, h₂, h₃⟩⟩

theorem acceptable_iff_of_unplaced {sourceCount : Nat} {r : Reckoned} (h : r.fieldCount = 1) :
    r.Acceptable sourceCount ↔ 0 ≤ r.column ∧ r.column < 2 ^ 63 := by
  have hplaced : ¬ r.IsPlaced := by
    rw [IsPlaced]
    omega
  constructor
  · rintro ⟨-, hrange, hfits⟩
    exact ⟨hrange.column, hfits.column⟩
  · rintro ⟨hcolumn, hcolumn'⟩
    have hnone : ∀ {P : Prop}, r.IsPlaced → P := fun hr => absurd hr hplaced
    exact ⟨.inl h, ⟨hcolumn, hnone, hnone, hnone⟩, ⟨hcolumn', hnone, hnone, hnone⟩⟩

theorem acceptable_iff_of_placed {sourceCount : Nat} {r : Reckoned}
    (h : r.fieldCount = 4 ∨ r.fieldCount = 5) :
    r.Acceptable sourceCount ↔ (0 ≤ r.column ∧ r.column < 2 ^ 63) ∧
      (0 ≤ r.source ∧ r.source < sourceCount ∧ r.source < 2 ^ 63) ∧
      (1 ≤ r.originalLine ∧ r.originalLine < 2 ^ 32) ∧
      0 ≤ r.originalColumn ∧ r.originalColumn < 2 ^ 63 := by
  have hplaced : r.IsPlaced := by
    rw [IsPlaced]
    omega
  constructor
  · rintro ⟨-, hrange, hfits⟩
    have hsource := hrange.source hplaced
    exact ⟨⟨hrange.column, hfits.column⟩, ⟨hsource.1, hsource.2, hfits.source hplaced⟩,
      ⟨hrange.originalLine hplaced, hfits.originalLine hplaced⟩,
      hrange.originalColumn hplaced, hfits.originalColumn hplaced⟩
  · rintro ⟨hcolumn, hsource, hline, hcolumn'⟩
    exact ⟨.inr h, ⟨hcolumn.1, fun _ => ⟨hsource.1, hsource.2.1⟩, fun _ => hline.1,
      fun _ => hcolumn'.1⟩, ⟨hcolumn.2, fun _ => hsource.2.2, fun _ => hline.2,
      fun _ => hcolumn'.2⟩⟩

/-- The segment with these numbers. -/
def segment (r : Reckoned) : Segment where
  generated := ⟨UInt32.ofNat r.line, Int64.ofInt r.column⟩
  place :=
    if r.IsPlaced then
      some ⟨r.source.toNat,
        ⟨UInt32.ofNat r.originalLine.toNat, Int64.ofInt r.originalColumn⟩⟩
    else none

theorem segment_of_placed {r : Reckoned} (h : r.IsPlaced) :
    r.segment = ⟨⟨UInt32.ofNat r.line, Int64.ofInt r.column⟩, some ⟨r.source.toNat,
      ⟨UInt32.ofNat r.originalLine.toNat, Int64.ofInt r.originalColumn⟩⟩⟩ := by
  rw [segment, if_pos h]

theorem segment_of_unplaced {r : Reckoned} (h : ¬ r.IsPlaced) :
    r.segment = ⟨⟨UInt32.ofNat r.line, Int64.ofInt r.column⟩, none⟩ := by
  rw [segment, if_neg h]

/-- The segment `s` has the numbers `r`. -/
structure Is (r : Reckoned) (s : Segment) : Prop where
  line : s.generated.line.toNat = r.line
  column : s.generated.column.toInt = r.column
  place : r.IsPlaced → ∃ place, s.place = some place ∧ place.source = r.source ∧
    place.position.line.toNat = r.originalLine ∧ place.position.column.toInt = r.originalColumn
  noPlace : ¬ r.IsPlaced → s.place = none

end Reckoned

/-! ### Reading a segment -/

theorem moved_eq_ok_iff {value sum : Int} {delta : Int64} : moved value delta = .ok sum ↔
    (-2 ^ 63 ≤ value + delta.toInt ∧ value + delta.toInt < 2 ^ 63) ∧
      sum = value + delta.toInt := by
  have hmin : Int64.minValue.toInt = -2 ^ 63 := rfl
  have hmax : Int64.maxValue.toInt = 2 ^ 63 - 1 := rfl
  rw [moved, hmin, hmax]
  split
  · next hfits =>
    rw [Except.ok.injEq, eq_comm]
    exact (and_iff_right (by omega)).symm
  · next hfits =>
    constructor
    · intro h
      cases h
    · rintro ⟨hbounds, -⟩
      exact absurd (by omega) hfits

theorem Running.place_eq_ok_iff {sourceCount : Nat} {r : Running} {place : SourcePlace} :
    r.place sourceCount = .ok place ↔
      (0 ≤ r.source ∧ r.source < sourceCount) ∧ (0 ≤ r.line + 1 ∧ r.line + 1 < 2 ^ 32) ∧
        place = ⟨r.source.toNat, ⟨UInt32.ofNat (r.line + 1).toNat, Int64.ofInt r.column⟩⟩ := by
  have hsize : (UInt32.size : Int) = 2 ^ 32 := rfl
  constructor
  · exact Running.place_cases
  · rintro ⟨hsource, hline, rfl⟩
    rw [Running.place, if_neg (by omega)]
    show (if _ then _ else _) = _
    rw [if_neg (by omega)]
    rfl

/-- Reading that stops where `p` holds goes on where it does not. -/
theorem ite_throw_eq_ok_iff {ε α β : Type} {p : Prop} [Decidable p] {e : ε} {x : Except ε α}
    {f : β → Except ε α} {a : α} :
    (if p then throw e >>= f else x) = .ok a ↔ ¬ p ∧ x = .ok a := by
  split
  · next hp => exact iff_of_false nofun fun h => h.1 hp
  · next hp => exact (and_iff_right hp).symm

/-- What a segment on line `number` with the fields `fs` stands for, behind one that leaves the
running place and the column. -/
def standing (number : Nat) (running : Running) (column : Int) (fs : List Int) : Reckoned where
  fieldCount := fs.length
  line := number
  column := column + fs.getD 0 0
  source := running.source + fs.getD 1 0
  originalLine := running.line + fs.getD 2 0 + 1
  originalColumn := running.column + fs.getD 3 0

/-- The running place behind a segment with the fields `fs`. -/
def Running.advance (running : Running) (fs : List Int) : Running :=
  ⟨running.source + fs.getD 1 0, running.line + fs.getD 2 0, running.column + fs.getD 3 0⟩

section ReadSegment

variable {sourceCount number : Nat} {running : Running} {column : Int} {text : List Char}
  {out : Segment × Running × Int}

theorem readSegment_unplaced (hline : 0 ≤ running.line) (hcolumn : 0 ≤ running.column)
    {first : Int64} (h : fields text = .ok [first]) :
    readSegment sourceCount number running column text = .ok out ↔
      (standing number running column [first.toInt]).Acceptable sourceCount ∧
        (⟨⟨UInt32.ofNat number, Int64.ofInt (column + first.toInt)⟩, none⟩, running,
          column + first.toInt) = out := by
  have hstanding : (standing number running column [first.toInt]).column = column + first.toInt :=
    rfl
  rw [readSegment, h, Reckoned.acceptable_iff_of_unplaced rfl, hstanding]
  simp only [bind_eq_ok_iff, moved_eq_ok_iff, ite_throw_eq_ok_iff, pure, Except.pure,
    Except.ok.injEq, exists_eq_left', and_assoc, exists_and_left, exists_eq_left]
  simp only [← and_assoc]
  exact and_congr_left fun _ => by omega

/-- A name behind the place makes no difference. -/
theorem readSegment_eq_of_placed {first source line place : Int64} {names : List Int64}
    (hnames : names.length ≤ 1) (h : fields text = .ok (first :: source :: line :: place :: names)) :
    readSegment sourceCount number running column text = (do
      let column ← moved column first
      let running : Running := ⟨← moved running.source source, ← moved running.line line,
        ← moved running.column place⟩
      let place ← running.place sourceCount
      if column < 0 ∨ running.line < 0 ∨ running.column < 0 then throw .negativePosition
      return (⟨⟨UInt32.ofNat number, Int64.ofInt column⟩, some place⟩, running, column)) := by
  rw [readSegment, h]
  cases names with
  | nil =>
    simp only [pure_bind]
    rfl
  | cons name names =>
    obtain rfl : names = [] := List.eq_nil_of_length_eq_zero (by simpa using hnames)
    simp only [pure_bind]
    rfl

theorem readSegment_placed {first source line place : Int64} {names : List Int64}
    (hnames : names.length ≤ 1) (h : fields text = .ok (first :: source :: line :: place :: names)) :
    readSegment sourceCount number running column text = .ok out ↔
      (standing number running column
        ((first :: source :: line :: place :: names).map Int64.toInt)).Acceptable sourceCount ∧
        ((standing number running column
          ((first :: source :: line :: place :: names).map Int64.toInt)).segment,
          (⟨running.source + source.toInt, running.line + line.toInt,
            running.column + place.toInt⟩ : Running), column + first.toInt) = out := by
  have hstanding : standing number running column
      ((first :: source :: line :: place :: names).map Int64.toInt) =
        ⟨names.length + 4, number, column + first.toInt, running.source + source.toInt,
          running.line + line.toInt + 1, running.column + place.toInt⟩ := by
    simp [standing]
  rw [readSegment_eq_of_placed hnames h,
    Reckoned.acceptable_iff_of_placed (by rw [hstanding]; dsimp only; omega),
    Reckoned.segment_of_placed (by rw [hstanding]; exact Nat.le_add_left 4 names.length),
    hstanding]
  simp only [bind_eq_ok_iff, moved_eq_ok_iff, ite_throw_eq_ok_iff, Running.place_eq_ok_iff, pure,
    Except.pure, Except.ok.injEq, and_assoc, exists_and_left, exists_eq_left]
  simp only [← and_assoc]
  exact and_congr_left fun _ => by omega

theorem not_readSegment_of_miscounted {fs : List Int64} (h : fields text = .ok fs)
    (hcount : ¬ (fs.length = 1 ∨ fs.length = 4 ∨ fs.length = 5)) :
    readSegment sourceCount number running column text ≠ .ok out := by
  intro hread
  rw [readSegment] at hread
  obtain ⟨fs', hfields, hread⟩ := exists_of_bind_eq_ok hread
  obtain rfl : fs = fs' := Except.ok.inj (h.symm.trans hfields)
  cases fs with
  | nil => cases hread
  | cons first rest =>
    obtain ⟨column', -, hread⟩ := exists_of_bind_eq_ok hread
    split at hread
    · exact hcount (.inl rfl)
    · exact hcount (.inr (.inl rfl))
    · exact hcount (.inr (.inr rfl))
    · cases hread

theorem exists_of_counted {fs : List Int64}
    (h : fs.length = 1 ∨ fs.length = 4 ∨ fs.length = 5) :
    (∃ first, fs = [first]) ∨ ∃ first source line place names,
      fs = first :: source :: line :: place :: names ∧ names.length ≤ 1 := by
  rcases fs with _ | ⟨first, _ | ⟨source, _ | ⟨line, _ | ⟨place, names⟩⟩⟩⟩ <;>
    simp only [List.length_cons, List.length_nil] at h
  · omega
  · exact .inl ⟨first, rfl⟩
  · omega
  · omega
  · exact .inr ⟨first, source, line, place, names, rfl, by omega⟩

/-- A segment is read if it is acceptable, and as what it stands for. -/
theorem readSegment_eq_ok_iff (hline : 0 ≤ running.line) (hcolumn : 0 ≤ running.column) :
    readSegment sourceCount number running column text = .ok out ↔
      (standing number running column (integers text)).Acceptable sourceCount ∧
        ((standing number running column (integers text)).segment,
          running.advance (integers text), column + (integers text).getD 0 0) = out := by
  cases hfields : fields text with
  | error e =>
    have hnone : integers text = [] := by rw [integers, hfields]; rfl
    rw [readSegment, hfields, hnone]
    constructor
    · intro h
      cases h
    · intro h
      simpa [Reckoned.IsCounted, standing] using h.1.counted
  | ok fs =>
    have hintegers : integers text = fs.map Int64.toInt := by rw [integers, hfields]; rfl
    by_cases hcount : fs.length = 1 ∨ fs.length = 4 ∨ fs.length = 5
    · rw [hintegers]
      rcases exists_of_counted hcount with
        ⟨first, rfl⟩ | ⟨first, source, line, place, names, rfl, hnames⟩
      · have hadvance : running.advance ([first].map Int64.toInt) = running := by
          simp [Running.advance]
        rw [readSegment_unplaced hline hcolumn hfields, hadvance,
          Reckoned.segment_of_unplaced (by simp [Reckoned.IsPlaced, standing])]
        rfl
      · rw [readSegment_placed hnames hfields]
        rfl
    · refine iff_of_false (not_readSegment_of_miscounted hfields hcount) fun h => hcount ?_
      simpa [Reckoned.IsCounted, standing, hintegers] using h.1.counted

end ReadSegment

/-! ### Reading the segments of a line -/

theorem sumOf_append (k : Nat) (ws vs : List Written) :
    sumOf k (ws ++ vs) = sumOf k ws + sumOf k vs := by
  rw [sumOf, List.map_append, List.sum_append]
  rfl

theorem sumOf_append_singleton (k : Nat) (ws : List Written) (w : Written) :
    sumOf k (ws ++ [w]) = sumOf k ws + w.fields.getD k 0 := by
  rw [sumOf_append, sumOf, sumOf, List.map_singleton, List.sum_singleton]

/-- The running place behind some segments. -/
def Running.after (before : List Written) : Running :=
  ⟨sumOf 1 before, sumOf 2 before, sumOf 3 before⟩

/-- The column behind some segments, on the line with this number. -/
def columnAfter (number : Nat) (before : List Written) : Int :=
  sumOf 0 (before.filter fun v => v.line = number)

/-- The line and the column of a running place are not negative. -/
structure Running.Nonneg (running : Running) : Prop where
  line : 0 ≤ running.line
  column : 0 ≤ running.column

section Run

variable {sourceCount number : Nat} {before : List Written} {w : Written}

theorem advance_after (before : List Written) (w : Written) :
    (Running.after before).advance w.fields = Running.after (before ++ [w]) := by
  simp only [Running.advance, Running.after, sumOf_append_singleton]

theorem columnAfter_append_singleton (before : List Written) (w : Written) :
    columnAfter w.line (before ++ [w]) = columnAfter w.line before + w.fields.getD 0 0 := by
  rw [columnAfter, List.filter_append, List.filter_singleton, decide_eq_true rfl]
  exact sumOf_append_singleton 0 _ w

theorem standing_after (before : List Written) (w : Written) :
    standing w.line (Running.after before) (columnAfter w.line before) w.fields =
      reckon before w := by
  rw [reckon, ← columnAfter, columnAfter_append_singleton]
  simp only [standing, Running.after, sumOf_append_singleton]

theorem Running.Nonneg.append (h : (Running.after before).Nonneg)
    (hw : (reckon before w).Acceptable sourceCount) : (Running.after (before ++ [w])).Nonneg := by
  by_cases hplaced : (reckon before w).IsPlaced
  · have hline := hw.inRange.originalLine hplaced
    exact ⟨Int.le_of_lt_add_one hline, hw.inRange.originalColumn hplaced⟩
  · -- Fields that are missing leave the place as it is.
    have hfew : w.fields.length ≤ 1 := by
      have hcount : w.fields.length = 1 ∨ w.fields.length = 4 ∨ w.fields.length = 5 := hw.counted
      have hlt : ¬ 4 ≤ w.fields.length := hplaced
      omega
    have hmissing : ∀ k, 0 < k → w.fields.getD k 0 = 0 := fun k hk =>
      List.getD_eq_getElem?_getD.trans (by rw [List.getElem?_eq_none (by omega), Option.getD_none])
    obtain ⟨hline, hcolumn⟩ := h
    constructor
    · show 0 ≤ sumOf 2 (before ++ [w])
      rwa [sumOf_append_singleton, hmissing 2 (by omega), Int.add_zero]
    · show 0 ≤ sumOf 3 (before ++ [w])
      rwa [sumOf_append_singleton, hmissing 3 (by omega), Int.add_zero]

theorem reckonedFrom_append (before ws vs : List Written) :
    reckonedFrom before (ws ++ vs) = reckonedFrom before ws ++ reckonedFrom (before ++ ws) vs := by
  induction ws generalizing before with
  | nil => simp [reckonedFrom]
  | cons w ws ih => simp [reckonedFrom, ih]

theorem Running.Nonneg.append_of_forall {ws : List Written} (h : (Running.after before).Nonneg)
    (hws : ∀ r ∈ reckonedFrom before ws, r.Acceptable sourceCount) :
    (Running.after (before ++ ws)).Nonneg := by
  induction ws generalizing before with
  | nil => rwa [List.append_nil]
  | cons w ws ih =>
    obtain ⟨hw, hws⟩ := List.forall_mem_cons.1 hws
    rw [List.append_cons]
    exact ih (h.append hw) hws

/-- The segments on a line are read if all of them are acceptable, and as what they stand for. -/
theorem readLine_eq_ok_iff (h : (Running.after before).Nonneg) {texts : List (List Char)}
    {out : List Segment × Running} :
    readLine sourceCount number (Running.after before) (columnAfter number before) texts = .ok out ↔
      (∀ r ∈ reckonedFrom before (texts.map fun text => ⟨number, integers text⟩),
        r.Acceptable sourceCount) ∧
      ((reckonedFrom before (texts.map fun text => ⟨number, integers text⟩)).map
          Reckoned.segment,
        Running.after (before ++ texts.map fun text => ⟨number, integers text⟩)) = out := by
  induction texts generalizing before out with
  | nil =>
    rw [readLine, Except.ok.injEq, List.map_nil, List.append_nil]
    exact (and_iff_right fun _ hr => absurd hr List.not_mem_nil).symm
  | cons text texts ih =>
    have hstanding := standing_after before ⟨number, integers text⟩
    have hadvance := advance_after before ⟨number, integers text⟩
    have hcolumn := columnAfter_append_singleton before ⟨number, integers text⟩
    dsimp only at hstanding hadvance hcolumn
    rw [readLine, bind_eq_ok_iff, List.map_cons, reckonedFrom, List.forall_mem_cons,
      List.map_cons, List.append_cons before _ (texts.map _)]
    simp only [readSegment_eq_ok_iff h.line h.column, hstanding, hadvance, ← hcolumn]
    constructor
    · rintro ⟨_, ⟨hw, rfl⟩, hread⟩
      obtain ⟨_, hrest, hread⟩ := exists_of_bind_eq_ok hread
      obtain ⟨hws, rfl⟩ := (ih (h.append hw)).1 hrest
      exact ⟨⟨hw, hws⟩, Except.ok.inj hread⟩
    · rintro ⟨⟨hw, hws⟩, rfl⟩
      have hrest := (ih (h.append hw)).2 ⟨hws, rfl⟩
      exact ⟨_, ⟨hw, rfl⟩, bind_eq_ok_iff.2 ⟨_, hrest, rfl⟩⟩

/-! ### Reading the segments of a map -/

theorem writtenFrom_cons (number : Nat) (line : List Char) (lines : List (List Char)) :
    writtenFrom number (line :: lines) = writtenOn number line ++ writtenFrom (number + 1) lines :=
  rfl

theorem line_of_mem_writtenOn {line : List Char} (hw : w ∈ writtenOn number line) :
    w.line = number := by
  obtain ⟨text, -, rfl⟩ := List.mem_map.1 hw
  rfl

theorem columnAfter_of_lt (h : ∀ w ∈ before, w.line < number) : columnAfter number before = 0 := by
  have hnone : before.filter (fun v => v.line = number) = [] := by
    refine List.filter_eq_nil_iff.2 fun v hv hline => ?_
    exact absurd (of_decide_eq_true hline) (Nat.ne_of_lt (h v hv))
  rw [columnAfter, hnone]
  rfl

/-- The segments on some lines are read if all of them are acceptable, and as what they stand
for. -/
theorem readLines_eq_ok_iff (h : (Running.after before).Nonneg)
    (hbefore : ∀ w ∈ before, w.line < number) {lines : List (List Char)}
    {segments : List Segment} :
    readLines sourceCount number (Running.after before) lines = .ok segments ↔
      (∀ r ∈ reckonedFrom before (writtenFrom number lines), r.Acceptable sourceCount) ∧
        (reckonedFrom before (writtenFrom number lines)).map Reckoned.segment = segments := by
  induction lines generalizing number before segments with
  | nil =>
    rw [readLines, Except.ok.injEq]
    exact (and_iff_right fun _ hr => absurd hr List.not_mem_nil).symm
  | cons line lines ih =>
    have hcomma : Text.splitWhere (· = ',') line = line.splitOn ',' := by
      rw [Text.splitWhere_eq_splitOnP, List.splitOn_eq_splitOnP]
      rfl
    have hline := @readLine_eq_ok_iff sourceCount number before h
      ((line.splitOn ',').filter fun text => !text.isEmpty)
    have hnext : ∀ w ∈ before ++ writtenOn number line, w.line < number + 1 := by
      intro w hw
      rcases List.mem_append.1 hw with hw | hw
      · exact Nat.lt_succ_of_lt (hbefore w hw)
      · exact Nat.lt_succ_of_le (Nat.le_of_eq (line_of_mem_writtenOn hw))
    rw [columnAfter_of_lt hbefore] at hline
    rw [readLines, hcomma, bind_eq_ok_iff, writtenFrom_cons, reckonedFrom_append,
      List.forall_mem_append, List.map_append]
    simp only [hline]
    constructor
    · rintro ⟨_, ⟨hws, rfl⟩, hread⟩
      obtain ⟨_, hrest, hread⟩ := exists_of_bind_eq_ok hread
      obtain ⟨hvs, rfl⟩ := (ih (h.append_of_forall hws) hnext).1 hrest
      exact ⟨⟨hws, hvs⟩, Except.ok.inj hread⟩
    · rintro ⟨⟨hws, hvs⟩, rfl⟩
      have hrest := (ih (h.append_of_forall hws) hnext).2 ⟨hvs, rfl⟩
      exact ⟨_, ⟨hws, rfl⟩, bind_eq_ok_iff.2 ⟨_, hrest, rfl⟩⟩

end Run

/-- The mappings of a map are read if all segments are acceptable, and as what they stand for. -/
theorem readMappings_eq_ok_iff {sourceCount : Nat} {mappings : String} {segments : List Segment} :
    readMappings sourceCount mappings = .ok segments ↔
      (∀ r ∈ reckoned mappings, r.Acceptable sourceCount) ∧
        (reckoned mappings).map Reckoned.segment = segments := by
  have hsemicolon : Text.splitWhere (· = ';') mappings.toList = linesOf mappings := by
    rw [Text.splitWhere_eq_splitOnP, linesOf, List.splitOn_eq_splitOnP]
    rfl
  have hstart : (Running.after []).Nonneg := ⟨Int.le_refl 0, Int.le_refl 0⟩
  rw [readMappings, hsemicolon]
  exact readLines_eq_ok_iff hstart nofun

/-! ### What is read -/

namespace Reckoned

variable {sourceCount : Nat} {r : Reckoned}

/-- A segment that is acceptable has its numbers, as long as lines can be counted. -/
theorem Acceptable.is_segment (h : r.Acceptable sourceCount) (hline : r.line < 2 ^ 32) :
    r.Is r.segment := by
  obtain ⟨-, hrange, hfits⟩ := h
  have hcolumn : (Int64.ofInt r.column).toInt = r.column :=
    Int64.toInt_ofInt_of_le (by have := hrange.column; omega) hfits.column
  refine ⟨UInt32.toNat_ofNat_of_lt' hline, hcolumn, fun hplaced => ?_, fun hplaced => ?_⟩
  · obtain ⟨hsource, -⟩ := hrange.source hplaced
    have hone := hrange.originalLine hplaced
    have hmax := hfits.originalLine hplaced
    have hcolumn' := hrange.originalColumn hplaced
    have hline' : (UInt32.ofNat r.originalLine.toNat).toNat = r.originalLine.toNat :=
      UInt32.toNat_ofNat_of_lt' (show r.originalLine.toNat < 2 ^ 32 by omega)
    rw [segment_of_placed hplaced]
    refine ⟨_, rfl, Int.toNat_of_nonneg hsource, ?_, ?_⟩
    · dsimp only
      rw [hline']
      omega
    · exact Int64.toInt_ofInt_of_le (by omega) (hfits.originalColumn hplaced)
  · rw [segment_of_unplaced hplaced]

end Reckoned

/-- The segment stands at a column that exists, and has a place in one of so many sources and at a
position that exists, if it has one. -/
structure Segment.InRange (sourceCount : Nat) (s : Segment) : Prop where
  column : 0 ≤ s.generated.column.toInt
  place : ∀ place, s.place = some place → place.source < sourceCount ∧
    1 ≤ place.position.line.toNat ∧ 0 ≤ place.position.column.toInt

/-- A segment that is acceptable is in range, on whatever line it is. -/
theorem Reckoned.Acceptable.inRange_segment {sourceCount : Nat} {r : Reckoned}
    (h : r.Acceptable sourceCount) : r.segment.InRange sourceCount := by
  -- Counting lines makes no difference to what is in range.
  let first : Reckoned := { r with line := 0 }
  have hfirst : first.Acceptable sourceCount :=
    ⟨h.counted, ⟨h.inRange.column, h.inRange.source, h.inRange.originalLine,
      h.inRange.originalColumn⟩, ⟨h.fits.column, h.fits.source, h.fits.originalLine,
      h.fits.originalColumn⟩⟩
  have hplace : first.segment.place = r.segment.place := rfl
  have his := hfirst.is_segment (Nat.two_pow_pos 32)
  constructor
  · show 0 ≤ first.segment.generated.column.toInt
    rw [his.column]
    exact h.inRange.column
  · intro place hsome
    by_cases hplaced : r.IsPlaced
    · obtain ⟨place', hsome', hsource, hline, hcolumn⟩ := his.place hplaced
      rw [hplace, hsome] at hsome'
      cases hsome'
      have hbounds := h.inRange.source hplaced
      have hone := h.inRange.originalLine hplaced
      have hzero := h.inRange.originalColumn hplaced
      dsimp only [first] at hsource hline hcolumn
      omega
    · have hnone := his.noPlace hplaced
      rw [hplace, hsome] at hnone
      cases hnone

theorem map_line_reckonedFrom (before ws : List Written) :
    (reckonedFrom before ws).map Reckoned.line = ws.map Written.line := by
  induction ws generalizing before with
  | nil => rfl
  | cons w ws ih => rw [reckonedFrom, List.map_cons, List.map_cons, ih, reckon]

theorem line_lt_of_mem_writtenFrom {number : Nat} {lines : List (List Char)} {w : Written}
    (hw : w ∈ writtenFrom number lines) : w.line < number + lines.length := by
  induction lines generalizing number with
  | nil => cases hw
  | cons line lines ih =>
    rw [writtenFrom_cons] at hw
    rw [List.length_cons]
    rcases List.mem_append.1 hw with hw | hw
    · have hline := line_of_mem_writtenOn hw
      omega
    · have hline := ih hw
      omega

theorem line_le_of_mem_reckoned {mappings : String} {r : Reckoned} (hr : r ∈ reckoned mappings) :
    r.line ≤ (linesOf mappings).length := by
  have hline := List.mem_map_of_mem (f := Reckoned.line) hr
  rw [reckoned, map_line_reckonedFrom] at hline
  obtain ⟨w, hw, hline⟩ := List.mem_map.1 hline
  have hlt := line_lt_of_mem_writtenFrom hw
  omega

/-- Mappings that are read have the segments that they stand for, as long as their lines can be
counted. -/
theorem forall₂_is_of_readMappings {sourceCount : Nat} {mappings : String}
    {segments : List Segment} (h : readMappings sourceCount mappings = .ok segments)
    (hlines : (linesOf mappings).length < 2 ^ 32) :
    List.Forall₂ Reckoned.Is (reckoned mappings) segments := by
  obtain ⟨hacceptable, rfl⟩ := readMappings_eq_ok_iff.1 h
  rw [List.forall₂_map_right_iff, List.forall₂_same]
  intro r hr
  exact (hacceptable r hr).is_segment ((line_le_of_mem_reckoned hr).trans_lt hlines)

theorem inRange_of_readMappings {sourceCount : Nat} {mappings : String} {segments : List Segment}
    (h : readMappings sourceCount mappings = .ok segments) :
    ∀ s ∈ segments, s.InRange sourceCount := by
  obtain ⟨hacceptable, rfl⟩ := readMappings_eq_ok_iff.1 h
  intro s hs
  obtain ⟨r, hr, rfl⟩ := List.mem_map.1 hs
  exact (hacceptable r hr).inRange_segment

/-! ### The orders of an index -/

namespace Index

/-- The lists of the index are about these segments. -/
structure Describes (m : Index) (segments : List Segment) : Prop where
  byGenerated_perm : m.byGenerated.Perm segments
  byGenerated_sorted : m.byGenerated.Pairwise fun s t => s.generated.le t.generated = true
  /-- Segments at one place are in the order of the document. -/
  byGenerated_stable : ∀ p, m.byGenerated.filter (fun s => s.generated = p) =
    segments.filter fun s => s.generated = p
  byPlace_perm : m.byPlace.Perm (places segments)
  /-- What comes from one place is in the order of the generated file. -/
  byPlace_sorted : m.byPlace.Pairwise fun a b =>
    a.1.le b.1 = true ∧ (a.1 = b.1 → a.2.le b.2 = true)

theorem describes_ofSegments (sources : List String) (segments : List Segment) :
    (ofSegments sources segments).Describes segments := by
  have hperm : (ofSegments sources segments).byGenerated.Perm segments :=
    List.mergeSort_perm segments _
  have hsorted := pairwise_byGenerated sources segments
  refine ⟨hperm, hsorted, fun p => ?_, ?_, ?_⟩
  · refine filter_mergeSort (fun s t u => Position.linear_le.trans _ _ _)
      (fun s t => Position.linear_le.total _ _) fun s _ t _ hs ht => ?_
    rw [of_decide_eq_true hs, of_decide_eq_true ht]
    exact Position.linear_le.refl p
  · exact (List.mergeSort_perm _ _).trans (hperm.filterMap _)
  · -- The places are sorted after the segments have been.
    have hplaces := pairwise_mergeSort_key SourcePlace.linear_le Prod.fst
      (places (ofSegments sources segments).byGenerated)
    have hstable := pairwise_mergeSort_stable
      (fun a b c => SourcePlace.linear_le.trans a.1 b.1 c.1)
      (fun a b => SourcePlace.linear_le.total a.1 b.1) (pairwise_places hsorted)
    refine (hplaces.and hstable).imp fun {a b} hab => ⟨hab.1, fun heq => hab.2 ?_⟩
    rw [heq]
    exact SourcePlace.linear_le.refl b.1

/-! ### Reading a map -/

/-- A map is accepted if its version is 3 and all of its segments are acceptable. -/
theorem exists_ofMap_iff {d : Document} : (∃ m, ofMap d = .ok m) ↔
    d.version = 3 ∧ ∀ r ∈ reckoned d.mappings, r.Acceptable d.sources.length := by
  simp only [ofMap_eq_ok_iff, readMappings_eq_ok_iff]
  constructor
  · rintro ⟨m, hversion, segments, ⟨hacceptable, -⟩, -⟩
    exact ⟨hversion, hacceptable⟩
  · rintro ⟨hversion, hacceptable⟩
    exact ⟨_, hversion, _, ⟨hacceptable, rfl⟩, rfl⟩

theorem ofText_eq_ofMap {text : String} {d : Document}
    (h : Decoder.ofText Document.decode text = .ok d) : ofText text = ofMap d := by
  rw [ofText, h]
  rfl

theorem exists_document_of_ofText {text : String} {m : Index} (h : ofText text = .ok m) :
    ∃ d, Decoder.ofText Document.decode text = .ok d ∧ ofMap d = .ok m := by
  rw [ofText] at h
  obtain ⟨d, hd, h⟩ := exists_of_bind_eq_ok h
  cases hdocument : Decoder.ofText Document.decode text with
  | error e =>
    rw [hdocument] at hd
    cases hd
  | ok d' =>
    rw [hdocument] at hd
    cases hd
    exact ⟨d, rfl, h⟩

/-- The index that is read from the text of a map is about the segments that the mappings stand
for, all of which are in range, in two orders. A text is accepted if all segments of its map are
acceptable, and one with a segment that has a wrong number of fields or is out of range is
rejected. -/
theorem ofText_reckoned (text : String) :
    (∀ m, ofText text = .ok m → ∃ d segments,
      Decoder.ofText Document.decode text = .ok d ∧
      readMappings d.sources.length d.mappings = .ok segments ∧
      ((linesOf d.mappings).length < 2 ^ 32 →
        List.Forall₂ Reckoned.Is (reckoned d.mappings) segments) ∧
      (∀ s ∈ segments, s.InRange m.sources.length) ∧
      m.Describes segments) ∧
    ∀ d, Decoder.ofText Document.decode text = .ok d →
      (d.version = 3 → (∀ r ∈ reckoned d.mappings, r.Acceptable d.sources.length) →
        ∃ m, ofText text = .ok m) ∧
      ∀ r ∈ reckoned d.mappings, ¬ r.IsCounted ∨ ¬ r.InRange d.sources.length →
        ∃ e, ofText text = .error e := by
  refine ⟨fun m hm => ?_, fun d hd => ⟨fun hversion hall => ?_, fun r hr hbad => ?_⟩⟩
  · obtain ⟨d, hd, hmap⟩ := exists_document_of_ofText hm
    obtain ⟨-, segments, hread, rfl⟩ := ofMap_eq_ok_iff.1 hmap
    refine ⟨d, segments, hd, hread, forall₂_is_of_readMappings hread, ?_,
      describes_ofSegments _ segments⟩
    show ∀ s ∈ segments, s.InRange (d.sources.map _).length
    rw [List.length_map]
    exact inRange_of_readMappings hread
  · rw [ofText_eq_ofMap hd]
    exact exists_ofMap_iff.2 ⟨hversion, hall⟩
  · rw [ofText_eq_ofMap hd]
    cases hmap : ofMap d with
    | error e => exact ⟨e, rfl⟩
    | ok m =>
      have hacceptable := (exists_ofMap_iff.1 ⟨m, hmap⟩).2 r hr
      exact absurd hbad (by simp [hacceptable.counted, hacceptable.inRange])

/-- A map whose segments stand in the order neither of the generated file nor of the sources. -/
def unordered : String :=
  "\x7b\"version\":3,\"sources\":[\"a.ts\",\"b.ts\"],\"mappings\":\"SAAA,JCEI,E;ADDF\"\x7d"

/-- A map with a segment that goes to the left of its line. -/
def leftward : String :=
  "\x7b\"version\":3,\"sources\":[\"a.ts\"],\"mappings\":\"CAAA,F\"\x7d"

/-- What these two texts are read as. -/
def unorderedMap : Document := ⟨3, none, [some "a.ts", some "b.ts"], "SAAA,JCEI,E;ADDF"⟩

def leftwardMap : Document := ⟨3, none, [some "a.ts"], "CAAA,F"⟩

/-- The segments of the first map. -/
def segmentsOfUnordered : List Segment :=
  [⟨⟨1, 9⟩, some ⟨0, ⟨1, 0⟩⟩⟩, ⟨⟨1, 5⟩, some ⟨1, ⟨3, 4⟩⟩⟩, ⟨⟨1, 7⟩, none⟩,
    ⟨⟨2, 0⟩, some ⟨0, ⟨2, 2⟩⟩⟩]

theorem eq_ok_of_toOption {ε α : Type} {x : Except ε α} {a : α} (h : x.toOption = some a) :
    x = .ok a := by
  cases x with
  | error e => cases h
  | ok b => exact congrArg _ (Option.some.inj h)

theorem ofText_reckoned_unordered :
    (∃ m, ofText unordered = .ok m ∧ m.Describes segmentsOfUnordered ∧
      m.byGenerated = [⟨⟨1, 5⟩, some ⟨1, ⟨3, 4⟩⟩⟩, ⟨⟨1, 7⟩, none⟩, ⟨⟨1, 9⟩, some ⟨0, ⟨1, 0⟩⟩⟩,
        ⟨⟨2, 0⟩, some ⟨0, ⟨2, 2⟩⟩⟩]) ∧
      ∃ e, ofText leftward = .error e := by
  have hunordered : Decoder.ofText Document.decode unordered = .ok unorderedMap :=
    eq_ok_of_toOption (by decide +kernel)
  have hleftward : Decoder.ofText Document.decode leftward = .ok leftwardMap :=
    eq_ok_of_toOption (by decide +kernel)
  obtain ⟨hreads, haccepts⟩ := ofText_reckoned unordered
  constructor
  · obtain ⟨m, hm⟩ := (haccepts _ hunordered).1 rfl (by decide)
    obtain ⟨d, segments, hd, hread, -, -, hdescribes⟩ := hreads m hm
    obtain rfl : unorderedMap = d := Except.ok.inj (hunordered.symm.trans hd)
    obtain rfl : segmentsOfUnordered = segments := Except.ok.inj hread
    refine ⟨m, hm, hdescribes, ?_⟩
    have hdistinct : ∀ s ∈ segmentsOfUnordered, ∀ t ∈ segmentsOfUnordered,
        s.generated.le t.generated = true → t.generated.le s.generated = true → s = t := by
      decide
    have hperm : segmentsOfUnordered.Perm [⟨⟨1, 5⟩, some ⟨1, ⟨3, 4⟩⟩⟩, ⟨⟨1, 7⟩, none⟩,
        ⟨⟨1, 9⟩, some ⟨0, ⟨1, 0⟩⟩⟩, ⟨⟨2, 0⟩, some ⟨0, ⟨2, 2⟩⟩⟩] := by decide
    refine List.Perm.eq_of_pairwise (fun s t hs ht => hdistinct s ?_ t ?_)
      hdescribes.byGenerated_sorted (by decide) (hdescribes.byGenerated_perm.trans hperm)
    · exact hdescribes.byGenerated_perm.mem_iff.1 hs
    · exact hperm.mem_iff.2 ht
  · refine ((ofText_reckoned leftward).2 _ hleftward).2 ⟨1, 1, -1, 0, 1, 0⟩ ?_ (.inr ?_)
    · decide
    · decide

end Index

end Coverage.SourceMap
