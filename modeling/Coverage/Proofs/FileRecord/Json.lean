import Coverage.FileRecord.Json
import Coverage.Proofs.Decimal.Binary64
import Coverage.Proofs.FileRecord.Validity
import Coverage.Proofs.Json.Fields
import Coverage.Proofs.Json.Reading
import Mathlib.Data.List.Nodup
import Mathlib.Data.List.Perm.Basic

/-!
# Records read back from what is written for them

A record is read back from the value that is written for it, once the fields of all objects have
been put in order (`FileRecord.reads_sortFields`), if it is valid, its columns are numbers that
binary64 values hold exactly, and a source map in it can be read back itself.
-/

namespace Coverage

open Coverage.Decimal (Binary64 IsExact)
open Coverage.Json (Value Decoder Context Doc)
open Coverage.Json.Decoder (Reads)

namespace Position

/-! ### Positions and ranges -/

/-- A column that is read back: the unbounded one, or one that a binary64 value holds exactly. -/
def Exact (p : Position) : Prop := p.column = unboundedColumn ∨ IsExact p.column.toInt.natAbs

theorem columnOf_toInt (n : Int64) : columnOf n.toInt = n := by
  rw [columnOf]
  split
  · next h => exact Int64.toInt_inj.1 (le_antisymm n.minValue_le_toInt h)
  split
  · next h => exact Int64.toInt_inj.1 (le_antisymm h n.toInt_le)
  · exact Int64.ofInt_toInt n

theorem ofInt_of_nonneg {n : Int} (h : 0 ≤ n) : Value.ofInt n = .ofNat n.toNat := if_pos h

theorem ofInt_of_neg {n : Int} (h : n < 0) :
    Value.ofInt n = .number (.negative (Int64.ofInt n)) := if_neg (not_le.2 h)

theorem reads_column {p : Position} (hp : p.Exact) :
    Reads decodeColumn 0 (columnValue p.column) p.column := by
  intro c _
  rw [columnValue]
  split
  · next h =>
    rw [h]
    rfl
  · next h =>
    have hexact : IsExact p.column.toInt.natAbs := hp.resolve_left h
    have hmin := p.column.le_toInt
    have hmax := p.column.toInt_lt
    rcases Int.lt_or_le p.column.toInt 0 with hneg | hpos
    · have hholds := Binary64.holds_ofNat hexact (by omega)
      have habs : -(p.column.toInt.natAbs : Int) = p.column.toInt := by omega
      rw [ofInt_of_neg hneg, Int64.ofInt_toInt]
      simp only [decodeColumn, Json.Doc.spelled, Decoder.option, Decoder.real, bind, Except.bind,
        Functor.map, Except.map, pure, Except.pure, hholds.isWhole_negate, if_true,
        hholds.truncate_negate, habs, columnOf_toInt]
    · have hnat : p.column.toInt.natAbs = p.column.toInt.toNat := by omega
      have hsize : (UInt64.ofNat p.column.toInt.toNat).toNat = p.column.toInt.toNat :=
        UInt64.toNat_ofNat_of_lt (by rw [UInt64.size]; omega)
      have hholds := Binary64.holds_ofNat hexact (by omega)
      have hback : (p.column.toInt.toNat : Int) = p.column.toInt := Int.toNat_of_nonneg hpos
      rw [hnat] at hholds
      rw [ofInt_of_nonneg hpos, Value.ofNat]
      simp only [decodeColumn, Json.Doc.spelled, Decoder.option, Decoder.real, bind, Except.bind,
        Functor.map, Except.map, pure, Except.pure, hsize, hholds.whole, if_true,
        hholds.truncate, hback, columnOf_toInt]

theorem fits_column (column : Int64) : (columnValue column).Fits 0 := by
  rw [columnValue]
  split
  · trivial
  rcases Int.lt_or_le column.toInt 0 with hneg | hpos
  · rw [ofInt_of_neg hneg, Int64.ofInt_toInt]
    exact hneg
  · rw [ofInt_of_nonneg hpos]
    trivial

theorem sortFields_toJson (p : Position) :
    p.toJson.sortFields =
      .object [("column", columnValue p.column), ("line", .ofNat p.line.toNat)] := by
  have hline : (Value.ofNat p.line.toNat).Fits 0 := trivial
  simp only [toJson, Value.sortFields, Value.sortFieldsFields, Value.sortFields_of_fits hline,
    Value.sortFields_of_fits (fits_column p.column), List.foldl_cons, List.foldl_nil]
  rfl

/-- A position is read from its fields in either order. -/
theorem reads_fields {p : Position} (hp : p.Exact) {es : List (String × Value)}
    (hes : es = [("line", .ofNat p.line.toNat), ("column", columnValue p.column)] ∨
      es = [("column", columnValue p.column), ("line", .ofNat p.line.toNat)]) :
    Reads decode 1 (.object es) p := by
  intro c hc
  obtain ⟨c', hc', horigin, hroom⟩ := Context.enter_of_room hc (by decide)
  have hcolumn := reads_column hp c' hroom
  have hline := Decoder.reads_word32 p.line c' hroom
  rw [horigin] at hcolumn hline
  obtain rfl | rfl := hes <;>
    simp [decode, record, Json.Doc.spelled, Json.Doc.spelledFields, Decoder.Record.decode, hc',
      Decoder.Record.ofFields, Json.Doc.text_keyFrom, Decoder.once, Decoder.require, hcolumn, hline,
      bind, Except.bind, pure, Except.pure, Functor.map, Except.map]

theorem reads_toJson {p : Position} (hp : p.Exact) : Reads decode 1 p.toJson p :=
  reads_fields hp (.inl rfl)

theorem reads_sortFields {p : Position} (hp : p.Exact) : Reads decode 1 p.toJson.sortFields p :=
  p.sortFields_toJson ▸ reads_fields hp (.inr rfl)

theorem fits_sortFields (p : Position) : p.toJson.sortFields.Fits 1 := by
  rw [p.sortFields_toJson]
  have hnames : ["column", "line"].Pairwise (· < ·) := by decide
  exact ⟨by decide, Value.sorted_of_names hnames (.refl _), fits_column p.column, trivial, trivial⟩

end Position

namespace Location

/-- Both ends have columns that are read back. -/
structure Exact (l : Location) : Prop where
  start : l.start.Exact
  stop : l.stop.Exact

theorem sortFields_toJson (l : Location) :
    l.toJson.sortFields =
      .object ([("end", l.stop.toJson.sortFields)] ++ flagField "skip" l.skip ++
        [("start", l.start.toJson.sortFields)]) := by
  rw [toJson]
  cases l.skip <;>
    simp only [flagField, Bool.false_eq_true, if_false, if_true, List.append_nil, List.cons_append,
      List.nil_append, Value.sortFields, Value.sortFieldsFields, List.foldl_cons, List.foldl_nil] <;>
    rfl

/-- A range is read from its fields as they are written and in the order of their names, whatever
its ends are read from. -/
theorem reads_fields {l : Location} {start stop : Value}
    (hstart : Reads Position.decode 1 start l.start) (hstop : Reads Position.decode 1 stop l.stop)
    {es : List (String × Value)}
    (hes : es = [("start", start), ("end", stop)] ++ flagField "skip" l.skip ∨
      es = [("end", stop)] ++ flagField "skip" l.skip ++ [("start", start)]) :
    Reads decode 2 (.object es) l := by
  intro c hc
  obtain ⟨c', hc', horigin, hroom⟩ := Context.enter_of_room hc (by decide)
  have hstart := hstart c' hroom
  have hstop := hstop c' hroom
  rw [horigin] at hstart hstop
  obtain ⟨_, _, skip⟩ := l
  obtain rfl | rfl := hes <;> cases skip <;>
    simp [decode, record, flagField, Json.Doc.spelled, Json.Doc.spelledFields,
      Decoder.Record.decode, hc', Decoder.Record.ofFields, Json.Doc.text_keyFrom, Decoder.once,
      Decoder.require, Decoder.bool, hstart, hstop, bind, Except.bind, pure, Except.pure,
      Functor.map, Except.map]

theorem reads_toJson {l : Location} (hl : l.Exact) : Reads decode 2 l.toJson l :=
  reads_fields (Position.reads_toJson hl.start) (Position.reads_toJson hl.stop) (.inl rfl)

theorem reads_sortFields {l : Location} (hl : l.Exact) : Reads decode 2 l.toJson.sortFields l :=
  l.sortFields_toJson ▸ reads_fields (Position.reads_sortFields hl.start)
    (Position.reads_sortFields hl.stop) (.inr rfl)

theorem fits_sortFields (l : Location) : l.toJson.sortFields.Fits 2 := by
  have hnames : ["end", "skip", "start"].Pairwise (· < ·) := by decide
  have hstart := l.start.fits_sortFields
  have hstop := l.stop.fits_sortFields
  rw [sortFields_toJson]
  refine ⟨by decide, Value.sorted_of_names hnames ?_, ?_⟩
  · cases l.skip <;> simp [flagField]
  · cases l.skip <;> simp [flagField, Value.FitsFields, hstart, hstop, Value.Fits]

end Location

/-! ### Functions and branches -/

theorem reads_line (line : UInt32) :
    Reads (Decoder.option Decoder.word32) 0 (.ofNat line.toNat) (some line) :=
  Decoder.reads_option (Decoder.reads_word32 line) nofun

namespace FunctionEntry

/-- Both ranges have columns that are read back. -/
structure Exact (f : FunctionEntry) : Prop where
  decl : f.decl.Exact
  body : f.body.Exact

theorem sortFields_toJson (f : FunctionEntry) :
    f.toJson.sortFields =
      .object ([("decl", f.decl.toJson.sortFields)] ++ lineField f.line ++
        [("loc", f.body.toJson.sortFields), ("name", .string f.name)] ++
        flagField "skip" f.skip) := by
  have hline : ∀ line : UInt32, (Value.ofNat line.toNat).sortFields = .ofNat line.toNat :=
    fun _ => rfl
  rw [toJson]
  cases f.line <;> cases f.skip <;>
    simp only [flagField, lineField, Bool.false_eq_true, if_false, if_true, List.append_nil,
      List.cons_append, List.nil_append, Value.sortFields, Value.sortFieldsFields,
      List.foldl_cons, List.foldl_nil, hline] <;>
    rfl

/-- A function is read from its fields as they are written and in the order of their names, whatever
its ranges are read from. -/
theorem reads_fields {f : FunctionEntry} {decl body : Value}
    (hdecl : Reads Location.decode 2 decl f.decl) (hbody : Reads Location.decode 2 body f.body)
    {es : List (String × Value)}
    (hes : es = [("name", .string f.name), ("decl", decl), ("loc", body)] ++ lineField f.line ++
        flagField "skip" f.skip ∨
      es = [("decl", decl)] ++ lineField f.line ++ [("loc", body), ("name", .string f.name)] ++
        flagField "skip" f.skip) : Reads decode 3 (.object es) f := by
  intro c hc
  obtain ⟨c', hc', horigin, hroom⟩ := Context.enter_of_room hc (by decide)
  have hdecl := hdecl c' hroom
  have hbody := hbody c' hroom
  have hline := fun line => (reads_line line).mono (Nat.zero_le 2) c' hroom
  rw [horigin] at hdecl hbody
  simp only [horigin] at hline
  obtain ⟨name, _, _, line, skip⟩ := f
  obtain rfl | rfl := hes <;> cases line <;> cases skip <;>
    simp [decode, record, flagField, lineField, Json.Doc.spelled, Json.Doc.spelledFields,
      Decoder.Record.decode, hc', Decoder.Record.ofFields, Json.Doc.text_keyFrom, Decoder.once,
      Decoder.require, Decoder.bool, Decoder.string, hdecl, hbody, hline, bind, Except.bind, pure,
      Except.pure, Functor.map, Except.map]

theorem reads_toJson {f : FunctionEntry} (hf : f.Exact) : Reads decode 3 f.toJson f :=
  reads_fields (Location.reads_toJson hf.decl) (Location.reads_toJson hf.body) (.inl rfl)

theorem reads_sortFields {f : FunctionEntry} (hf : f.Exact) :
    Reads decode 3 f.toJson.sortFields f :=
  f.sortFields_toJson ▸ reads_fields (Location.reads_sortFields hf.decl)
    (Location.reads_sortFields hf.body) (.inr rfl)

theorem fits_sortFields (f : FunctionEntry) : f.toJson.sortFields.Fits 3 := by
  have hnames : ["decl", "line", "loc", "name", "skip"].Pairwise (· < ·) := by decide
  have hdecl := f.decl.fits_sortFields
  have hbody := f.body.fits_sortFields
  rw [sortFields_toJson]
  refine ⟨by decide, ?_, ?_⟩
  · refine Value.sorted_of_names hnames ?_
    cases f.line <;> cases f.skip <;> simp [flagField, lineField]
  · cases f.line <;> cases f.skip <;>
      simp [flagField, lineField, Value.FitsFields, hdecl, hbody, Value.Fits, Value.ofNat,
        Json.Number.IsInteger]

end FunctionEntry

namespace BranchEntry

/-- All ranges have columns that are read back. -/
structure Exact (b : BranchEntry) : Prop where
  range : ∀ l, b.range = some l → l.Exact
  outcomes : ∀ l ∈ b.outcomes, l.Exact

/-- What is written for the range of a branch, its fields in order. -/
def rangeField : Option Location → List (String × Value)
  | some l => [("loc", l.toJson.sortFields)]
  | none => []

theorem sortFieldsItems_outcomes (outcomes : List Location) :
    Value.sortFieldsItems (outcomes.map Location.toJson) =
      outcomes.map fun l => l.toJson.sortFields := by
  rw [Value.sortFieldsItems_eq, List.map_map]
  rfl

theorem sortFields_toJson (b : BranchEntry) :
    b.toJson.sortFields =
      .object (lineField b.line ++ rangeField b.range ++
        [("locations", .array (b.outcomes.map fun l => l.toJson.sortFields)),
          ("type", .string b.kind.name)]) := by
  have hline : ∀ line : UInt32, (Value.ofNat line.toNat).sortFields = .ofNat line.toNat :=
    fun _ => rfl
  rw [toJson]
  cases b.line <;> cases b.range <;>
    simp only [lineField, rangeField, List.append_nil, List.cons_append, List.nil_append,
      Value.sortFields, Value.sortFieldsFields, List.foldl_cons, List.foldl_nil, hline,
      sortFieldsItems_outcomes] <;>
    rfl

theorem reads_kind (kind : BranchKind) :
    Reads (Decoder.enumeration BranchKind.named) 0 (.string kind.name) kind :=
  Decoder.reads_enumeration kind.lookup_name

/-- A branch is read from its fields as they are written and in the order of their names, whatever
its ranges are read from. -/
theorem reads_fields {b : BranchEntry} (hb : b.Exact) {item : Location → Value}
    (hitem : ∀ l, l.Exact → Reads Location.decode 2 (item l) l) (hnull : ∀ l, item l ≠ .null)
    {es : List (String × Value)}
    (hes : es = (b.range.map fun l => ("loc", item l)).toList ++
        [("type", .string b.kind.name), ("locations", .array (b.outcomes.map item))] ++
        lineField b.line ∨
      es = lineField b.line ++ (b.range.map fun l => ("loc", item l)).toList ++
        [("locations", .array (b.outcomes.map item)), ("type", .string b.kind.name)]) :
    Reads decode 4 (.object es) b := by
  intro c hc
  obtain ⟨c', hc', horigin, hroom⟩ := Context.enter_of_room hc (by decide)
  have houtcomes : Reads (Decoder.list Location.decode) 3 (.array (b.outcomes.map item))
      b.outcomes :=
    Decoder.reads_list (List.forall₂_map_left_iff.2 (List.forall₂_same.2 fun l hl =>
      hitem l (hb.outcomes l hl)))
  have hline := fun line => (reads_line line).mono (Nat.zero_le 3) c' hroom
  have houtcomes := houtcomes c' hroom
  have hkind := (reads_kind b.kind).mono (Nat.zero_le 3) c' hroom
  have hrange := fun l h =>
    ((Decoder.reads_option (hitem l (hb.range l h)) (hnull l)).mono (Nat.le_succ 2)) c' hroom
  simp only [horigin] at hline houtcomes hkind hrange
  simp only [Json.Doc.spelled] at houtcomes hkind
  obtain ⟨range, kind, outcomes, line⟩ := b
  obtain rfl | rfl := hes <;> cases line <;> cases range <;>
    simp [decode, record, lineField, Json.Doc.spelled, Json.Doc.spelledFields,
      Decoder.Record.decode, hc', Decoder.Record.ofFields, Json.Doc.text_keyFrom, Decoder.once,
      Decoder.require, hline, houtcomes, hkind, hrange, bind, Except.bind, pure, Except.pure,
      Functor.map, Except.map]

theorem reads_toJson {b : BranchEntry} (hb : b.Exact) : Reads decode 4 b.toJson b := by
  refine reads_fields hb (fun _ => Location.reads_toJson) (fun _ => nofun) (.inl ?_)
  cases b.range <;> rfl

theorem reads_sortFields {b : BranchEntry} (hb : b.Exact) :
    Reads decode 4 b.toJson.sortFields b := by
  rw [sortFields_toJson]
  refine reads_fields hb (fun _ => Location.reads_sortFields) (fun l => ?_) (.inr ?_)
  · rw [l.sortFields_toJson]
    exact nofun
  · cases b.range <;> rfl

theorem fits_sortFields (b : BranchEntry) : b.toJson.sortFields.Fits 4 := by
  have hnames : ["line", "loc", "locations", "type"].Pairwise (· < ·) := by decide
  have houtcomes : (Value.array (b.outcomes.map fun l => l.toJson.sortFields)).Fits 3 := by
    refine ⟨by decide, Value.fitsItems_iff.2 fun v hv => ?_⟩
    obtain ⟨l, -, rfl⟩ := List.mem_map.1 hv
    exact l.fits_sortFields
  have hrange : ∀ l : Location, l.toJson.sortFields.Fits 3 :=
    fun l => l.fits_sortFields.mono (Nat.le_succ 2)
  rw [sortFields_toJson]
  refine ⟨by decide, Value.sorted_of_names hnames ?_, ?_⟩
  · cases b.line <;> cases b.range <;> simp [lineField, rangeField]
  · cases b.line <;> cases b.range <;>
      simp [lineField, rangeField, Value.FitsFields, houtcomes, hrange]
    all_goals simp [Value.Fits, Value.ofNat, Json.Number.IsInteger]

end BranchEntry

/-! ### Tables -/

namespace Table

variable {α : Type}

/-- A table is made of its entries in any order. -/
theorem ofList_of_perm {t : Table α} {l : List (Id × α)} (h : l.Perm t.entries) :
    ofList l = t := by
  have hrun : ∀ (l : List (Id × α)) (u : Table α), ((l ++ u.entries).map (·.1)).Nodup →
      (l.foldl (fun t e => t.insert e.1 e.2) u).entries.Perm (l ++ u.entries) := by
    intro l
    induction l with
    | nil => exact fun u _ => .refl _
    | cons e l ih =>
      intro u hnodup
      obtain ⟨hnot, -⟩ := List.nodup_cons.1 hnodup
      have hfresh : e.1 ∉ u.keys := by
        intro hmem
        refine hnot ?_
        obtain ⟨x, hx, heq⟩ := List.mem_map.1 hmem
        exact List.mem_map.2 ⟨x, List.mem_append_right _ hx, heq⟩
      have hperm : (l ++ (u.insert e.1 e.2).entries).Perm (e :: (l ++ u.entries)) :=
        ((entries_insert_perm hfresh).append_left l).trans List.perm_middle
      exact (ih _ ((hperm.map _).nodup_iff.2 hnodup)).trans hperm
  have hentries := hrun l empty (by
    rw [entries_empty, List.append_nil]
    exact (h.map _).nodup_iff.2 t.nodup_keys)
  rw [entries_empty, List.append_nil] at hentries
  refine Table.ext ((hentries.trans h).eq_of_pairwise ?_ (ofList l).sorted t.sorted)
  exact fun a b _ _ hab hba => absurd hba (UInt32.lt_asymm hab)

/-- What is written for a table, its fields in order: those of its entries, in the order of the
texts of their ids. -/
theorem exists_sortFields_toJson (item : α → Value) (t : Table α) :
    ∃ es : List (String × Value), (t.toJson item).sortFields = .object es ∧
      es.Perm (t.entries.map fun e => (toString e.1.toNat, (item e.2).sortFields)) ∧
      es.Pairwise fun a b => a.1 < b.1 := by
  refine ⟨_, by rw [toJson, Value.sortFields], ?_⟩
  have hmap : Value.sortFieldsFields (t.entries.map fun e => (toString e.1.toNat, item e.2)) =
      t.entries.map fun e => (toString e.1.toNat, (item e.2).sortFields) := by
    rw [Value.sortFieldsFields_eq, List.map_map]
    rfl
  rw [hmap]
  refine Value.sortedFields_spec ?_
  have hkeys : (t.entries.map fun e => (toString e.1.toNat, (item e.2).sortFields)).map (·.1) =
      t.keys.map fun id => toString id.toNat := by
    rw [keys, List.map_map, List.map_map]
    rfl
  rw [hkeys]
  refine t.nodup_keys.map fun a b h => ?_
  have ha := Decoder.numericKey_keyFrom .value a
  have hb := Decoder.numericKey_keyFrom .value b
  rw [h, hb] at ha
  exact (Except.ok.inj ha).symm

/-- A table is read from its entries in any order. -/
theorem reads_entries {item : α → Value} {decoder : Decoder α} {n : Nat} {t : Table α}
    (h : ∀ id a, t.get? id = some a → Reads decoder n (item a) a) {es : List (String × Value)}
    (hes : es.Perm (t.entries.map fun e => (toString e.1.toNat, item e.2))) :
    Reads (decode decoder) (n + 1) (.object es) t := by
  have hentries : List.Forall₂ (fun e a => e.1 = toString a.1.toNat ∧ Reads decoder n e.2 a.2)
      (t.entries.map fun e => (toString e.1.toNat, item e.2)) t.entries :=
    List.forall₂_map_left_iff.2 (List.forall₂_same.2 fun e he =>
      ⟨rfl, h e.1 e.2 (get?_eq_some_iff.2 he)⟩)
  obtain ⟨entries, hread, hentries⟩ := List.perm_comp_forall₂ hes hentries
  intro c hc
  have hfields := Decoder.reads_numbered hread c hc
  rw [decode]
  simp only [hfields, bind, Except.bind, pure, Except.pure, ofList_of_perm hentries]

theorem reads_toJson {item : α → Value} {decoder : Decoder α} {n : Nat} {t : Table α}
    (h : ∀ id a, t.get? id = some a → Reads decoder n (item a) a) :
    Reads (decode decoder) (n + 1) (t.toJson item) t :=
  reads_entries h (.refl _)

theorem reads_sortFields {item : α → Value} {decoder : Decoder α} {n : Nat} {t : Table α}
    (h : ∀ id a, t.get? id = some a → Reads decoder n (item a).sortFields a) :
    Reads (decode decoder) (n + 1) (t.toJson item).sortFields t := by
  obtain ⟨es, hes, hperm, -⟩ := exists_sortFields_toJson item t
  rw [hes]
  exact reads_entries h hperm

theorem fits_sortFields {item : α → Value} {n : Nat} {t : Table α}
    (h : ∀ id a, t.get? id = some a → (item a).sortFields.Fits n) :
    (t.toJson item).sortFields.Fits (n + 1) := by
  obtain ⟨es, hes, hperm, hsorted⟩ := exists_sortFields_toJson item t
  rw [hes]
  refine ⟨Nat.succ_pos n, hsorted, Value.fitsFields_iff.2 fun e he => ?_⟩
  obtain ⟨a, ha, rfl⟩ := List.mem_map.1 (hperm.mem_iff.1 he)
  exact h a.1 a.2 (get?_eq_some_iff.2 ha)

end Table

/-! ### Records -/

theorem sortFields_hits (counts : List UInt64) :
    (Value.array (counts.map hitsValue)).sortFields = .array (counts.map hitsValue) := by
  rw [Value.sortFields, Value.sortFieldsItems_eq, List.map_map]
  rfl

theorem reads_hits (counts : List UInt64) :
    Reads (Decoder.list Decoder.word64) 1 (Value.array (counts.map hitsValue)).sortFields counts := by
  rw [sortFields_hits]
  refine Decoder.reads_list (List.forall₂_map_left_iff.2 (List.forall₂_same.2 fun hits _ => ?_))
  exact Decoder.reads_word64 hits

theorem fits_hits (counts : List UInt64) :
    (Value.array (counts.map hitsValue)).sortFields.Fits 1 := by
  rw [sortFields_hits]
  refine ⟨Nat.one_pos, Value.fitsItems_iff.2 fun v hv => ?_⟩
  obtain ⟨hits, -, rfl⟩ := List.mem_map.1 hv
  trivial

namespace FileRecord

/-- All columns of a record are read back. -/
structure Exact (r : FileRecord) : Prop where
  statements : ∀ id l, r.statements.get? id = some l → l.Exact
  functions : ∀ id f, r.functions.get? id = some f → f.Exact
  branches : ∀ id b, r.branches.get? id = some b → b.Exact

end FileRecord

end Coverage
