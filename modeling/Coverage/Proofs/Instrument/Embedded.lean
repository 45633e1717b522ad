import Coverage.Instrument.Embedded
import Coverage.Proofs.FileRecord.RoundTrip

/-!
# Coverage objects read back

The coverage object that a registration writes is read back as the record that it was made from,
with its hash, whichever way it is laid out (`Embedded.ofText?_data`).
-/

namespace Coverage.Instrument

open Coverage.Json (Value Decoder)
open Coverage.Json.Decoder (Reads)

/-- A record that can be read back from the coverage object that is written for it. -/
structure Embeddable (r : FileRecord) : Prop where
  path : r.path.isEmpty = false
  sound : r.Sound
  exact : r.Exact
  sourceMap : ∀ v, r.sourceMap = some v → v ≠ .null ∧ v.Fits 126

/-- What is written for the source map of a record. -/
def sourceMapField : Option Value → List (String × Value)
  | some v => [("inputSourceMap", v.sortFields)]
  | none => []

/-- The fields of a coverage object with its hash, in the order of their names. -/
def coverageFields (r : FileRecord) (hash : String) : List (String × Value) :=
  (schemaField, .string schema) :: flagField "all" r.unexecuted ++
    [("b", (r.branchHits.toJson fun counts => .array (counts.map hitsValue)).sortFields),
      ("branchMap", (r.branches.toJson BranchEntry.toJson).sortFields),
      ("f", (r.functionHits.toJson hitsValue).sortFields),
      ("fnMap", (r.functions.toJson FunctionEntry.toJson).sortFields),
      (hashField, .string hash)] ++ sourceMapField r.sourceMap ++
    [("path", .string r.path), ("s", (r.statementHits.toJson hitsValue).sortFields),
      ("statementMap", (r.statements.toJson Location.toJson).sortFields)]

theorem coverageData_eq (r : FileRecord) :
    coverageData r = .object (coverageFields r (dataHash r)) := by
  generalize hhash : dataHash r = hash
  rw [coverageData, hhash, dataFields, FileRecord.toJson]
  cases hall : r.unexecuted <;> cases hmap : r.sourceMap <;>
    simp only [flagField, coverageFields, hall, hmap, sourceMapField, Bool.false_eq_true, if_false,
      if_true, List.append_nil, List.cons_append, List.nil_append, Value.sortFields,
      Value.sortFieldsFields, List.foldl_cons, List.foldl_nil] <;>
    rfl

variable {r : FileRecord}

theorem fits_hitsTable (t : Table UInt64) : (t.toJson hitsValue).sortFields.Fits 126 :=
  (Table.fits_sortFields fun _ _ _ => trivial : (t.toJson hitsValue).sortFields.Fits 1).mono
    (by decide)

theorem fits_coverageFields (hr : Embeddable r) (hash : String) :
    (Value.object (coverageFields r hash)).Fits 127 := by
  have hnames : [schemaField, "all", "b", "branchMap", "f", "fnMap", hashField, "inputSourceMap",
      "path", "s", "statementMap"].Pairwise (· < ·) := by decide
  have hb : (r.branchHits.toJson fun counts => .array (counts.map hitsValue)).sortFields.Fits 126 :=
    (Table.fits_sortFields fun _ counts _ => fits_hits counts).mono (by decide)
  have hbranches : (r.branches.toJson BranchEntry.toJson).sortFields.Fits 126 :=
    (Table.fits_sortFields fun _ b _ => b.fits_sortFields).mono (by decide)
  have hfunctions : (r.functions.toJson FunctionEntry.toJson).sortFields.Fits 126 :=
    (Table.fits_sortFields fun _ f _ => f.fits_sortFields).mono (by decide)
  have hstatements : (r.statements.toJson Location.toJson).sortFields.Fits 126 :=
    (Table.fits_sortFields fun _ l _ => l.fits_sortFields).mono (by decide)
  have hf := fits_hitsTable r.functionHits
  have hs := fits_hitsTable r.statementHits
  have hmap : ∀ v, r.sourceMap = some v → v.sortFields.Fits 126 := by
    intro v hv
    have hfits := (hr.sourceMap v hv).2
    rwa [Value.sortFields_of_fits hfits]
  refine ⟨by decide, Value.sorted_of_names hnames ?_, Value.fitsFields_iff.2 ?_⟩
  · rw [coverageFields]
    cases r.unexecuted <;> cases r.sourceMap <;> simp [flagField, sourceMapField]
  · rw [coverageFields]
    cases r.unexecuted <;> cases hv : r.sourceMap <;>
      simp [flagField, sourceMapField, hb, hbranches, hf, hfunctions, hs, hstatements, hmap, hv,
        Value.Fits]

theorem Embeddable.portable (hr : Embeddable r) : r.Portable 126 where
  valid := FileRecord.validate_eq_ok_iff.2 ⟨hr.path, hr.sound⟩
  exact := hr.exact
  sourceMap := hr.sourceMap

/-- The schema and the hash are not fields of a record; the other fields are those of the record, in
order. -/
theorem filter_coverageFields (r : FileRecord) (hash : String) :
    .object ((coverageFields r hash).filter fun e => (FileRecord.record.read e.1).isSome) =
      r.toJson.sortFields := by
  rw [FileRecord.sortFields_toJson, coverageFields]
  cases r.unexecuted <;> cases r.sourceMap <;> rfl

theorem reads_coverageFields (hr : Embeddable r) (hash : String) :
    Reads FileRecord.decode 127 (.object (coverageFields r hash)) r := by
  intro c hc
  have hread := FileRecord.reads_sortFields hr.portable (by decide) c hc
  rw [← filter_coverageFields r hash] at hread
  rw [FileRecord.decode] at hread ⊢
  rw [Decoder.Record.decode_known]
  exact hread

/-- A coverage object is read back as the record that it was made from, with its hash. -/
theorem Embedded.ofText?_data (hr : Embeddable r) {text : String}
    (htext : text = (coverageData r).compact ∨ text = (coverageData r).pretty) :
    Embedded.ofText? text = some ⟨r, dataHash r⟩ := by
  have hfits := fits_coverageFields hr (dataHash r)
  have hread := (reads_coverageFields hr (dataHash r)).ofValue
  have hvalue : Value.ofText text = .ok (.object (coverageFields r (dataHash r))) := by
    rw [coverageData_eq] at htext
    rcases htext with rfl | rfl
    · exact Value.ofText_compact hfits
    · exact Value.ofText_pretty hfits
  have hrecord : FileRecord.ofValue (.object (coverageFields r (dataHash r))) = .ok r := by
    rw [FileRecord.ofValue, hread]
    rfl
  have hmarker : textField? schemaField (.object (coverageFields r (dataHash r))) = some schema := rfl
  have hhash : textField? hashField (.object (coverageFields r (dataHash r))) =
      some (dataHash r) := by
    generalize dataHash r = hash
    rw [textField?, Value.field?, coverageFields]
    cases r.unexecuted <;> rfl
  simp only [Embedded.ofText?, hvalue, hrecord, hmarker, hhash, Except.toOption, ne_eq,
    not_true_eq_false, if_false, bind, Option.bind, pure]

end Coverage.Instrument
