import Coverage.Proofs.FileRecord.Accepted

/-!
# Records read back from their texts

The text of a record is read as that record if the record is valid, its columns are held exactly by
binary64 values, and its source map is no `null`, has whole numbers only and leaves room for one
more level of nesting (`FileRecord.ofText_text`). Every record that is read from some text is of
this kind, real numbers in its source map apart (`FileRecord.ofText_roundTrip`).
-/

namespace Coverage

open Coverage.Json (Value Decoder Context)
open Coverage.Json.Decoder (Reads)

/-! ### Fields that may be left out -/

theorem plain_flagField (n : Nat) (name : String) (flag : Bool) :
    ∀ e ∈ flagField name flag, e.2.Plain n := by
  cases flag with
  | false => exact nofun
  | true => exact List.forall_mem_singleton.2 (Value.plain_bool n true)

theorem plain_lineField (n : Nat) (line : Option UInt32) : ∀ e ∈ lineField line, e.2.Plain n := by
  cases line with
  | none => exact nofun
  | some line => exact List.forall_mem_singleton.2 (Value.plain_natural n _)

/-! ### Positions and ranges -/

namespace Position

theorem plain_toJson (p : Position) : p.toJson.Plain 1 := by
  refine Value.plain_object ?_
  simp [Value.ofNat, Value.plain_natural, (fits_column p.column).plain]

end Position

namespace Location

theorem plain_toJson (l : Location) : l.toJson.Plain 2 := by
  refine Value.plain_object (List.forall_mem_append.2 ⟨?_, plain_flagField 1 _ _⟩)
  simp [Position.plain_toJson]

end Location

/-! ### Functions and branches -/

namespace FunctionEntry

theorem plain_toJson (f : FunctionEntry) : f.toJson.Plain 3 := by
  refine Value.plain_object ?_
  rw [List.forall_mem_append, List.forall_mem_append]
  refine ⟨⟨?_, plain_lineField 2 _⟩, plain_flagField 2 _ _⟩
  simp [Value.plain_string, Location.plain_toJson]

end FunctionEntry

namespace BranchEntry

theorem plain_toJson (b : BranchEntry) : b.toJson.Plain 4 := by
  refine Value.plain_object ?_
  rw [List.forall_mem_append, List.forall_mem_append]
  refine ⟨⟨?_, ?_⟩, plain_lineField 3 _⟩
  · cases b.range with
    | none => exact nofun
    | some l => exact List.forall_mem_singleton.2 (l.plain_toJson.mono (Nat.le_succ 2))
  · have houtcomes : (Value.array (b.outcomes.map Location.toJson)).Plain 3 :=
      Value.plain_array (List.forall_mem_map.2 fun l _ => l.plain_toJson)
    simp [Value.plain_string, houtcomes]

end BranchEntry

/-! ### Tables -/

namespace Table

variable {α : Type}

theorem plain_toJson {item : α → Value} {n : Nat} (t : Table α) (h : ∀ a, (item a).Plain n) :
    (t.toJson item).Plain (n + 1) :=
  Value.plain_object (List.forall_mem_map.2 fun e _ => h e.2)

end Table

theorem plain_hits (counts : List UInt64) : (Value.array (counts.map hitsValue)).Plain 1 :=
  Value.plain_array (List.forall_mem_map.2 fun hits _ => Value.plain_natural 0 hits)

theorem reads_toJson_hits (t : Table UInt64) :
    Reads (Table.decode Decoder.word64) 1 (t.toJson hitsValue) t :=
  Table.reads_toJson fun _ hits _ => Decoder.reads_word64 hits

theorem reads_toJson_outcomeHits (t : Table (List UInt64)) :
    Reads (Table.decode (Decoder.list Decoder.word64)) 2
      (t.toJson fun counts => .array (counts.map hitsValue)) t :=
  Table.reads_toJson fun _ counts _ => sortFields_hits counts ▸ reads_hits counts

theorem reads_sortFields_hits (t : Table UInt64) :
    Reads (Table.decode Decoder.word64) 1 (t.toJson hitsValue).sortFields t :=
  Table.reads_sortFields fun _ hits _ => Decoder.reads_word64 hits

theorem reads_sortFields_outcomeHits (t : Table (List UInt64)) :
    Reads (Table.decode (Decoder.list Decoder.word64)) 2
      (t.toJson fun counts => .array (counts.map hitsValue)).sortFields t :=
  Table.reads_sortFields fun _ counts _ => reads_hits counts

/-! ### Records -/

namespace FileRecord

/-- A record that can be read back: it is valid, binary64 values hold its columns, and its source
map is no `null`, has whole numbers only and nests at most `n` levels deep. -/
structure Portable (n : Nat) (r : FileRecord) : Prop where
  valid : r.validate = .ok ()
  exact : r.Exact
  sourceMap : ∀ v, r.sourceMap = some v → v ≠ .null ∧ v.Fits n

variable {r : FileRecord} {n : Nat}

theorem plain_toJson (h : r.Portable n) (hn : 5 ≤ n) : r.toJson.Plain (n + 1) := by
  have hstatements := r.statements.plain_toJson Location.plain_toJson
  have hfunctions := r.functions.plain_toJson FunctionEntry.plain_toJson
  have hbranches := r.branches.plain_toJson BranchEntry.plain_toJson
  have hhits := fun t : Table UInt64 => t.plain_toJson (Value.plain_natural 0)
  have houtcomes := r.branchHits.plain_toJson plain_hits
  refine Value.plain_object ?_
  rw [List.forall_mem_append, List.forall_mem_append]
  refine ⟨⟨?_, plain_flagField n _ _⟩, ?_⟩
  · simp only [List.forall_mem_cons, List.not_mem_nil, false_implies, implies_true, and_true]
    exact ⟨Value.plain_string n _, hstatements.mono (by omega), hfunctions.mono (by omega),
      hbranches.mono (by omega), (hhits _).mono (by omega), (hhits _).mono (by omega),
      houtcomes.mono (by omega)⟩
  · cases hmap : r.sourceMap with
    | none => exact nofun
    | some v => exact List.forall_mem_singleton.2 (h.sourceMap v hmap).2.plain

/-- What is written for the source map of a record, its fields in order. -/
def sortedSourceMap : Option Value → List (String × Value)
  | some v => [("inputSourceMap", v.sortFields)]
  | none => []

theorem sortFields_toJson (r : FileRecord) :
    r.toJson.sortFields = .object (flagField "all" r.unexecuted ++
      [("b", (r.branchHits.toJson fun counts => .array (counts.map hitsValue)).sortFields),
        ("branchMap", (r.branches.toJson BranchEntry.toJson).sortFields),
        ("f", (r.functionHits.toJson hitsValue).sortFields),
        ("fnMap", (r.functions.toJson FunctionEntry.toJson).sortFields)] ++
      sortedSourceMap r.sourceMap ++
      [("path", .string r.path), ("s", (r.statementHits.toJson hitsValue).sortFields),
        ("statementMap", (r.statements.toJson Location.toJson).sortFields)]) := by
  rw [toJson]
  cases r.unexecuted <;> cases r.sourceMap <;>
    simp only [flagField, sortedSourceMap, Bool.false_eq_true, if_false, if_true, List.append_nil,
      List.cons_append, List.nil_append, Value.sortFields, Value.sortFieldsFields, List.foldl_cons,
      List.foldl_nil] <;>
    rfl

/-- What is written for the parts of a record, each put into the form `w`, is read back. -/
structure Restored (w : Value → Value) (n : Nat) (r : FileRecord) : Prop where
  statements :
    Reads (Table.decode Location.decode) n (w (r.statements.toJson Location.toJson)) r.statements
  functions : Reads (Table.decode FunctionEntry.decode) n
    (w (r.functions.toJson FunctionEntry.toJson)) r.functions
  branches : Reads (Table.decode BranchEntry.decode) n
    (w (r.branches.toJson BranchEntry.toJson)) r.branches
  hits : ∀ t : Table UInt64, Reads (Table.decode Decoder.word64) n (w (t.toJson hitsValue)) t
  outcomeHits : Reads (Table.decode (Decoder.list Decoder.word64)) n
    (w (r.branchHits.toJson fun counts => .array (counts.map hitsValue))) r.branchHits
  sourceMap : ∀ v, r.sourceMap = some v →
    Reads (Decoder.option Decoder.value) n (w v) (some v)

theorem restored_toJson (h : r.Portable n) (hn : 5 ≤ n) : r.Restored id n where
  statements := (Table.reads_toJson fun id l hl =>
    Location.reads_toJson (h.exact.statements id l hl)).mono (by omega)
  functions := (Table.reads_toJson fun id f hf =>
    FunctionEntry.reads_toJson (h.exact.functions id f hf)).mono (by omega)
  branches := (Table.reads_toJson fun id b hb =>
    BranchEntry.reads_toJson (h.exact.branches id b hb)).mono hn
  hits t := (reads_toJson_hits t).mono (by omega)
  outcomeHits := (reads_toJson_outcomeHits r.branchHits).mono (by omega)
  sourceMap v hv := by
    obtain ⟨hne, hfits⟩ := h.sourceMap v hv
    exact Decoder.reads_option (Decoder.reads_value hfits) hne

theorem restored_sortFields (h : r.Portable n) (hn : 5 ≤ n) : r.Restored Value.sortFields n where
  statements := (Table.reads_sortFields fun id l hl =>
    Location.reads_sortFields (h.exact.statements id l hl)).mono (by omega)
  functions := (Table.reads_sortFields fun id f hf =>
    FunctionEntry.reads_sortFields (h.exact.functions id f hf)).mono (by omega)
  branches := (Table.reads_sortFields fun id b hb =>
    BranchEntry.reads_sortFields (h.exact.branches id b hb)).mono hn
  hits t := (reads_sortFields_hits t).mono (by omega)
  outcomeHits := (reads_sortFields_outcomeHits r.branchHits).mono (by omega)
  sourceMap v hv := by
    obtain ⟨hne, hfits⟩ := h.sourceMap v hv
    rw [Value.sortFields_of_fits hfits]
    exact Decoder.reads_option (Decoder.reads_value hfits) hne

/-- A record is read from its fields as they are written and in the order of their names. -/
theorem reads_fields {w : Value → Value} (hvalid : r.validate = .ok ()) (hw : r.Restored w n)
    {es : List (String × Value)}
    (hes : es = [("path", .string r.path),
          ("statementMap", w (r.statements.toJson Location.toJson)),
          ("fnMap", w (r.functions.toJson FunctionEntry.toJson)),
          ("branchMap", w (r.branches.toJson BranchEntry.toJson)),
          ("s", w (r.statementHits.toJson hitsValue)), ("f", w (r.functionHits.toJson hitsValue)),
          ("b", w (r.branchHits.toJson fun counts => .array (counts.map hitsValue)))] ++
        flagField "all" r.unexecuted ++ (r.sourceMap.map fun v => ("inputSourceMap", w v)).toList ∨
      es = flagField "all" r.unexecuted ++
        [("b", w (r.branchHits.toJson fun counts => .array (counts.map hitsValue))),
          ("branchMap", w (r.branches.toJson BranchEntry.toJson)),
          ("f", w (r.functionHits.toJson hitsValue)),
          ("fnMap", w (r.functions.toJson FunctionEntry.toJson))] ++
        (r.sourceMap.map fun v => ("inputSourceMap", w v)).toList ++
        [("path", .string r.path), ("s", w (r.statementHits.toJson hitsValue)),
          ("statementMap", w (r.statements.toJson Location.toJson))]) :
    Reads decode (n + 1) (.object es) r := by
  intro c hc
  obtain ⟨c', hc', horigin, hroom⟩ := Context.enter_of_room hc (Nat.succ_pos n)
  have hstatements := hw.statements c' hroom
  have hfunctions := hw.functions c' hroom
  have hbranches := hw.branches c' hroom
  have hhits := fun t => hw.hits t c' hroom
  have houtcomes := hw.outcomeHits c' hroom
  have hmap := fun v hv => hw.sourceMap v hv c' hroom
  simp only [horigin] at hstatements hfunctions hbranches hhits houtcomes hmap
  obtain ⟨path, statements, functions, branches, hits, calls, outcomes, unexecuted, map⟩ := r
  obtain rfl | rfl := hes <;> cases unexecuted <;> cases map <;>
    simp [decode, record, flagField, Json.Doc.spelled, Json.Doc.spelledFields,
      Decoder.Record.decode, hc', Decoder.Record.ofFields, Json.Doc.text_keyFrom, Decoder.once,
      Decoder.require, Decoder.string, Decoder.bool, hstatements, hfunctions, hbranches, hhits,
      houtcomes, hmap, hvalid, bind, Except.bind, pure, Except.pure, Functor.map, Except.map]

theorem reads_toJson (h : r.Portable n) (hn : 5 ≤ n) : Reads decode (n + 1) r.toJson r := by
  refine reads_fields h.valid (restored_toJson h hn) (.inl ?_)
  cases r.sourceMap <;> rfl

theorem reads_sortFields (h : r.Portable n) (hn : 5 ≤ n) :
    Reads decode (n + 1) r.toJson.sortFields r := by
  rw [sortFields_toJson]
  refine reads_fields h.valid (restored_sortFields h hn) (.inr ?_)
  cases r.sourceMap <;> rfl

/-- A record is read back from its text. -/
theorem ofText_text (h : r.Portable 126) : ofText r.text = .ok r := by
  have hread := reads_toJson h (by decide) .ofText Json.Context.room_ofText
  have hrun : Decoder.ofText decode r.text = .ok r :=
    Decoder.ofText_compact (plain_toJson h (by decide)).whole hread
  rw [ofText, hrun]
  rfl

/-! ### Records that were read -/

/-- A record that was accepted can be read back unless there are real numbers in its source map. -/
theorem Accepted.portable (h : r.Accepted n)
    (hreals : ∀ v, r.sourceMap = some v → v.NoReals) : r.Portable n where
  valid := h.valid
  exact := h.exact
  sourceMap v hv := by
    obtain ⟨hne, hordered, hproper⟩ := h.sourceMap v hv
    exact ⟨hne, hordered.fits ((hreals v hv).whole hproper)⟩

theorem accepted_of_ofText {text : String} (h : ofText text = .ok r) : r.Accepted 126 := by
  rw [ofText] at h
  cases hrun : Decoder.ofText decode text with
  | error e =>
    rw [hrun] at h
    cases h
  | ok r' =>
    rw [hrun] at h
    cases h
    exact (yields_decode (by decide)).ofText hrun

/-- A record that can be read back is read back from its text. Whatever text a record is read from,
it is one of these, real numbers in its source map apart, and its own text is then read as the same
record again. -/
theorem ofText_roundTrip :
    (∀ r : FileRecord, r.Portable 126 → ofText r.text = .ok r) ∧
    ∀ (text : String) (r : FileRecord), ofText text = .ok r →
      r.validate = .ok () ∧ r.Exact ∧
      (∀ v, r.sourceMap = some v → v ≠ .null ∧ v.Ordered 126) ∧
      ((∀ v, r.sourceMap = some v → v.NoReals) → r.Portable 126 ∧ ofText r.text = .ok r) := by
  refine ⟨fun r => ofText_text, fun text r h => ?_⟩
  have haccepted := accepted_of_ofText h
  refine ⟨haccepted.valid, haccepted.exact, fun v hv => ?_, fun hreals => ?_⟩
  · obtain ⟨hne, hordered, -⟩ := haccepted.sourceMap v hv
    exact ⟨hne, hordered⟩
  · have hportable := haccepted.portable hreals
    exact ⟨hportable, ofText_text hportable⟩

/-- A record by position, with a column that has a fraction of zero, one that is unbounded, and a
source map whose fields are not in order. -/
def positional : String :=
  "[\"a.js\",\x7b\"0\":[[1,2.0],[1,null]]\x7d,\x7b\x7d,\x7b\x7d," ++
    "\x7b\"0\":3\x7d,\x7b\x7d,\x7b\x7d,true,\x7b\"b\":1,\"a\":[-2]\x7d]"

/-- What `positional` stands for. -/
def positionalRecord : FileRecord :=
  { FileRecord.empty "a.js" with
    statements := Table.empty.insert 0 ⟨⟨1, 2⟩, ⟨1, unboundedColumn⟩, false⟩
    statementHits := Table.empty.insert 0 3
    unexecuted := true
    sourceMap := some (.object [("a", .array [.number (.negative (-2))]), ("b", .ofNat 1)]) }

theorem ofText_roundTrip_positional :
    ofText positional = .ok positionalRecord ∧ positionalRecord.text ≠ positional ∧
      positionalRecord.Portable 126 ∧ ofText positionalRecord.text = .ok positionalRecord := by
  have hread : ofText positional = .ok positionalRecord := by
    have hsome : (ofText positional).toOption = some positionalRecord := by decide +kernel
    cases h : ofText positional with
    | error e =>
      rw [h] at hsome
      cases hsome
    | ok r =>
      rw [h] at hsome
      exact congrArg _ (Option.some.inj hsome)
  have hreals : ∀ v, positionalRecord.sourceMap = some v → v.NoReals := by
    rintro _ ⟨⟩ x hx
    simp [Value.numbers, Value.numbersFields, Value.numbersItems, Value.ofNat] at hx
  obtain ⟨-, -, -, hagain⟩ := ofText_roundTrip.2 positional positionalRecord hread
  obtain ⟨hportable, -⟩ := hagain hreals
  exact ⟨hread, by decide +kernel, hportable, ofText_roundTrip.1 positionalRecord hportable⟩

end FileRecord

end Coverage
