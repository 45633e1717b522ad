import Coverage.Proofs.FileRecord.Json
import Coverage.Proofs.Json.Yielding

/-!
# What a text is accepted as

Whatever text a record is read from, the record is valid, each of its columns is unbounded or held
exactly by a binary64 value, and its source map is no `null`, has its fields in order and leaves
room for the level that it stands at (`FileRecord.yields_decode`).
-/

namespace Coverage

open Coverage.Decimal (Binary64 IsExact)
open Coverage.Json (Decoder exists_of_bind_eq_ok)
open Coverage.Json.Decoder (Yields exists_of_once eq_some_of_require)

/-! ### Positions and ranges -/

namespace Position

theorem yields_real (n : Nat) : Yields Decoder.real n fun x => x.mantissa < 2 ^ 53 := by
  intro c d x _ hd hrun
  rw [Json.Decoder.real.eq_def] at hrun
  split at hrun
  · obtain ⟨k, hk, hrun⟩ := exists_of_bind_eq_ok hrun
    subst hk
    have hproper := hd k (List.mem_singleton_self k)
    cases k <;> cases hrun
    · exact Binary64.mantissa_ofNat _
    · exact Binary64.mantissa_ofNat _
    · exact hproper
  · obtain ⟨_, _, hrun⟩ := exists_of_bind_eq_ok hrun
    cases hrun

theorem exact_columnOf {n : Int} (h : IsExact n.natAbs) :
    columnOf n = unboundedColumn ∨ IsExact (columnOf n).toInt.natAbs := by
  have hmin : Int64.minValue.toInt = -2 ^ 63 := by decide
  have hmax : Int64.maxValue.toInt = 2 ^ 63 - 1 := by decide
  rw [columnOf]
  split
  · exact .inr ⟨1, 63, by decide, by decide⟩
  split
  · exact .inl rfl
  · rw [Int64.toInt_ofInt_of_le (by omega) (by omega)]
    exact .inr h

theorem yields_column (n : Nat) : Yields decodeColumn n fun column =>
    column = unboundedColumn ∨ IsExact column.toInt.natAbs := by
  intro c d column hc hd hrun
  obtain ⟨o, ho, hrun⟩ := exists_of_bind_eq_ok hrun
  have hreal := (yields_real n).option c d o hc hd ho
  cases o with
  | none =>
    cases hrun
    exact .inl rfl
  | some x =>
    dsimp only at hrun
    split at hrun
    · cases hrun
      exact exact_columnOf (Binary64.isExact_truncate (hreal x rfl))
    · cases hrun

theorem keeps_record (n : Nat) : record.Keeps n fun s => ∀ column, s.column = some column →
    column = unboundedColumn ∨ IsExact column.toInt.natAbs := by
  intro name field hfield c d s t hc hd hs hrun
  simp only [record] at hfield
  split at hfield <;> cases hfield <;> obtain ⟨a, ha, rfl⟩ := exists_of_once hrun
  · exact hs
  · rintro _ ⟨⟩
    exact yields_column n c d a hc hd ha

theorem yields_decode (n : Nat) : Yields decode (n + 1) Exact := by
  intro c d p hc hd hrun
  obtain ⟨s, hs, hrun⟩ := exists_of_bind_eq_ok hrun
  obtain ⟨line, _, hrun⟩ := exists_of_bind_eq_ok hrun
  obtain ⟨column, hcolumn, hrun⟩ := exists_of_bind_eq_ok hrun
  cases hrun
  exact (keeps_record n).decode (by rintro _ ⟨⟩) c d s hc hd hs column (eq_some_of_require hcolumn)

end Position

namespace Location

theorem keeps_record (n : Nat) : record.Keeps (n + 1) fun s =>
    (∀ p, s.start = some p → p.Exact) ∧ ∀ p, s.stop = some p → p.Exact := by
  intro name field hfield c d s t hc hd hs hrun
  simp only [record] at hfield
  split at hfield <;> cases hfield <;> obtain ⟨a, ha, rfl⟩ := exists_of_once hrun
  · refine ⟨?_, hs.2⟩
    rintro _ ⟨⟩
    exact Position.yields_decode n c d a hc hd ha
  · refine ⟨hs.1, ?_⟩
    rintro _ ⟨⟩
    exact Position.yields_decode n c d a hc hd ha
  · exact hs

theorem yields_decode (n : Nat) : Yields decode (n + 2) Exact := by
  intro c d l hc hd hrun
  obtain ⟨s, hs, hrun⟩ := exists_of_bind_eq_ok hrun
  obtain ⟨start, hstart, hrun⟩ := exists_of_bind_eq_ok hrun
  obtain ⟨stop, hstop, hrun⟩ := exists_of_bind_eq_ok hrun
  cases hrun
  have hexact := (keeps_record n).decode ⟨by rintro _ ⟨⟩, by rintro _ ⟨⟩⟩ c d s hc hd hs
  exact ⟨hexact.1 start (eq_some_of_require hstart), hexact.2 stop (eq_some_of_require hstop)⟩

end Location

/-! ### Functions and branches -/

namespace FunctionEntry

theorem keeps_record (n : Nat) : record.Keeps (n + 2) fun s =>
    (∀ l, s.decl = some l → l.Exact) ∧ ∀ l, s.body = some l → l.Exact := by
  intro name field hfield c d s t hc hd hs hrun
  simp only [record] at hfield
  split at hfield <;> cases hfield <;> obtain ⟨a, ha, rfl⟩ := exists_of_once hrun
  · exact hs
  · refine ⟨?_, hs.2⟩
    rintro _ ⟨⟩
    exact Location.yields_decode n c d a hc hd ha
  · refine ⟨hs.1, ?_⟩
    rintro _ ⟨⟩
    exact Location.yields_decode n c d a hc hd ha
  · exact hs
  · exact hs

theorem yields_decode (n : Nat) : Yields decode (n + 3) Exact := by
  intro c d f hc hd hrun
  obtain ⟨s, hs, hrun⟩ := exists_of_bind_eq_ok hrun
  obtain ⟨name, _, hrun⟩ := exists_of_bind_eq_ok hrun
  obtain ⟨decl, hdecl, hrun⟩ := exists_of_bind_eq_ok hrun
  obtain ⟨body, hbody, hrun⟩ := exists_of_bind_eq_ok hrun
  cases hrun
  have hexact := (keeps_record n).decode ⟨by rintro _ ⟨⟩, by rintro _ ⟨⟩⟩ c d s hc hd hs
  exact ⟨hexact.1 decl (eq_some_of_require hdecl), hexact.2 body (eq_some_of_require hbody)⟩

end FunctionEntry

namespace BranchEntry

theorem keeps_record (n : Nat) : record.Keeps (n + 3) fun s =>
    (∀ l, s.range = some (some l) → l.Exact) ∧
      ∀ ls, s.outcomes = some ls → ∀ l ∈ ls, l.Exact := by
  intro name field hfield c d s t hc hd hs hrun
  simp only [record] at hfield
  split at hfield <;> cases hfield <;> obtain ⟨a, ha, rfl⟩ := exists_of_once hrun
  · refine ⟨?_, hs.2⟩
    rintro l ⟨⟩
    exact (Location.yields_decode (n + 1)).option c d _ hc hd ha l rfl
  · exact hs
  · refine ⟨hs.1, ?_⟩
    rintro _ ⟨⟩
    exact (Location.yields_decode n).list c d a hc hd ha
  · exact hs

theorem yields_decode (n : Nat) : Yields decode (n + 4) Exact := by
  intro c d b hc hd hrun
  obtain ⟨s, hs, hrun⟩ := exists_of_bind_eq_ok hrun
  obtain ⟨kind, _, hrun⟩ := exists_of_bind_eq_ok hrun
  obtain ⟨outcomes, houtcomes, hrun⟩ := exists_of_bind_eq_ok hrun
  cases hrun
  have hexact := (keeps_record n).decode ⟨by rintro _ ⟨⟩, by rintro _ ⟨⟩⟩ c d s hc hd hs
  refine ⟨fun l hl => hexact.1 l ?_, hexact.2 outcomes (eq_some_of_require houtcomes)⟩
  exact Option.join_eq_some_iff.1 hl

end BranchEntry

/-! ### Tables and records -/

namespace Table

variable {α : Type} {P : α → Prop}

theorem mem_of_get?_ofList {l : List (Id × α)} {id : Id} {a : α}
    (h : (ofList l).get? id = some a) : (id, a) ∈ l := by
  have hrun : ∀ (l : List (Id × α)) (t : Table α),
      ∀ e ∈ (l.foldl (fun t e => t.insert e.1 e.2) t).entries, e ∈ l ∨ e ∈ t.entries := by
    intro l
    induction l with
    | nil => exact fun _ _ he => .inr he
    | cons x l ih =>
      intro t e he
      rcases ih _ e he with he | he
      · exact .inl (List.mem_cons_of_mem _ he)
      · rcases mem_put he with rfl | he
        · exact .inl List.mem_cons_self
        · exact .inr he
  exact (hrun l empty _ (get?_eq_some_iff.1 h)).resolve_right nofun

theorem yields_decode {item : Decoder α} {n : Nat} (h : Yields item n P) :
    Yields (decode item) (n + 1) fun t => ∀ id a, t.get? id = some a → P a := by
  intro c d t hc hd hrun id a ha
  obtain ⟨es, hes, hrun⟩ := exists_of_bind_eq_ok hrun
  cases hrun
  exact h.numbered c d es hc hd hes _ (mem_of_get?_ofList ha)

end Table

namespace FileRecord

/-- What is known of the fields of a record that have been read. -/
structure Fields.Exact (s : Fields) (n : Nat) : Prop where
  statements : ∀ t, s.statements = some t → ∀ id l, t.get? id = some l → l.Exact
  functions : ∀ t, s.functions = some t → ∀ id f, t.get? id = some f → f.Exact
  branches : ∀ t, s.branches = some t → ∀ id b, t.get? id = some b → b.Exact
  sourceMap : ∀ v, s.sourceMap = some (some v) →
    v ≠ .null ∧ v.Ordered n ∧ ∀ k ∈ v.numbers, k.Proper

theorem keeps_record {n : Nat} (hn : 5 ≤ n) : record.Keeps n fun s => s.Exact n := by
  obtain ⟨m, rfl⟩ : ∃ m, n = m + 5 := ⟨n - 5, by omega⟩
  intro name field hfield c d s t hc hd hs hrun
  simp only [record] at hfield
  split at hfield <;> cases hfield <;> obtain ⟨a, ha, rfl⟩ := exists_of_once hrun
  · exact ⟨hs.statements, hs.functions, hs.branches, hs.sourceMap⟩
  · refine ⟨?_, hs.functions, hs.branches, hs.sourceMap⟩
    rintro _ ⟨⟩
    exact Table.yields_decode (Location.yields_decode (m + 2)) c d a hc hd ha
  · refine ⟨hs.statements, ?_, hs.branches, hs.sourceMap⟩
    rintro _ ⟨⟩
    exact Table.yields_decode (FunctionEntry.yields_decode (m + 1)) c d a hc hd ha
  · refine ⟨hs.statements, hs.functions, ?_, hs.sourceMap⟩
    rintro _ ⟨⟩
    exact Table.yields_decode (BranchEntry.yields_decode m) c d a hc hd ha
  · exact ⟨hs.statements, hs.functions, hs.branches, hs.sourceMap⟩
  · exact ⟨hs.statements, hs.functions, hs.branches, hs.sourceMap⟩
  · exact ⟨hs.statements, hs.functions, hs.branches, hs.sourceMap⟩
  · exact ⟨hs.statements, hs.functions, hs.branches, hs.sourceMap⟩
  · refine ⟨hs.statements, hs.functions, hs.branches, ?_⟩
    rintro v ⟨⟩
    exact Decoder.yields_option_value _ c d _ hc hd ha v rfl

/-- What a record is like that is read from a text with room for `n` more levels inside it. -/
structure Accepted (n : Nat) (r : FileRecord) : Prop where
  valid : r.validate = .ok ()
  exact : r.Exact
  sourceMap : ∀ v, r.sourceMap = some v →
    v ≠ .null ∧ v.Ordered n ∧ ∀ k ∈ v.numbers, k.Proper

theorem yields_decode {n : Nat} (hn : 5 ≤ n) : Yields decode (n + 1) (Accepted n) := by
  intro c d r hc hd hrun
  obtain ⟨s, hs, hrun⟩ := exists_of_bind_eq_ok hrun
  obtain ⟨path, _, hrun⟩ := exists_of_bind_eq_ok hrun
  obtain ⟨statements, hstatements, hrun⟩ := exists_of_bind_eq_ok hrun
  obtain ⟨functions, hfunctions, hrun⟩ := exists_of_bind_eq_ok hrun
  obtain ⟨branches, hbranches, hrun⟩ := exists_of_bind_eq_ok hrun
  obtain ⟨statementHits, _, hrun⟩ := exists_of_bind_eq_ok hrun
  obtain ⟨functionHits, _, hrun⟩ := exists_of_bind_eq_ok hrun
  obtain ⟨branchHits, _, hrun⟩ := exists_of_bind_eq_ok hrun
  have hexact := (keeps_record hn).decode
    ⟨by rintro _ ⟨⟩, by rintro _ ⟨⟩, by rintro _ ⟨⟩, by rintro _ ⟨⟩⟩ c d s hc hd hs
  dsimp only at hrun
  split at hrun
  · next hvalid =>
    cases hrun
    exact
      { valid := hvalid
        exact := ⟨hexact.statements _ (eq_some_of_require hstatements),
          hexact.functions _ (eq_some_of_require hfunctions),
          hexact.branches _ (eq_some_of_require hbranches)⟩
        sourceMap := fun v hv => hexact.sourceMap v (Option.join_eq_some_iff.1 hv) }
  · cases hrun

end FileRecord

end Coverage
