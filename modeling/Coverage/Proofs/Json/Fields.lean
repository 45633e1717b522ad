import Coverage.Proofs.Json.RoundTrip

/-!
# Fields in the order of their names

Putting the fields of an object in order neither loses one nor adds one, as long as their names
differ (`sortedFields_spec`). A value that can be read back has them in order already
(`sortFields_of_fits`); that it can is a matter of its order and of its numbers (`Ordered.fits`).
-/

namespace Coverage.Json.Value

theorem mem_of_mem_putField {name : String} {v : Value} {es : List (String × Value)}
    {x : String × Value} (h : x ∈ putField name v es) : x = (name, v) ∨ x ∈ es := by
  induction es with
  | nil => exact .inl (List.mem_singleton.1 h)
  | cons e es ih =>
    obtain ⟨k, w⟩ := e
    rw [putField] at h
    split at h
    · exact List.mem_cons.1 h
    split at h
    · rcases List.mem_cons.1 h with rfl | h
      · exact .inr List.mem_cons_self
      · exact (ih h).imp_right (List.mem_cons_of_mem _)
    · exact (List.mem_cons.1 h).imp_right (List.mem_cons_of_mem _)

theorem sorted_putField (name : String) (v : Value) {es : List (String × Value)}
    (h : es.Pairwise fun a b => a.1 < b.1) :
    (putField name v es).Pairwise fun a b => a.1 < b.1 := by
  induction es with
  | nil => exact List.pairwise_singleton _ _
  | cons e es ih =>
    obtain ⟨k, w⟩ := e
    obtain ⟨hk, hes⟩ := List.pairwise_cons.1 h
    rw [putField]
    split
    · next hlt =>
      refine List.pairwise_cons.2 ⟨fun x hx => ?_, h⟩
      rcases List.mem_cons.1 hx with rfl | hx
      · exact hlt
      · exact lt_trans hlt (hk x hx)
    split
    · next hlt =>
      refine List.pairwise_cons.2 ⟨fun x hx => ?_, ih hes⟩
      rcases mem_of_mem_putField hx with rfl | hx
      · exact hlt
      · exact hk x hx
    · next h₁ h₂ =>
      have heq : k = name := le_antisymm (not_lt.1 h₁) (not_lt.1 h₂)
      exact List.pairwise_cons.2 ⟨fun x hx => heq ▸ hk x hx, hes⟩

theorem putField_perm {name : String} (v : Value) {es : List (String × Value)}
    (h : ∀ e ∈ es, e.1 ≠ name) : (putField name v es).Perm ((name, v) :: es) := by
  induction es with
  | nil => exact .refl _
  | cons e es ih =>
    obtain ⟨k, w⟩ := e
    have hk : k ≠ name := h (k, w) List.mem_cons_self
    rw [putField]
    split
    · exact .refl _
    split
    · exact ((ih fun e he => h e (List.mem_cons_of_mem _ he)).cons _).trans (.swap ..)
    · next h₁ h₂ => exact absurd (le_antisymm (not_lt.1 h₁) (not_lt.1 h₂)) hk

/-- Fields of different names are put in order without a loss. -/
theorem sortedFields_spec {es : List (String × Value)} (h : (es.map (·.1)).Nodup) :
    (es.foldl (fun l e => putField e.1 e.2 l) []).Perm es ∧
      (es.foldl (fun l e => putField e.1 e.2 l) []).Pairwise fun a b => a.1 < b.1 := by
  have hrun : ∀ (es l : List (String × Value)), ((es ++ l).map (·.1)).Nodup →
      l.Pairwise (fun a b => a.1 < b.1) →
      (es.foldl (fun l e => putField e.1 e.2 l) l).Perm (es ++ l) ∧
        (es.foldl (fun l e => putField e.1 e.2 l) l).Pairwise fun a b => a.1 < b.1 := by
    intro es
    induction es with
    | nil => exact fun l _ hl => ⟨.refl _, hl⟩
    | cons e es ih =>
      intro l hnodup hl
      obtain ⟨hnot, hrest⟩ := List.nodup_cons.1 hnodup
      have hnew : ∀ x ∈ l, x.1 ≠ e.1 := fun x hx heq =>
        hnot (List.mem_map.2 ⟨x, List.mem_append_right _ hx, heq⟩)
      have hperm : (es ++ putField e.1 e.2 l).Perm (e :: (es ++ l)) :=
        ((putField_perm e.2 hnew).append_left es).trans List.perm_middle
      have hnodup' : ((es ++ putField e.1 e.2 l).map (·.1)).Nodup :=
        (hperm.map _).nodup_iff.2 hnodup
      obtain ⟨hrun, hsorted⟩ := ih (putField e.1 e.2 l) hnodup' (sorted_putField e.1 e.2 hl)
      exact ⟨hrun.trans hperm, hsorted⟩
  have h := hrun es [] (by rwa [List.append_nil]) .nil
  rwa [List.append_nil] at h

/-- Fields whose names are some of an ordered list, in its order. -/
theorem sorted_of_names {names : List String} (h : names.Pairwise (· < ·))
    {es : List (String × Value)} (hes : (es.map (·.1)).Sublist names) :
    es.Pairwise fun a b => a.1 < b.1 :=
  List.pairwise_map.1 (h.sublist hes)

theorem sortFieldsFields_eq (es : List (String × Value)) :
    sortFieldsFields es = es.map fun e => (e.1, e.2.sortFields) := by
  induction es with
  | nil => rfl
  | cons e es ih => rw [sortFieldsFields, ih]; rfl

theorem sortFieldsItems_eq (vs : List Value) : sortFieldsItems vs = vs.map sortFields := by
  induction vs with
  | nil => rfl
  | cons v vs ih => rw [sortFieldsItems, ih]; rfl

theorem fitsItems_iff {n : Nat} {vs : List Value} : FitsItems n vs ↔ ∀ v ∈ vs, v.Fits n := by
  induction vs with
  | nil => simp [FitsItems]
  | cons v vs ih => simp [FitsItems, ih]

theorem fitsFields_iff {n : Nat} {es : List (String × Value)} :
    FitsFields n es ↔ ∀ e ∈ es, e.2.Fits n := by
  induction es with
  | nil => simp [FitsFields]
  | cons e es ih => simp [FitsFields, ih]

mutual

/-- A value with the fields of its objects in the order of their names, in at most `n` levels. -/
def Ordered (n : Nat) : Value → Prop
  | .array vs => 0 < n ∧ OrderedItems (n - 1) vs
  | .object es => 0 < n ∧ es.Pairwise (fun a b => a.1 < b.1) ∧ OrderedFields (n - 1) es
  | _ => True

/-- `Ordered` for the items of an array. -/
def OrderedItems (n : Nat) : List Value → Prop
  | [] => True
  | v :: vs => Ordered n v ∧ OrderedItems n vs

/-- `Ordered` for the values of an object. -/
def OrderedFields (n : Nat) : List (String × Value) → Prop
  | [] => True
  | (_, v) :: es => Ordered n v ∧ OrderedFields n es

end

mutual

/-- An ordered value whose numbers are whole is one that can be read back. -/
theorem Ordered.fits {n : Nat} : ∀ {v : Value}, v.Ordered n → v.Whole → v.Fits n
  | .null, _, _ | .bool _, _, _ | .string _, _, _ => trivial
  | .number k, _, h => h k (List.mem_singleton_self k)
  | .array _, h, hwhole => ⟨h.1, OrderedItems.fits h.2 hwhole⟩
  | .object _, h, hwhole => ⟨h.1, h.2.1, OrderedFields.fits h.2.2 hwhole⟩

theorem OrderedItems.fits {n : Nat} : ∀ {vs : List Value}, OrderedItems n vs →
    (∀ k ∈ numbersItems vs, k.IsInteger) → FitsItems n vs
  | [], _, _ => trivial
  | _ :: _, h, hwhole =>
    ⟨Ordered.fits h.1 (List.forall_mem_append.1 hwhole).1,
      OrderedItems.fits h.2 (List.forall_mem_append.1 hwhole).2⟩

theorem OrderedFields.fits {n : Nat} : ∀ {es : List (String × Value)}, OrderedFields n es →
    (∀ k ∈ numbersFields es, k.IsInteger) → FitsFields n es
  | [], _, _ => trivial
  | _ :: _, h, hwhole =>
    ⟨Ordered.fits h.1 (List.forall_mem_append.1 hwhole).1,
      OrderedFields.fits h.2 (List.forall_mem_append.1 hwhole).2⟩

end

theorem forall_numbersItems_iff {P : Number → Prop} {vs : List Value} :
    (∀ k ∈ numbersItems vs, P k) ↔ ∀ v ∈ vs, ∀ k ∈ v.numbers, P k := by
  induction vs with
  | nil => simp [numbersItems]
  | cons v vs ih => rw [numbersItems, List.forall_mem_append, ih, List.forall_mem_cons]

theorem forall_numbersFields_iff {P : Number → Prop} {es : List (String × Value)} :
    (∀ k ∈ numbersFields es, P k) ↔ ∀ e ∈ es, ∀ k ∈ e.2.numbers, P k := by
  induction es with
  | nil => simp [numbersFields]
  | cons e es ih => rw [numbersFields, List.forall_mem_append, ih, List.forall_mem_cons]

theorem orderedFields_iff {n : Nat} {es : List (String × Value)} :
    OrderedFields n es ↔ ∀ e ∈ es, e.2.Ordered n := by
  induction es with
  | nil => simp [OrderedFields]
  | cons e es ih => simp [OrderedFields, ih]

mutual

theorem Fits.mono {n m : Nat} (hle : n ≤ m) : ∀ {v : Value}, v.Fits n → v.Fits m
  | .null, _ | .bool _, _ | .string _, _ => trivial
  | .number _, h => h
  | .array _, h => ⟨Nat.lt_of_lt_of_le h.1 hle, FitsItems.mono (Nat.sub_le_sub_right hle 1) h.2⟩
  | .object _, h =>
    ⟨Nat.lt_of_lt_of_le h.1 hle, h.2.1, FitsFields.mono (Nat.sub_le_sub_right hle 1) h.2.2⟩

theorem FitsItems.mono {n m : Nat} (hle : n ≤ m) :
    ∀ {vs : List Value}, FitsItems n vs → FitsItems m vs
  | [], _ => trivial
  | _ :: _, h => ⟨Fits.mono hle h.1, FitsItems.mono hle h.2⟩

theorem FitsFields.mono {n m : Nat} (hle : n ≤ m) :
    ∀ {es : List (String × Value)}, FitsFields n es → FitsFields m es
  | [], _ => trivial
  | _ :: _, h => ⟨Fits.mono hle h.1, FitsFields.mono hle h.2⟩

end

mutual

/-- The fields of a value that fits are in order already. -/
theorem sortFields_of_fits {n : Nat} : ∀ {v : Value}, v.Fits n → v.sortFields = v
  | .null, _ | .bool _, _ | .string _, _ | .number _, _ => rfl
  | .array vs, h => by rw [sortFields, sortFieldsItems_of_fits h.2]
  | .object es, h => by
    obtain ⟨-, hsorted, hes⟩ := h
    have hnodup : (es.map (·.1)).Nodup :=
      List.pairwise_map.2 (hsorted.imp fun h => ne_of_lt h)
    obtain ⟨hperm, hpairwise⟩ := sortedFields_spec hnodup
    rw [sortFields, sortFieldsFields_of_fits hes]
    refine congrArg _ (hperm.eq_of_pairwise ?_ hpairwise hsorted)
    exact fun a b _ _ hab hba => absurd hba (lt_asymm hab)

theorem sortFieldsItems_of_fits {n : Nat} :
    ∀ {vs : List Value}, FitsItems n vs → sortFieldsItems vs = vs
  | [], _ => rfl
  | v :: vs, h => by rw [sortFieldsItems, sortFields_of_fits h.1, sortFieldsItems_of_fits h.2]

theorem sortFieldsFields_of_fits {n : Nat} :
    ∀ {es : List (String × Value)}, FitsFields n es → sortFieldsFields es = es
  | [], _ => rfl
  | (k, v) :: es, h => by
    rw [sortFieldsFields, sortFields_of_fits h.1, sortFieldsFields_of_fits h.2]

end

mutual

theorem Fits.depth_le {n : Nat} : ∀ {v : Value}, v.Fits n → v.depth ≤ n
  | .null, _ | .bool _, _ | .string _, _ | .number _, _ => Nat.zero_le n
  | .array _, h =>
    Nat.le_trans (Nat.succ_le_succ (FitsItems.depth_le h.2)) (Nat.sub_add_cancel h.1).le
  | .object _, h =>
    Nat.le_trans (Nat.succ_le_succ (FitsFields.depth_le h.2.2)) (Nat.sub_add_cancel h.1).le

theorem FitsItems.depth_le {n : Nat} : ∀ {vs : List Value}, FitsItems n vs → depthItems vs ≤ n
  | [], _ => Nat.zero_le n
  | _ :: _, h => Nat.max_le.2 ⟨Fits.depth_le h.1, FitsItems.depth_le h.2⟩

theorem FitsFields.depth_le {n : Nat} :
    ∀ {es : List (String × Value)}, FitsFields n es → depthFields es ≤ n
  | [], _ => Nat.zero_le n
  | _ :: _, h => Nat.max_le.2 ⟨Fits.depth_le h.1, FitsFields.depth_le h.2⟩

end

/-- A document of a value that can be read back stands for that value. -/
theorem Fits.value_spelled {v : Value} {c : Context} {n : Nat} (hv : v.Fits n) (hc : c.Room n) :
    Decoder.value c (Doc.spelled c.origin v) = .ok v := by
  rw [Decoder.value_spelled hc v hv.depth_le, sortFields_of_fits hv]

/-- A value is read back from its compact text. -/
theorem ofText_compact {v : Value} (hv : v.Fits 127) : ofText v.compact = .ok v :=
  Decoder.ofText_compact hv.whole (hv.value_spelled Context.room_ofText)

/-- A value is read back from its indented text. -/
theorem ofText_pretty {v : Value} (hv : v.Fits 127) : ofText v.pretty = .ok v :=
  Decoder.ofText_pretty hv.whole (hv.value_spelled Context.room_ofText)

/-! ### Values whose fields stand in any order -/

/-- A value whose numbers are whole, in at most `n` levels. -/
structure Plain (n : Nat) (v : Value) : Prop where
  whole : v.Whole
  depth : v.depth ≤ n

theorem Fits.plain {n : Nat} {v : Value} (h : v.Fits n) : v.Plain n := ⟨h.whole, h.depth_le⟩

theorem Plain.mono {n m : Nat} {v : Value} (h : v.Plain n) (hle : n ≤ m) : v.Plain m :=
  ⟨h.whole, Nat.le_trans h.depth hle⟩

theorem depthItems_le {n : Nat} {vs : List Value} (h : ∀ v ∈ vs, v.depth ≤ n) :
    depthItems vs ≤ n := by
  induction vs with
  | nil => exact Nat.zero_le n
  | cons v vs ih =>
    obtain ⟨hv, hvs⟩ := List.forall_mem_cons.1 h
    exact Nat.max_le.2 ⟨hv, ih hvs⟩

theorem depthFields_le {n : Nat} {es : List (String × Value)} (h : ∀ e ∈ es, e.2.depth ≤ n) :
    depthFields es ≤ n := by
  induction es with
  | nil => exact Nat.zero_le n
  | cons e es ih =>
    obtain ⟨he, hes⟩ := List.forall_mem_cons.1 h
    exact Nat.max_le.2 ⟨he, ih hes⟩

theorem plain_array {n : Nat} {vs : List Value} (h : ∀ v ∈ vs, v.Plain n) :
    (array vs).Plain (n + 1) :=
  ⟨forall_numbersItems_iff.2 fun v hv => (h v hv).whole,
    Nat.succ_le_succ (depthItems_le fun v hv => (h v hv).depth)⟩

theorem plain_object {n : Nat} {es : List (String × Value)} (h : ∀ e ∈ es, e.2.Plain n) :
    (object es).Plain (n + 1) :=
  ⟨forall_numbersFields_iff.2 fun e he => (h e he).whole,
    Nat.succ_le_succ (depthFields_le fun e he => (h e he).depth)⟩

theorem mem_of_mem_sortedFields {es : List (String × Value)} :
    ∀ {before : List (String × Value)} {x : String × Value},
    x ∈ es.foldl (fun l e => putField e.1 e.2 l) before → x ∈ es ∨ x ∈ before := by
  induction es with
  | nil => exact fun h => .inr h
  | cons e es ih =>
    intro before x h
    rcases ih h with h | h
    · exact .inl (List.mem_cons_of_mem _ h)
    · rcases mem_of_mem_putField h with rfl | h
      · exact .inl List.mem_cons_self
      · exact .inr h

mutual

/-- Putting fields in order adds no number. -/
theorem numbers_sortFields {P : Number → Prop} : ∀ v : Value, (∀ k ∈ v.numbers, P k) →
    ∀ k ∈ v.sortFields.numbers, P k
  | .null, h | .bool _, h | .number _, h | .string _, h => h
  | .array vs, h => numbersItems_sortFields vs h
  | .object es, h => forall_numbersFields_iff.2 fun e he =>
    numbersFields_sortFields es h e ((mem_of_mem_sortedFields he).resolve_right List.not_mem_nil)

theorem numbersItems_sortFields {P : Number → Prop} : ∀ vs : List Value,
    (∀ k ∈ numbersItems vs, P k) → ∀ k ∈ numbersItems (sortFieldsItems vs), P k
  | [], _ => nofun
  | v :: vs, h => by
    obtain ⟨hv, hvs⟩ := List.forall_mem_append.1 h
    exact List.forall_mem_append.2 ⟨numbers_sortFields v hv, numbersItems_sortFields vs hvs⟩

theorem numbersFields_sortFields {P : Number → Prop} : ∀ es : List (String × Value),
    (∀ k ∈ numbersFields es, P k) → ∀ e ∈ sortFieldsFields es, ∀ k ∈ e.2.numbers, P k
  | [], _ => nofun
  | (_, v) :: es, h => by
    obtain ⟨hv, hes⟩ := List.forall_mem_append.1 h
    exact List.forall_mem_cons.2 ⟨numbers_sortFields v hv, numbersFields_sortFields es hes⟩

end

theorem Whole.sortFields {v : Value} (h : v.Whole) : v.sortFields.Whole := numbers_sortFields v h

theorem plain_string (n : Nat) (s : String) : (string s).Plain n :=
  ⟨List.forall_mem_nil _, Nat.zero_le n⟩

theorem plain_bool (n : Nat) (b : Bool) : (bool b).Plain n :=
  ⟨List.forall_mem_nil _, Nat.zero_le n⟩

theorem plain_natural (n : Nat) (k : UInt64) : (number (.natural k)).Plain n :=
  ⟨fun _ hk => List.mem_singleton.1 hk ▸ trivial, Nat.zero_le n⟩

end Coverage.Json.Value
