import Coverage.Proofs.Json.Fields
import Coverage.Proofs.Json.Numbers

/-!
# What decoders make of texts

`Yields item n P` says that whatever the decoder `item` makes of a part of a text has the property
`P`, where at most `n` more levels may be opened. Every way to put decoders together has a rule.
In particular a value that is read from a text has its fields in order, nests no deeper than that,
and is no `null` where `null` stands for nothing (`yields_value`, `yields_option_value`).
-/

namespace Coverage.Json

/-- A place of a text where at most `n` more levels may be opened. -/
structure Context.InText (c : Context) (n : Nat) : Prop where
  origin : c.origin = .text
  depth : c.depth ≤ n

theorem Context.inText_ofText : Context.ofText.InText 127 := ⟨rfl, Nat.le_refl _⟩

theorem Context.InText.enter {c c' : Context} {n : Nat} (h : c.InText n) (hc : c.enter = .ok c') :
    0 < n ∧ c'.InText (n - 1) := by
  obtain ⟨origin, depth⟩ := c
  obtain ⟨horigin, hdepth⟩ := h
  cases horigin
  cases depth with
  | zero => cases hc
  | succ depth =>
    cases hc
    exact ⟨Nat.lt_of_lt_of_le (Nat.succ_pos depth) hdepth, rfl, Nat.le_sub_one_of_lt hdepth⟩

theorem exists_of_bind_eq_ok {ε α β : Type} {x : Except ε α} {f : α → Except ε β} {b : β}
    (h : x >>= f = .ok b) : ∃ a, x = .ok a ∧ f a = .ok b := by
  cases x with
  | error e => cases h
  | ok a => exact ⟨a, rfl, h⟩

theorem bind_eq_ok_iff {ε α β : Type} {x : Except ε α} {f : α → Except ε β} {b : β} :
    x >>= f = .ok b ↔ ∃ a, x = .ok a ∧ f a = .ok b := by
  constructor
  · exact exists_of_bind_eq_ok
  · rintro ⟨a, rfl, h⟩
    exact h

theorem exists_of_map_eq_ok {ε α β : Type} {x : Except ε α} {f : α → β} {b : β}
    (h : f <$> x = .ok b) : ∃ a, x = .ok a ∧ f a = b := by
  cases x with
  | error e => cases h
  | ok a =>
    cases h
    exact ⟨a, rfl, rfl⟩

namespace Decoder

variable {α σ : Type} {n : Nat} {P : α → Prop}

/-- Whatever a decoder makes of a part of a text where at most `n` more levels may be opened has a
property. -/
def Yields (item : Decoder α) (n : Nat) (P : α → Prop) : Prop :=
  ∀ (c : Context) (d : Doc) (a : α), c.InText n → d.Proper → item c d = .ok a → P a

/-- What a whole text is read as. -/
theorem Yields.ofText {item : Decoder α} (h : Yields item 127 P) {text : String} {a : α}
    (hrun : item.ofText text = .ok a) : P a := by
  rw [Decoder.ofText, run] at hrun
  obtain ⟨a', ha, hrun⟩ := exists_of_bind_eq_ok hrun
  split at hrun
  · cases hrun
  · split at hrun
    · cases hrun
    · cases hrun
      exact h _ _ _ Context.inText_ofText (Doc.proper_ofText _) ha

/-! ### Lists and tables -/

theorem Yields.option {item : Decoder α} (h : Yields item n P) :
    Yields (option item) n fun o => ∀ a, o = some a → P a := by
  intro c d o hc hd hrun a ho
  rw [Decoder.option.eq_def] at hrun
  split at hrun
  · cases hrun
    cases ho
  · obtain ⟨a', ha, rfl⟩ := exists_of_map_eq_ok hrun
    cases ho
    exact h c d a hc hd ha

theorem Yields.items {item : Decoder α} (h : Yields item n P) {c : Context} (hc : c.InText n)
    {fault : Option Fault} {ds : List Doc} {as : List α}
    (hds : ∀ k ∈ Doc.numbersItems ds, k.Proper) (hrun : items item c fault ds = .ok as) :
    ∀ a ∈ as, P a := by
  induction ds generalizing as with
  | nil =>
    cases fault with
    | none =>
      cases hrun
      exact nofun
    | some f => cases hrun
  | cons d ds ih =>
    obtain ⟨hd, hds⟩ := List.forall_mem_append.1 hds
    obtain ⟨a, ha, hrun⟩ := exists_of_bind_eq_ok hrun
    obtain ⟨rest, hrest, hrun⟩ := exists_of_bind_eq_ok hrun
    cases hrun
    exact List.forall_mem_cons.2 ⟨h c d a hc hd ha, ih hds hrest⟩

theorem Yields.list {item : Decoder α} (h : Yields item n P) :
    Yields (list item) (n + 1) fun as => ∀ a ∈ as, P a := by
  intro c d as hc hd hrun
  rw [Decoder.list.eq_def] at hrun
  split at hrun
  · obtain ⟨c', hc', hrun⟩ := exists_of_bind_eq_ok hrun
    exact h.items (hc.enter hc').2 hd hrun
  · obtain ⟨_, _, hrun⟩ := exists_of_bind_eq_ok hrun
    cases hrun

theorem Yields.fields {κ : Type} {key : Key → Except Error κ} {item : Decoder α}
    (h : Yields item n P) {c : Context} (hc : c.InText n) {fault : Option Fault}
    {fs : List (Key × Doc)} {es : List (κ × α)} (hfs : ∀ k ∈ Doc.numbersFields fs, k.Proper)
    (hrun : fields key item c fault fs = .ok es) : ∀ e ∈ es, P e.2 := by
  induction fs generalizing es with
  | nil =>
    cases fault with
    | none =>
      cases hrun
      exact nofun
    | some f => cases hrun
  | cons f fs ih =>
    obtain ⟨hd, hfs⟩ := List.forall_mem_append.1 hfs
    obtain ⟨k, -, hrun⟩ := exists_of_bind_eq_ok hrun
    obtain ⟨a, ha, hrun⟩ := exists_of_bind_eq_ok hrun
    obtain ⟨rest, hrest, hrun⟩ := exists_of_bind_eq_ok hrun
    cases hrun
    exact List.forall_mem_cons.2 ⟨h c _ a hc hd ha, ih hfs hrest⟩

theorem Yields.numbered {item : Decoder α} (h : Yields item n P) :
    Yields (numbered item) (n + 1) fun es => ∀ e ∈ es, P e.2 := by
  intro c d es hc hd hrun
  rw [Decoder.numbered.eq_def] at hrun
  split at hrun
  · obtain ⟨c', hc', hrun⟩ := exists_of_bind_eq_ok hrun
    exact h.fields (hc.enter hc').2 hd hrun
  · obtain ⟨_, _, hrun⟩ := exists_of_bind_eq_ok hrun
    cases hrun

/-! ### Records -/

/-- Every field that a record reads keeps a property of what has been read. -/
def Record.Keeps (r : Record σ) (n : Nat) (P : σ → Prop) : Prop :=
  ∀ name field, r.read name = some field → ∀ c d s t, Context.InText c n → Doc.Proper d →
    P s → field c d s = .ok t → P t

namespace Record

variable {r : Record σ} {I : σ → Prop} {c : Context} {fault : Option Fault} {s t : σ}

theorem Keeps.ofFields (h : r.Keeps n I) (hc : c.InText n) {fs : List (Key × Doc)}
    (hfs : ∀ k ∈ Doc.numbersFields fs, k.Proper) (hs : I s)
    (hrun : r.ofFields c fault fs s = .ok t) : I t := by
  induction fs generalizing s with
  | nil =>
    cases fault with
    | none =>
      cases hrun
      exact hs
    | some f => cases hrun
  | cons f fs ih =>
    obtain ⟨hd, hfs⟩ := List.forall_mem_append.1 hfs
    obtain ⟨name, -, hrun⟩ := exists_of_bind_eq_ok hrun
    split at hrun
    · next field hfield =>
      obtain ⟨u, hu, hrun⟩ := exists_of_bind_eq_ok hrun
      exact ih hfs (h name field hfield c _ s u hc hd hs hu) hrun
    · split at hrun
      · cases hrun
      · exact ih hfs hs hrun

/-- Nothing is added where the items end, if they may end there. -/
theorem eq_of_ofItems_nil {total k : Nat} {names : List (String × Bool)}
    (h : r.ofItems c fault total k names [] s = .ok t) : t = s := by
  cases fault with
  | none =>
    cases hk : firstRequired? k names <;>
      simp [Record.ofItems, hk, throw, throwThe, MonadExceptOf.throw, bind, Except.bind, pure,
        Except.pure] at h
    exact h.symm
  | some f =>
    cases names <;>
      simp [Record.ofItems, firstRequired?, throw, throwThe, MonadExceptOf.throw, bind,
        Except.bind] at h

theorem Keeps.ofItems (h : r.Keeps n I) (hc : c.InText n) {total k : Nat}
    {names : List (String × Bool)} {ds : List Doc} (hds : ∀ k ∈ Doc.numbersItems ds, k.Proper)
    (hs : I s) (hrun : r.ofItems c fault total k names ds s = .ok t) : I t := by
  induction ds generalizing s k names with
  | nil =>
    exact eq_of_ofItems_nil hrun ▸ hs
  | cons d ds ih =>
    obtain ⟨hd, hds⟩ := List.forall_mem_append.1 hds
    cases names with
    | nil => cases hrun
    | cons name names =>
      rw [Record.ofItems] at hrun
      split at hrun
      · next field hfield =>
        obtain ⟨u, hu, hrun⟩ := exists_of_bind_eq_ok hrun
        exact ih hds (h _ field hfield c _ s u hc hd hs hu) hrun
      · exact ih hds hs hrun

/-- A record has a property that no field breaks. -/
theorem Keeps.decode (h : r.Keeps n I) (hs : I s) : Yields (r.decode s) (n + 1) I := by
  intro c d t hc hd hrun
  rw [Record.decode.eq_def] at hrun
  split at hrun
  · obtain ⟨c', hc', hrun⟩ := exists_of_bind_eq_ok hrun
    exact h.ofFields (hc.enter hc').2 hd hs hrun
  · obtain ⟨c', hc', hrun⟩ := exists_of_bind_eq_ok hrun
    exact h.ofItems (hc.enter hc').2 hd hs hrun
  · obtain ⟨_, _, hrun⟩ := exists_of_bind_eq_ok hrun
    cases hrun

end Record

/-- What a field adds that may stand once. -/
theorem exists_of_once {item : Decoder α} {name : String} {slot : Option α} {c : Context} {d : Doc}
    {f : Option α → σ} {t : σ}
    (h : (do return f (← once name slot item c d) : Except Error σ) = .ok t) :
    ∃ a, item c d = .ok a ∧ t = f (some a) := by
  cases slot with
  | some _ => cases h
  | none =>
    obtain ⟨v, hv, h⟩ := exists_of_bind_eq_ok h
    obtain ⟨a, ha, rfl⟩ := exists_of_map_eq_ok hv
    cases h
    exact ⟨a, ha, rfl⟩

theorem eq_some_of_require {name : String} {slot : Option α} {a : α}
    (h : require name slot = .ok a) : slot = some a := by
  cases slot with
  | none => cases h
  | some b =>
    cases h
    rfl

/-! ### Values -/

mutual

/-- A value that is read from a text has its fields in order and nests no deeper than it may. -/
theorem ordered_value {n : Nat} {c : Context} (hc : c.InText n) : ∀ (d : Doc) {v : Value},
    d.Proper → value c d = .ok v → v.Ordered n ∧ ∀ k ∈ v.numbers, k.Proper
  | .null, _, _, h | .bool _, _, _, h => by
    cases h
    exact ⟨trivial, nofun⟩
  | .number x, _, hd, h => by
    cases x with
    | error e => cases h
    | ok k =>
      cases h
      exact ⟨trivial, hd⟩
  | .string s, _, _, h => by
    cases s with
    | error e => cases h
    | ok s =>
      cases h
      exact ⟨trivial, nofun⟩
  | .array ds fault, _, hd, h => by
    obtain ⟨c', hc', h⟩ := exists_of_bind_eq_ok h
    obtain ⟨vs, hvs, h⟩ := exists_of_bind_eq_ok h
    obtain ⟨hn, hroom⟩ := hc.enter hc'
    obtain ⟨hordered, hproper⟩ := ordered_valueItems hroom ds hd hvs
    cases fault with
    | some f => cases h
    | none =>
      cases h
      exact ⟨⟨hn, hordered⟩, hproper⟩
  | .object fs fault, _, hd, h => by
    obtain ⟨c', hc', h⟩ := exists_of_bind_eq_ok h
    obtain ⟨es, hes, h⟩ := exists_of_bind_eq_ok h
    obtain ⟨hn, hroom⟩ := hc.enter hc'
    obtain ⟨hsorted, hordered⟩ := ordered_valueFields hroom fs hd .nil nofun hes
    cases fault with
    | some f => cases h
    | none =>
      cases h
      refine ⟨⟨hn, hsorted, Value.orderedFields_iff.2 fun e he => (hordered e he).1⟩, ?_⟩
      exact Value.forall_numbersFields_iff.2 fun e he => (hordered e he).2
  | .broken _, _, _, h => by cases h

theorem ordered_valueItems {n : Nat} {c : Context} (hc : c.InText n) : ∀ (ds : List Doc)
    {vs : List Value}, (∀ k ∈ Doc.numbersItems ds, k.Proper) → valueItems c ds = .ok vs →
    Value.OrderedItems n vs ∧ ∀ k ∈ Value.numbersItems vs, k.Proper
  | [], _, _, h => by
    cases h
    exact ⟨trivial, nofun⟩
  | d :: ds, _, hds, h => by
    obtain ⟨hd, hds⟩ := List.forall_mem_append.1 hds
    obtain ⟨v, hv, h⟩ := exists_of_bind_eq_ok h
    obtain ⟨vs, hvs, h⟩ := exists_of_bind_eq_ok h
    cases h
    obtain ⟨hvo, hvp⟩ := ordered_value hc d hd hv
    obtain ⟨hvso, hvsp⟩ := ordered_valueItems hc ds hds hvs
    exact ⟨⟨hvo, hvso⟩, List.forall_mem_append.2 ⟨hvp, hvsp⟩⟩

theorem ordered_valueFields {n : Nat} {c : Context} (hc : c.InText n) :
    ∀ (fs : List (Key × Doc)) {before es : List (String × Value)},
    (∀ k ∈ Doc.numbersFields fs, k.Proper) → before.Pairwise (fun a b => a.1 < b.1) →
    (∀ e ∈ before, e.2.Ordered n ∧ ∀ k ∈ e.2.numbers, k.Proper) →
    valueFields c fs before = .ok es →
    es.Pairwise (fun a b => a.1 < b.1) ∧ ∀ e ∈ es, e.2.Ordered n ∧ ∀ k ∈ e.2.numbers, k.Proper
  | [], _, _, _, hsorted, hbefore, h => by
    cases h
    exact ⟨hsorted, hbefore⟩
  | (key, d) :: fs, before, _, hfs, hsorted, hbefore, h => by
    obtain ⟨hd, hfs⟩ := List.forall_mem_append.1 hfs
    obtain ⟨name, -, h⟩ := exists_of_bind_eq_ok h
    obtain ⟨v, hv, h⟩ := exists_of_bind_eq_ok h
    have hvalue := ordered_value hc d hd hv
    refine ordered_valueFields hc fs hfs (Value.sorted_putField name v hsorted) ?_ h
    intro e he
    rcases Value.mem_of_mem_putField he with rfl | he
    · exact hvalue
    · exact hbefore e he

end

theorem yields_value (n : Nat) :
    Yields value n fun v => v.Ordered n ∧ ∀ k ∈ v.numbers, k.Proper :=
  fun _ d _ hc hd hrun => ordered_value hc d hd hrun

/-- `null` stands for nothing where a value is optional. -/
theorem yields_option_value (n : Nat) :
    Yields (option value) n fun o => ∀ v, o = some v →
      v ≠ .null ∧ v.Ordered n ∧ ∀ k ∈ v.numbers, k.Proper := by
  intro c d o hc hd hrun v ho
  refine ⟨?_, (yields_value n).option c d o hc hd hrun v ho⟩
  rintro rfl
  subst ho
  cases d with
  | null => cases hrun
  | bool b => cases hrun
  | number x => cases x <;> cases hrun
  | string s => cases s <;> cases hrun
  | broken f => cases hrun
  | array ds fault =>
    obtain ⟨v, hv, hrun⟩ := exists_of_map_eq_ok hrun
    cases hrun
    obtain ⟨_, _, hv⟩ := exists_of_bind_eq_ok hv
    obtain ⟨_, _, hv⟩ := exists_of_bind_eq_ok hv
    cases fault <;> cases hv
  | object fs fault =>
    obtain ⟨v, hv, hrun⟩ := exists_of_map_eq_ok hrun
    cases hrun
    obtain ⟨_, _, hv⟩ := exists_of_bind_eq_ok hv
    obtain ⟨_, _, hv⟩ := exists_of_bind_eq_ok hv
    cases fault <;> cases hv

end Decoder

end Coverage.Json
