import Coverage.Proofs.Lists
import Coverage.Proofs.SourceMap.Segment
import Coverage.SourceMap.Index

/-!
# Look-ups agree with a search through all segments

An index looks positions up in two sorted lists. What it finds there is what a search through all
segments in the order of the document finds (`searchAll`): a sorted list has the candidates in front
of or behind the position that is looked up (`nearest_eq_searchAll`), sorting keeps segments of one
key in their order (`searchAll_mergeSort`), and a look-up that gives up when the nearest segment is
on another line, or of another source, would not have found one of its own (`filter_searchAll`).

The main result is `Index.ofMap_lookups`, for both look-ups of an index that was made from a map.
-/

namespace Coverage.SourceMap

open Json (bind_eq_ok_iff exists_of_bind_eq_ok)

/-! ### Searching a list from end to end -/

section Search

namespace Bias

variable {κ : Type}

/-- Whether a key is on the side of `needle` that is looked at. -/
def admits (bias : Bias) (le : κ → κ → Bool) (needle k : κ) : Bool :=
  match bias with
  | .down => le k needle
  | .up => le needle k

/-- Whether, of two keys on that side, `a` is at least as near as `b`. -/
def prefers (bias : Bias) (le : κ → κ → Bool) (a b : κ) : Bool :=
  match bias with
  | .down => le b a
  | .up => le a b

variable {le : κ → κ → Bool}

theorem prefers_antisymm (h : Linear le) {bias : Bias} {a b : κ} (hab : bias.prefers le a b = true)
    (hba : bias.prefers le b a = true) : a = b := by
  cases bias with
  | down => exact h.antisymm a b hba hab
  | up => exact h.antisymm a b hab hba

end Bias

variable {α κ : Type}

/-- The key of an item is on the side of `needle` that `bias` names, and at least as near as the
keys of all other items there. -/
def IsNearest (bias : Bias) (le : κ → κ → Bool) (key : α → κ) (needle : κ) (l : List α) (a : α) :
    Prop :=
  bias.admits le needle (key a) = true ∧
    ∀ b ∈ l, bias.admits le needle (key b) = true → bias.prefers le (key a) (key b) = true

instance (bias : Bias) (le : κ → κ → Bool) (key : α → κ) (needle : κ) (l : List α) (a : α) :
    Decidable (IsNearest bias le key needle l a) :=
  inferInstanceAs (Decidable (_ ∧ ∀ b ∈ l, _ → _))

/-- Searches all items for the first of the nearest ones. -/
def searchAll (bias : Bias) (le : κ → κ → Bool) (key : α → κ) (needle : κ) (l : List α) :
    Option α :=
  l.find? fun a => IsNearest bias le key needle l a

variable {bias : Bias} {le : κ → κ → Bool} {key : α → κ} {needle : κ} {l : List α}

theorem find?_congr {test test' : α → Bool} (h : ∀ a ∈ l, test a = test' a) :
    l.find? test = l.find? test' := by
  rw [← List.head?_filter, ← List.head?_filter, List.filter_congr h]

/-! ### Sorted lists -/

/-- In a list in the order of its keys those up to some key stand at the front. -/
theorem takeWhile_eq_filter (h : Linear le)
    (hsorted : l.Pairwise fun a b => le (key a) (key b) = true) :
    l.takeWhile (fun a => le (key a) needle) = l.filter fun a => le (key a) needle := by
  induction l with
  | nil => rfl
  | cons a l ih =>
    obtain ⟨hfirst, hrest⟩ := List.pairwise_cons.1 hsorted
    by_cases ha : le (key a) needle = true
    · simp only [List.takeWhile_cons, List.filter_cons, ha, if_true, ih hrest]
    · simp only [List.takeWhile_cons, List.filter_cons, ha]
      symm
      apply List.filter_eq_nil_iff.2
      intro b hb hbelow
      exact ha (h.trans _ _ _ (hfirst b hb) hbelow)

theorem nearestAbove_eq_searchAll (h : Linear le)
    (hsorted : l.Pairwise fun a b => le (key a) (key b) = true) :
    nearestAbove le key needle l = searchAll .up le key needle l := by
  rw [nearestAbove, searchAll]
  cases hfind : l.find? fun a => le needle (key a) with
  | none =>
    symm
    rw [List.find?_eq_none] at hfind ⊢
    intro a ha hnearest
    exact hfind a ha (of_decide_eq_true hnearest).1
  | some a =>
    symm
    obtain ⟨hadmits, before, behind, rfl, hbefore⟩ := List.find?_eq_some_iff_append.1 hfind
    refine List.find?_eq_some_iff_append.2 ⟨decide_eq_true ⟨hadmits, ?_⟩, before, behind, rfl, ?_⟩
    · intro b hb hadmits'
      rcases List.mem_append.1 hb with hb | hb
      · have hnot := hbefore b hb
        rw [Bool.not_eq_true'] at hnot
        exact absurd hadmits' (ne_true_of_eq_false hnot)
      · rcases List.mem_cons.1 hb with rfl | hb
        · exact h.refl _
        · exact (List.pairwise_cons.1 (List.pairwise_append.1 hsorted).2.1).1 b hb
    · intro b hb
      rw [Bool.not_eq_true']
      apply decide_eq_false
      intro hnearest
      have hnot := hbefore b hb
      rw [Bool.not_eq_true'] at hnot
      exact absurd hnearest.1 (ne_true_of_eq_false hnot)

theorem nearestBelow_eq_searchAll [DecidableEq κ] (h : Linear le)
    (hsorted : l.Pairwise fun a b => le (key a) (key b) = true) :
    nearestBelow le key needle l = searchAll .down le key needle l := by
  have hthere : (l.filter fun a => le (key a) needle).Pairwise fun a b =>
      le (key a) (key b) = true := hsorted.filter _
  rw [nearestBelow, takeWhile_eq_filter h hsorted, searchAll]
  cases hlast : (l.filter fun a => le (key a) needle).getLast? with
  | none =>
    symm
    rw [List.getLast?_eq_none_iff, List.filter_eq_nil_iff] at hlast
    refine List.find?_eq_none.2 fun a ha hnearest => ?_
    exact hlast a ha (of_decide_eq_true hnearest).1
  | some last =>
    obtain ⟨before, hbefore⟩ := List.getLast?_eq_some_iff.1 hlast
    obtain ⟨hmem, hbelow⟩ := List.mem_filter.1 (List.mem_of_getLast? hlast)
    -- The last candidate has the greatest key.
    have hgreatest : ∀ b ∈ l, le (key b) needle = true → le (key b) (key last) = true := by
      intro b hb hle
      have hin : b ∈ l.filter fun a => le (key a) needle := List.mem_filter.2 ⟨hb, hle⟩
      rw [hbefore] at hin hthere
      rcases List.mem_append.1 hin with hin | hin
      · exact (List.pairwise_append.1 hthere).2.2 b hin last (List.mem_singleton_self _)
      · rw [List.mem_singleton.1 hin]
        exact h.refl _
    apply find?_congr
    intro a ha
    rw [decide_eq_decide]
    constructor
    · intro hkey
      rw [IsNearest, hkey]
      exact ⟨hbelow, hgreatest⟩
    · rintro ⟨hadmits, hall⟩
      exact h.antisymm _ _ (hgreatest a ha hadmits) (hall last hmem hbelow)

/-- In a list in the order of its keys the nearest item is found without looking at all of them. -/
theorem nearest_eq_searchAll [DecidableEq κ] (h : Linear le)
    (hsorted : l.Pairwise fun a b => le (key a) (key b) = true) (bias : Bias) :
    nearest bias le key needle l = searchAll bias le key needle l := by
  cases bias with
  | down => exact nearestBelow_eq_searchAll h hsorted
  | up => exact nearestAbove_eq_searchAll h hsorted

/-! ### Sorting -/

theorem isNearest_iff_of_perm {l' : List α} (hperm : l.Perm l') (a : α) :
    IsNearest bias le key needle l a ↔ IsNearest bias le key needle l' a := by
  simp only [IsNearest, hperm.mem_iff]

/-- The nearest items have one key. -/
theorem key_eq_of_isNearest (h : Linear le) {a b : α} (ha : a ∈ l) (hb : b ∈ l)
    (hna : IsNearest bias le key needle l a) (hnb : IsNearest bias le key needle l b) :
    key a = key b :=
  Bias.prefers_antisymm h (hna.2 b hb hnb.1) (hnb.2 a ha hna.1)

/-- The nearest item that is found is the first one with its key. -/
theorem nearest_eq_some_iff [DecidableEq κ] (h : Linear le)
    (hsorted : l.Pairwise fun a b => le (key a) (key b) = true) {a : α} :
    nearest bias le key needle l = some a ↔
      IsNearest bias le key needle l a ∧ l.find? (fun b => key b = key a) = some a := by
  rw [nearest_eq_searchAll h hsorted, searchAll]
  have hsame : a ∈ l → IsNearest bias le key needle l a →
      l.find? (fun b => IsNearest bias le key needle l b) = l.find? fun b => key b = key a := by
    intro ha hnearest
    refine find?_congr fun b hb => ?_
    rw [decide_eq_decide]
    refine ⟨fun hb' => key_eq_of_isNearest h hb ha hb' hnearest, fun hkey => ?_⟩
    rw [IsNearest, hkey]
    exact hnearest
  constructor
  · intro hfind
    have hnearest : IsNearest bias le key needle l a := by simpa using List.find?_some hfind
    exact ⟨hnearest, (hsame (List.mem_of_find?_eq_some hfind) hnearest).symm.trans hfind⟩
  · rintro ⟨hnearest, hfirst⟩
    exact (hsame (List.mem_of_find?_eq_some hfirst) hnearest).trans hfirst

/-- Sorting by the keys keeps the first of the items that a test finds, where these have one
key. -/
theorem find?_mergeSort (h : Linear le) {test : α → Bool}
    (hkey : ∀ a ∈ l, ∀ b ∈ l, test a = true → test b = true → key a = key b) :
    (l.mergeSort fun a b => le (key a) (key b)).find? test = l.find? test := by
  have hfilter := filter_mergeSort (fun a b c => h.trans (key a) (key b) (key c))
    (fun a b => h.total (key a) (key b)) fun a ha b hb hta htb =>
      (hkey a ha b hb hta htb ▸ h.refl (key a) : le (key a) (key b) = true)
  rw [← List.head?_filter, ← List.head?_filter, hfilter]

theorem pairwise_mergeSort_key (h : Linear le) (key : α → κ) (l : List α) :
    (l.mergeSort fun a b => le (key a) (key b)).Pairwise fun a b => le (key a) (key b) = true :=
  List.pairwise_mergeSort (fun a b c => h.trans (key a) (key b) (key c))
    (fun a b => h.total (key a) (key b)) l

/-- Sorting by the keys makes no difference to a search through all items. -/
theorem searchAll_mergeSort (h : Linear le) (bias : Bias) (key : α → κ) (needle : κ) (l : List α) :
    searchAll bias le key needle (l.mergeSort fun a b => le (key a) (key b)) =
      searchAll bias le key needle l := by
  have hperm := List.mergeSort_perm l fun a b => le (key a) (key b)
  simp only [searchAll, isNearest_iff_of_perm hperm]
  apply find?_mergeSort h
  intro a ha b hb hta htb
  exact key_eq_of_isNearest h ha hb (of_decide_eq_true hta) (of_decide_eq_true htb)

/-! ### Groups of keys that lie next to each other -/

section Group

variable {group : κ → Bool}
  (hbetween : ∀ a b c, group a = true → group c = true → le a b = true → le b c = true →
    group b = true)
  (hneedle : group needle = true)

include hbetween hneedle

/-- A key of the group is nearer than one on the same side that lies outside the group. -/
theorem prefers_of_group (h : Linear le) {a b : κ} (ha : group a = true) (hb : group b ≠ true)
    (hadmits : bias.admits le needle b = true) : bias.prefers le a b = true := by
  cases bias with
  | down => exact h.le_of_not_le fun hle => hb (hbetween a b needle ha hneedle hle hadmits)
  | up => exact h.le_of_not_le fun hle => hb (hbetween needle b a hneedle ha hadmits hle)

/-- A key that is as near as one of the group lies in the group. -/
theorem group_of_prefers {a b : κ} (hb : group b = true) (hadmits : bias.admits le needle a = true)
    (hprefers : bias.prefers le a b = true) : group a = true := by
  cases bias with
  | down => exact hbetween b a needle hb hneedle hprefers hadmits
  | up => exact hbetween needle a b hneedle hb hadmits hprefers

/-- Where the group has a candidate, the nearest items are the nearest ones of the group. -/
theorem isNearest_iff_of_group (h : Linear le) {c : α} (hc : c ∈ l) (hgroup : group (key c) = true)
    (hadmits : bias.admits le needle (key c) = true) (a : α) :
    IsNearest bias le key needle l a ↔
      group (key a) = true ∧
        IsNearest bias le key needle (l.filter fun a => group (key a)) a := by
  constructor
  · rintro ⟨ha, hall⟩
    refine ⟨group_of_prefers hbetween hneedle hgroup ha (hall c hc hadmits), ha, ?_⟩
    intro b hb
    exact hall b (List.mem_filter.1 hb).1
  · rintro ⟨hga, ha, hall⟩
    refine ⟨ha, ?_⟩
    intro b hb hadmits'
    by_cases hgb : group (key b) = true
    · exact hall b (List.mem_filter.2 ⟨hb, hgb⟩) hadmits'
    · exact prefers_of_group hbetween hneedle h hga hgb hadmits'

/-- A search through all items that is given up when it ends outside the group of `needle` is a
search through the group. -/
theorem filter_searchAll (h : Linear le) :
    (searchAll bias le key needle l).filter (fun a => group (key a)) =
      searchAll bias le key needle (l.filter fun a => group (key a)) := by
  rw [searchAll, searchAll, List.find?_filter]
  by_cases hsome : ∃ c ∈ l, group (key c) = true ∧ bias.admits le needle (key c) = true
  · obtain ⟨c, hc, hgroup, hadmits⟩ := hsome
    simp only [isNearest_iff_of_group hbetween hneedle h hc hgroup hadmits, decide_eq_true_eq]
    cases hfind : l.find? _ with
    | none => rfl
    | some a =>
      have hfound := List.find?_some hfind
      rw [decide_eq_true_eq] at hfound
      exact Option.filter_some_pos hfound.1
  · have hnone : ∀ a ∈ l, group (key a) = true → ¬ bias.admits le needle (key a) = true :=
      fun a ha hgroup hadmits => hsome ⟨a, ha, hgroup, hadmits⟩
    have hright : l.find? (fun a => decide (group (key a) = true ∧ decide (IsNearest bias le key
        needle (l.filter fun a => group (key a)) a) = true)) = none := by
      refine List.find?_eq_none.2 fun a ha hfound => ?_
      rw [decide_eq_true_eq, decide_eq_true_eq] at hfound
      exact hnone a ha hfound.1 hfound.2.1
    rw [hright]
    cases hfind : l.find? fun a => decide (IsNearest bias le key needle l a) with
    | none => rfl
    | some a =>
      have hfound := List.find?_some hfind
      rw [decide_eq_true_eq] at hfound
      refine Option.filter_some_neg (Bool.eq_false_iff.2 fun hgroup => ?_)
      exact hnone a (List.mem_of_find?_eq_some hfind) hgroup hfound.1

end Group

/-- Two searches of one list agree if they compare the keys in it in the same way. -/
theorem searchAll_congr {κ' : Type} {le' : κ' → κ' → Bool} {key' : α → κ'} {needle' : κ'}
    (hadmits : ∀ a ∈ l, bias.admits le needle (key a) = bias.admits le' needle' (key' a))
    (hprefers : ∀ a ∈ l, ∀ b ∈ l,
      bias.prefers le (key a) (key b) = bias.prefers le' (key' a) (key' b)) :
    searchAll bias le key needle l = searchAll bias le' key' needle' l := by
  apply find?_congr
  intro a ha
  rw [decide_eq_decide, IsNearest, IsNearest, hadmits a ha]
  refine and_congr_right fun _ => forall₂_congr fun b hb => ?_
  rw [hadmits b hb, hprefers a ha b hb]

end Search

/-! ### Between the generated file and the sources -/

namespace SourcePlace

theorem le_iff (a b : SourcePlace) : a.le b = true ↔
    a.source < b.source ∨ a.source = b.source ∧ a.position.le b.position = true := by
  simp only [le, Bool.or_eq_true, Bool.and_eq_true, decide_eq_true_eq, beq_iff_eq]

theorem linear_le : Linear le := by
  constructor
  · intro a b c hab hbc
    rw [le_iff] at hab hbc ⊢
    rcases hab with hab | ⟨hab, hle⟩
    · left
      omega
    · rcases hbc with hbc | ⟨hbc, hle'⟩
      · left
        omega
      · exact .inr ⟨hab.trans hbc, Position.linear_le.trans _ _ _ hle hle'⟩
  · intro a b
    rw [Bool.or_eq_true, le_iff, le_iff]
    rcases Nat.lt_trichotomy a.source b.source with hlt | heq | hgt
    · exact .inl (.inl hlt)
    · have htotal := Position.linear_le.total a.position b.position
      rw [Bool.or_eq_true] at htotal
      exact htotal.imp (fun hle => .inr ⟨heq, hle⟩) fun hle => .inr ⟨heq.symm, hle⟩
    · exact .inr (.inl hgt)
  · intro a b hab hba
    rw [le_iff] at hab hba
    have hsource : a.source = b.source := by omega
    have hposition : a.position = b.position := by
      apply Position.linear_le.antisymm
      · exact (hab.resolve_left (by omega)).2
      · exact (hba.resolve_left (by omega)).2
    cases a
    cases b
    rw [mk.injEq]
    exact ⟨hsource, hposition⟩

end SourcePlace

/-- The columns of one line from left to right. -/
def columnLe (c d : Int64) : Bool := c ≤ d

/-- Searches all segments on the line of `p` for the first of those whose column is nearest. -/
def nearestOnLine (bias : Bias) (p : Position) (segments : List Segment) : Option Segment :=
  searchAll bias columnLe (·.generated.column) p.column
    (segments.filter fun s => s.generated.line = p.line)

/-- The places in the sources that segments have, each with its place in the generated file. -/
def places (segments : List Segment) : List (SourcePlace × Position) :=
  segments.filterMap fun s => s.place.map fun p => (p, s.generated)

/-- The places of segments that are in the order of the generated file are in that order too. -/
theorem pairwise_places {segments : List Segment}
    (h : segments.Pairwise fun s t => s.generated.le t.generated = true) :
    (places segments).Pairwise fun a b => a.2.le b.2 = true := by
  apply List.pairwise_filterMap.2
  refine h.imp ?_
  intro s t hle a ha b hb
  obtain ⟨place, -, rfl⟩ := Option.map_eq_some_iff.1 ha
  obtain ⟨place', -, rfl⟩ := Option.map_eq_some_iff.1 hb
  exact hle

/-- Searches all places in one source for one whose position is nearest, and among these for the
one that comes first in the generated file. -/
def nearestPlace (bias : Bias) (p : Position) (l : List (SourcePlace × Position)) :
    Option (SourcePlace × Position) :=
  l.find? fun a => IsNearest bias Position.le (·.1.position) p l a ∧
    ∀ b ∈ l, IsNearest bias Position.le (·.1.position) p l b → a.2.le b.2 = true

/-- Where the places go in the order of the generated file, the first of the nearest ones is the one
that comes first in that file. -/
theorem searchAll_eq_nearestPlace {l l' : List (SourcePlace × Position)} (hperm : l.Perm l')
    (hsorted : l.Pairwise fun a b => a.2.le b.2 = true) {i : Nat}
    (hsource : ∀ a ∈ l, a.1.source = i) (bias : Bias) (p : Position) :
    searchAll bias Position.le (·.1.position) p l = nearestPlace bias p l' := by
  have hsame : ∀ a, IsNearest bias Position.le (·.1.position) p l a ↔
      IsNearest bias Position.le (·.1.position) p l' a := isNearest_iff_of_perm hperm
  rw [searchAll, nearestPlace]
  cases hfind : l.find? fun a => decide (IsNearest bias Position.le (·.1.position) p l a) with
  | none =>
    symm
    rw [List.find?_eq_none] at hfind ⊢
    intro a ha hfound
    rw [decide_eq_true_eq] at hfound
    exact hfind a (hperm.mem_iff.2 ha) (decide_eq_true ((hsame a).2 hfound.1))
  | some a =>
    obtain ⟨hnearest, before, behind, hsplit, hbefore⟩ := List.find?_eq_some_iff_append.1 hfind
    rw [decide_eq_true_eq] at hnearest
    have hmem : a ∈ l := List.mem_of_find?_eq_some hfind
    have hfirst : ∀ b ∈ l, IsNearest bias Position.le (·.1.position) p l b → a.2.le b.2 = true := by
      intro b hb hnearest'
      rw [hsplit] at hb hsorted
      rcases List.mem_append.1 hb with hb | hb
      · have hnot := hbefore b hb
        rw [decide_eq_true hnearest'] at hnot
        cases hnot
      · rcases List.mem_cons.1 hb with rfl | hb
        · exact Position.linear_le.refl _
        · exact (List.pairwise_cons.1 (List.pairwise_append.1 hsorted).2.1).1 b hb
    -- No other place is nearest and comes as early as `a`.
    cases hfind' : l'.find? _ with
    | none =>
      refine absurd ?_ (List.find?_eq_none.1 hfind' a (hperm.mem_iff.1 hmem))
      rw [decide_eq_true_eq]
      refine ⟨(hsame a).1 hnearest, fun b hb hnearest' => ?_⟩
      exact hfirst b (hperm.mem_iff.2 hb) ((hsame b).2 hnearest')
    | some b =>
      have hfound := List.find?_some hfind'
      rw [decide_eq_true_eq] at hfound
      have hmem' : b ∈ l := hperm.mem_iff.2 (List.mem_of_find?_eq_some hfind')
      have hnearest' := (hsame b).2 hfound.1
      have hposition := key_eq_of_isNearest Position.linear_le hmem hmem' hnearest hnearest'
      have hplace : a.1 = b.1 := by
        obtain ⟨⟨sa, pa⟩, ga⟩ := a
        obtain ⟨⟨sb, pb⟩, gb⟩ := b
        rw [SourcePlace.mk.injEq]
        exact ⟨(hsource _ hmem).trans (hsource _ hmem').symm, hposition⟩
      have hgenerated : a.2 = b.2 := by
        apply Position.linear_le.antisymm
        · exact hfirst b hmem' hnearest'
        · exact hfound.2 a (hperm.mem_iff.1 hmem) ((hsame a).1 hnearest)
      exact congrArg some (Prod.ext hplace hgenerated)

namespace Index

variable {sources : List String} {segments : List Segment} {p : Position}

theorem pairwise_byGenerated (sources : List String) (segments : List Segment) :
    (ofSegments sources segments).byGenerated.Pairwise fun a b =>
      a.generated.le b.generated = true :=
  pairwise_mergeSort_key Position.linear_le Segment.generated segments

theorem nearest_byGenerated (sources : List String) (segments : List Segment) (p : Position)
    (bias : Bias) :
    (nearest bias Position.le Segment.generated p (ofSegments sources segments).byGenerated).filter
      (fun s => s.generated.line = p.line) = nearestOnLine bias p segments := by
  have hbetween : ∀ a b c : Position, decide (a.line = p.line) = true →
      decide (c.line = p.line) = true → a.le b = true → b.le c = true →
      decide (b.line = p.line) = true := by
    intro a b c ha hc hab hbc
    rw [decide_eq_true_eq] at ha hc ⊢
    exact (Position.line_of_between (ha.trans hc.symm) hab hbc).trans ha
  -- On the line of `p` positions are compared by their columns.
  have hline : ∀ s ∈ segments.filter fun s => s.generated.line = p.line,
      s.generated.line = p.line := fun s hs => of_decide_eq_true (List.mem_filter.1 hs).2
  have hcolumn : ∀ q q' : Position, q.line = q'.line → q.le q' = columnLe q.column q'.column := by
    intro q q' hqq
    rw [Bool.eq_iff_iff, Position.le_iff_of_line_eq hqq, columnLe, decide_eq_true_eq]
  calc (nearest bias Position.le Segment.generated p _).filter _
      = (searchAll bias Position.le Segment.generated p segments).filter
          fun s => s.generated.line = p.line := by
        rw [nearest_eq_searchAll Position.linear_le (pairwise_byGenerated sources segments)]
        exact congrArg (Option.filter _) (searchAll_mergeSort Position.linear_le bias _ p segments)
    _ = searchAll bias Position.le Segment.generated p
          (segments.filter fun s => s.generated.line = p.line) :=
        filter_searchAll hbetween (decide_eq_true rfl) Position.linear_le
    _ = nearestOnLine bias p segments := by
        apply searchAll_congr
        · intro s hs
          cases bias with
          | down => exact hcolumn _ _ (hline s hs)
          | up => exact hcolumn _ _ (hline s hs).symm
        · intro s hs t ht
          cases bias with
          | down => exact hcolumn _ _ ((hline t ht).trans (hline s hs).symm)
          | up => exact hcolumn _ _ ((hline s hs).trans (hline t ht).symm)

theorem nearest_byPlace (sources : List String) (segments : List Segment) (p : Position)
    (bias : Bias) (i : Nat) :
    (nearest bias SourcePlace.le Prod.fst ⟨i, p⟩ (ofSegments sources segments).byPlace).filter
      (fun a => a.1.source = i) =
      nearestPlace bias p ((places segments).filter fun a => a.1.source = i) := by
  let placed := places (ofSegments sources segments).byGenerated
  have hsorted : (ofSegments sources segments).byPlace.Pairwise fun a b => a.1.le b.1 = true :=
    pairwise_mergeSort_key SourcePlace.linear_le Prod.fst placed
  have hbetween : ∀ a b c : SourcePlace, decide (a.source = i) = true →
      decide (c.source = i) = true → a.le b = true → b.le c = true →
      decide (b.source = i) = true := by
    intro a b c ha hc hab hbc
    rw [decide_eq_true_eq] at ha hc ⊢
    rw [SourcePlace.le_iff] at hab hbc
    omega
  have hsource : ∀ a ∈ placed.filter fun a => a.1.source = i, a.1.source = i :=
    fun a ha => of_decide_eq_true (List.mem_filter.1 ha).2
  -- In one source places are compared by their positions.
  have hposition : ∀ a b : SourcePlace, a.source = b.source →
      a.le b = a.position.le b.position := by
    intro a b hab
    rw [Bool.eq_iff_iff, SourcePlace.le_iff]
    simp [hab]
  have hperm : (placed.filter fun a => a.1.source = i).Perm
      ((places segments).filter fun a => a.1.source = i) :=
    ((List.mergeSort_perm segments _).filterMap _).filter _
  have hgenerated : (placed.filter fun a => a.1.source = i).Pairwise fun a b =>
      a.2.le b.2 = true := (pairwise_places (pairwise_byGenerated sources segments)).filter _
  calc (nearest bias SourcePlace.le Prod.fst ⟨i, p⟩ _).filter _
      = (searchAll bias SourcePlace.le Prod.fst ⟨i, p⟩ placed).filter fun a => a.1.source = i := by
        rw [nearest_eq_searchAll SourcePlace.linear_le hsorted]
        exact congrArg (Option.filter _) (searchAll_mergeSort SourcePlace.linear_le bias _ _ placed)
    _ = searchAll bias SourcePlace.le Prod.fst ⟨i, p⟩ (placed.filter fun a => a.1.source = i) :=
        filter_searchAll hbetween (decide_eq_true rfl) SourcePlace.linear_le
    _ = searchAll bias Position.le (·.1.position) p (placed.filter fun a => a.1.source = i) := by
        apply searchAll_congr
        · intro a ha
          cases bias with
          | down => exact hposition _ _ (hsource a ha)
          | up => exact hposition _ _ (hsource a ha).symm
        · intro a ha b hb
          cases bias with
          | down => exact hposition _ _ ((hsource b hb).trans (hsource a ha).symm)
          | up => exact hposition _ _ ((hsource a ha).trans (hsource b hb).symm)
    _ = nearestPlace bias p ((places segments).filter fun a => a.1.source = i) :=
        searchAll_eq_nearestPlace hperm hgenerated hsource bias p

theorem place?_ofSegments (hp : p.isValid = true) (bias : Bias) :
    (ofSegments sources segments).place? p bias =
      (nearestOnLine bias p segments).bind fun s => s.place.bind fun place =>
        sources[place.source]?.map fun name => (name, place.position) := by
  rw [← nearest_byGenerated sources, place?, hp]
  cases nearest bias Position.le Segment.generated p (ofSegments sources segments).byGenerated with
  | none => rfl
  | some s =>
    by_cases hline : s.generated.line = p.line
    · simp only [Bool.not_true, Bool.false_eq_true, if_false, Option.bind_eq_bind, Option.bind_some,
        hline, ne_eq, not_true_eq_false, Option.filter_some, decide_true, if_true]
      apply Option.bind_congr
      intro place _
      exact Option.map_eq_bind.symm
    · simp [hline, Option.filter_some]

theorem generated?_ofSegments (hp : p.isValid = true) (bias : Bias) (source : String) :
    (ofSegments sources segments).generated? source p bias =
      (sources.idxOf? source).bind fun i =>
        (nearestPlace bias p ((places segments).filter fun a => a.1.source = i)).map (·.2) := by
  rw [generated?, hp]
  show ((sources.idxOf? source).bind fun i => _) = _
  congr 1
  funext i
  rw [← nearest_byPlace sources]
  cases nearest bias SourcePlace.le Prod.fst ⟨i, p⟩ (ofSegments sources segments).byPlace with
  | none => rfl
  | some a =>
    by_cases hsource : a.1.source = i <;> simp [hsource, Option.filter_some]

end Index

/-! ### The look-ups of a map -/

namespace Index

theorem ofMap_eq_ok_iff {d : Document} {m : Index} : ofMap d = .ok m ↔
    d.version = 3 ∧ ∃ segments, readMappings d.sources.length d.mappings = .ok segments ∧
      ofSegments (d.sources.map fun s => joinRoot d.sourceRoot (s.getD "")) segments = m := by
  rw [ofMap]
  split
  · next hversion => exact iff_of_false nofun fun h => hversion h.1
  · next hversion =>
    rw [and_iff_right (not_ne_iff.1 hversion)]
    show (readMappings (d.sources.map _).length _ >>= fun segments => _) = _ ↔ _
    simp only [List.length_map, bind_eq_ok_iff, pure, Except.pure, Except.ok.injEq]

/-- Both look-ups of an index agree with a search through the segments of its map. The place that a
position of the generated file comes from is that of the nearest segment on its line, the first one
in the document if several are equally near, and nothing if there is none or it has no place. The
place where a position of a source went is that of the nearest place in this source, the first one
in the generated file if several are equally near; of sources with one name only the first is
looked at. -/
theorem ofMap_lookups {d : Document} {m : Index} (h : ofMap d = .ok m) {p : Position}
    (hp : p.isValid = true) (bias : Bias) :
    ∃ segments, readMappings d.sources.length d.mappings = .ok segments ∧
      m.sources = d.sources.map (fun s => joinRoot d.sourceRoot (s.getD "")) ∧
      (∀ s ∈ segments, ∀ place, s.place = some place → place.source < m.sources.length) ∧
      m.place? p bias = ((nearestOnLine bias p segments).bind fun s =>
        s.place.bind fun place => m.sources[place.source]?.map fun name =>
          (name, place.position)) ∧
      ∀ source, m.generated? source p bias = (m.sources.idxOf? source).bind fun i =>
        (nearestPlace bias p ((places segments).filter fun a => a.1.source = i)).map (·.2) := by
  rw [ofMap] at h
  split at h
  · cases h
  obtain ⟨segments, hsegments, h⟩ := exists_of_bind_eq_ok h
  cases h
  rw [List.length_map] at hsegments
  refine ⟨segments, hsegments, rfl, ?_, place?_ofSegments hp bias, generated?_ofSegments hp bias⟩
  intro s hs place hplace
  show place.source < (d.sources.map _).length
  rw [List.length_map]
  exact inSources_of_readLines hsegments s hs place hplace

/-- A map of two lines with a segment that has no place. -/
def twoLines : Document := ⟨3, some "src", [some "a.ts"], "AAAA,IAAM,M;EAEJ"⟩

/-- The segments of that map. -/
def segmentsOfTwoLines : List Segment :=
  [⟨⟨1, 0⟩, some ⟨0, ⟨1, 0⟩⟩⟩, ⟨⟨1, 4⟩, some ⟨0, ⟨1, 6⟩⟩⟩, ⟨⟨1, 10⟩, none⟩,
    ⟨⟨2, 2⟩, some ⟨0, ⟨3, 2⟩⟩⟩]

theorem ofMap_lookups_twoLines :
    ∃ m, ofMap twoLines = .ok m ∧ m.place? ⟨1, 6⟩ .down = some ("src/a.ts", ⟨1, 6⟩) ∧
      m.place? ⟨1, 12⟩ .down = none ∧ m.place? ⟨2, 0⟩ .down = none ∧
      m.generated? "src/a.ts" ⟨2, 0⟩ .up = some ⟨2, 2⟩ := by
  have hmap : ofMap twoLines = .ok (ofSegments ["src/a.ts"] segmentsOfTwoLines) := rfl
  refine ⟨_, hmap, ?_⟩
  have hlookups : ∀ p : Position, p.isValid = true → ∀ bias,
      (ofSegments ["src/a.ts"] segmentsOfTwoLines).place? p bias =
        ((nearestOnLine bias p segmentsOfTwoLines).bind fun s => s.place.bind fun place =>
          ["src/a.ts"][place.source]?.map fun name => (name, place.position)) ∧
      (ofSegments ["src/a.ts"] segmentsOfTwoLines).generated? "src/a.ts" p bias =
        (nearestPlace bias p ((places segmentsOfTwoLines).filter fun a => a.1.source = 0)).map
          (·.2) := by
    intro p hp bias
    obtain ⟨segments, hread, -, -, hplace, hgenerated⟩ := ofMap_lookups hmap hp bias
    have hsegments : segments = segmentsOfTwoLines := (Except.ok.inj hread).symm
    rw [hplace, hgenerated, hsegments]
    exact ⟨rfl, rfl⟩
  refine ⟨?_, ?_, ?_, ?_⟩
  · rw [(hlookups ⟨1, 6⟩ rfl .down).1]
    decide
  · rw [(hlookups ⟨1, 12⟩ rfl .down).1]
    decide
  · rw [(hlookups ⟨2, 0⟩ rfl .down).1]
    decide
  · rw [(hlookups ⟨2, 0⟩ rfl .up).2]
    decide

end Index

end Coverage.SourceMap
