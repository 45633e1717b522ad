import Coverage.FilePath
import Mathlib.Data.List.Basic

/-!
# Paths and their texts

The segments of a path that was read are not empty and hold no separator (`proper_parse`), and all
paths that are made of its segments are like that. So the text of a path is cut at the separators
only where one segment ends and the next begins: two such paths are equal if their texts are
(`Proper.eq_of_text`).
-/

namespace Coverage

/-- No separator stands in a stretch between separators. -/
theorem Text.not_separator_of_mem_splitWhere (p : Char → Bool) (cs : List Char) :
    ∀ s ∈ splitWhere p cs, ∀ c ∈ s, p c = false := by
  induction cs with
  | nil => simp [splitWhere]
  | cons c cs ih =>
    rw [splitWhere]
    split
    · exact List.forall_mem_cons.2 ⟨fun _ hc => absurd hc List.not_mem_nil, ih⟩
    · next hc =>
      have hc : p c = false := Bool.of_not_eq_true hc
      split
      · simpa using hc
      · next s rest heq =>
        rw [heq] at ih
        obtain ⟨hs, hrest⟩ := List.forall_mem_cons.1 ih
        exact List.forall_mem_cons.2 ⟨List.forall_mem_cons.2 ⟨hc, hs⟩, hrest⟩

namespace FilePath

variable {p q : FilePath}

/-! ### Segments -/

/-- The segments of a path are not empty and hold no separator. -/
def Proper (p : FilePath) : Prop :=
  ∀ s ∈ p.segments, s ≠ "" ∧ ∀ c ∈ s.toList, isSeparator c = false

theorem proper_root : root.Proper := nofun

theorem proper_parse (text : String) : (parse text).Proper := by
  have hall : ∀ cs ∈ segmentsOf text.toList,
      String.ofList cs ≠ "" ∧ ∀ c ∈ (String.ofList cs).toList, isSeparator c = false := by
    intro cs hcs
    obtain ⟨hsplit, hne⟩ := List.mem_filter.1 hcs
    rw [String.toList_ofList]
    refine ⟨fun hempty => ?_, Text.not_separator_of_mem_splitWhere _ _ cs hsplit⟩
    have hnil := congrArg String.toList hempty
    rw [String.toList_ofList] at hnil
    simp [hnil] at hne
  rw [parse, Proper]
  refine List.forall_mem_map.2 fun cs hcs => hall cs ?_
  -- A drive letter in front is left out.
  split at hcs
  · next first rest heq =>
    split at hcs
    · exact heq ▸ List.mem_cons_of_mem first hcs
    · exact hcs
  · cases hcs

theorem Proper.of_subset (h : p.Proper) (hsubset : q.segments ⊆ p.segments) : q.Proper :=
  fun s hs => h s (hsubset hs)

theorem Proper.of_isPrefix (h : p.Proper) (hleads : q.segments <+: p.segments) : q.Proper :=
  h.of_subset hleads.subset

theorem Proper.directory (h : p.Proper) : p.directory.Proper :=
  h.of_isPrefix (List.dropLast_prefix _)

theorem Proper.strip (h : p.Proper) (n : Nat) : (p.strip n).Proper :=
  h.of_subset (List.drop_subset _ _)

theorem Proper.unshift (h : p.Proper) {segment : String}
    (hsegment : segment ≠ "" ∧ ∀ c ∈ segment.toList, isSeparator c = false) :
    (p.unshift segment).Proper :=
  List.forall_mem_cons.2 ⟨hsegment, h⟩

theorem segments_ne_nil (hroot : p.isRoot = false) : p.segments ≠ [] := by
  simpa [isRoot] using hroot

/-- The last segment of a path is one of its segments. -/
theorem Proper.name (h : p.Proper) (hroot : p.isRoot = false) :
    p.name ≠ "" ∧ ∀ c ∈ p.name.toList, isSeparator c = false := by
  have hne := segments_ne_nil hroot
  rw [FilePath.name, List.getLast?_eq_some_getLast hne]
  exact h _ (List.getLast_mem hne)

/-- A path goes on from its directory by its name. -/
theorem directory_push_name (hroot : p.isRoot = false) : p.directory.push p.name = p := by
  have hne := segments_ne_nil hroot
  rw [push, directory, name, List.getLast?_eq_some_getLast hne]
  exact congrArg mk (List.dropLast_append_getLast hne)

/-! ### Texts -/

/-- Cutting the text of a path at the slashes gives its segments again. -/
theorem Proper.splitOn_text (h : p.Proper) (hroot : p.isRoot = false) :
    p.text.toList.splitOn '/' = p.segments.map String.toList := by
  have hne := segments_ne_nil hroot
  rw [text, String.toList_intercalate]
  refine List.splitOn_intercalate '/' ?_ (by simpa using hne)
  refine List.forall_mem_map.2 fun s hs hslash => ?_
  exact absurd ((h s hs).2 '/' hslash) (by decide)

theorem Proper.text_ne_empty (h : p.Proper) (hroot : p.isRoot = false) : p.text ≠ "" := by
  intro hempty
  have hsplit := h.splitOn_text hroot
  rw [hempty] at hsplit
  obtain ⟨s, hs, hnil⟩ : ∃ s ∈ p.segments, s.toList = [] :=
    List.mem_map.1 (hsplit ▸ List.mem_singleton.2 rfl)
  exact (h s hs).1 (String.toList_eq_nil_iff.1 hnil)

/-- Two paths are equal if their texts are. -/
theorem Proper.eq_of_text (hp : p.Proper) (hq : q.Proper) (h : p.text = q.text) : p = q := by
  have heq_of_isRoot : ∀ {p : FilePath}, p.isRoot = true → p.text = "" ∧ p.segments = [] := by
    intro p hroot
    have hnil := List.isEmpty_iff.1 hroot
    exact ⟨by rw [text, hnil]; rfl, hnil⟩
  cases hproot : p.isRoot with
  | true =>
    obtain ⟨hempty, hnil⟩ := heq_of_isRoot hproot
    cases hqroot : q.isRoot with
    | true => exact congrArg mk (hnil.trans (heq_of_isRoot hqroot).2.symm)
    | false => exact absurd (h.symm.trans hempty) (hq.text_ne_empty hqroot)
  | false =>
    cases hqroot : q.isRoot with
    | true => exact absurd (h.trans (heq_of_isRoot hqroot).1) (hp.text_ne_empty hproot)
    | false =>
      have hsplit := (hp.splitOn_text hproot).symm.trans (h ▸ hq.splitOn_text hqroot)
      exact congrArg mk (List.map_injective_iff.2 (fun _ _ => String.toList_inj.1) hsplit)

end FilePath

end Coverage
