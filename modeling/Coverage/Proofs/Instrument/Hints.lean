import Coverage.Instrument.Hints

/-!
# Hints in front of an offset

A comment with a hint stands in front of an offset if nothing but gaps and comments without a hint
stand between (`HintAhead`). The hint of such a comment is found (`hintBefore_of_ahead`). None of
the comments may end with a gap, since the search takes such an end for a gap behind the comment.
-/

namespace Coverage.Instrument

/-- There is nothing but gaps between two offsets. -/
def OnlyGaps (src : List Char) (start stop : Nat) : Prop :=
  start ≤ stop ∧ ∀ c ∈ Text.slice start stop src, isGap c = true

/-- There is nothing but gaps and the given comments between two offsets, and none of the comments
has a hint. -/
def LeadsTo (src : List Char) : Nat → List Comment → Nat → Prop
  | start, [], stop => OnlyGaps src start stop
  | start, c :: rest, stop =>
    OnlyGaps src start c.start ∧ (c.hint = none ∧ c.endsInGap = false) ∧
      LeadsTo src c.stop rest stop

/-- One of the comments of a text has a hint and stands directly in front of an offset. -/
def HintAhead (src : List Char) (comments : List Comment) (hint : Hint) (offset : Nat) : Prop :=
  ∃ before c between behind, comments = before ++ c :: (between ++ behind) ∧
    (c.hint = some hint ∧ c.endsInGap = false) ∧ LeadsTo src c.stop between offset ∧
    ∀ d ∈ behind, offset < d.stop

variable {src : List Char} {start stop offset : Nat} {hint : Hint}

theorem onlyGaps_of_all (hle : start ≤ stop)
    (h : (Text.slice start stop src).all isGap = true) : OnlyGaps src start stop :=
  ⟨hle, List.all_eq_true.1 h⟩

theorem utf8Size_of_isGap {c : Char} (h : isGap c = true) : c.utf8Size = 1 := by
  simp only [isGap, Bool.or_eq_true, decide_eq_true_eq] at h
  rcases h with (((rfl | rfl) | rfl) | rfl) | rfl <;> rfl

theorem startsInGaps_of_takeBytes (cs : List Char) (n : Nat)
    (h : ∀ c ∈ Text.takeBytes n cs, isGap c = true) : startsInGaps n cs = true := by
  induction cs generalizing n with
  | nil => cases n <;> rfl
  | cons c cs ih =>
    cases n with
    | zero => rfl
    | succ n =>
      rw [Text.takeBytes, List.forall_mem_cons] at h
      obtain ⟨hc, hrest⟩ := h
      rw [utf8Size_of_isGap hc, Nat.add_sub_cancel] at hrest
      rw [startsInGaps, hc, ih n hrest]
      rfl

theorem leadsTo_append_singleton {c : Comment} (between : List Comment) :
    LeadsTo src start (between ++ [c]) stop ↔
      LeadsTo src start between c.start ∧ (c.hint = none ∧ c.endsInGap = false) ∧
        OnlyGaps src c.stop stop := by
  induction between generalizing start with
  | nil => rfl
  | cons d rest ih =>
    rw [List.cons_append, LeadsTo, LeadsTo, ih]
    simp only [and_assoc]

/-- A comment that only gaps follow is come upon first. -/
theorem hintBefore_cons {c : Comment} (earlier : List Comment) (hgaps : OnlyGaps src c.stop offset)
    (hend : c.endsInGap = false) :
    hintBefore src (c :: earlier) offset = c.hint.or (hintBefore src earlier c.start) := by
  have hstarts := startsInGaps_of_takeBytes (Text.dropBytes c.stop src) (offset - c.stop) hgaps.2
  rw [hintBefore, if_neg (Nat.not_lt_of_le hgaps.1), hend, hstarts]
  rfl

/-- Comments that end behind an offset do not count. -/
theorem hintBefore_append {behind : List Comment} (earlier : List Comment)
    (h : ∀ d ∈ behind, offset < d.stop) :
    hintBefore src (behind ++ earlier) offset = hintBefore src earlier offset := by
  induction behind with
  | nil => rfl
  | cons d rest ih =>
    obtain ⟨hd, hrest⟩ := List.forall_mem_cons.1 h
    rw [List.cons_append, hintBefore, if_pos hd, ih hrest]

/-- The search passes over comments without a hint. -/
theorem hintBefore_of_leadsTo {c : Comment} (earlier : List Comment) (hhint : c.hint = some hint)
    (hend : c.endsInGap = false) {between : List Comment} (h : LeadsTo src c.stop between offset) :
    hintBefore src (between.reverse ++ c :: earlier) offset = some hint := by
  induction hbetween : between.reverse generalizing between offset with
  | nil =>
    obtain rfl := List.reverse_eq_nil_iff.1 hbetween
    rw [List.nil_append, hintBefore_cons earlier h hend, hhint]
    rfl
  | cons d rest ih =>
    obtain rfl : between = rest.reverse ++ [d] := by
      rw [← List.reverse_cons, ← hbetween, List.reverse_reverse]
    obtain ⟨hrest, ⟨hnone, hopen⟩, hgaps⟩ := (leadsTo_append_singleton _).1 h
    rw [List.cons_append, hintBefore_cons _ hgaps hopen, hnone, Option.none_or]
    exact ih hrest (List.reverse_reverse rest)

theorem hintBefore_of_ahead {comments : List Comment} (h : HintAhead src comments hint offset) :
    hintBefore src comments.reverse offset = some hint := by
  obtain ⟨before, c, between, behind, rfl, ⟨hhint, hend⟩, hleads, hbehind⟩ := h
  have hreverse : (before ++ c :: (between ++ behind)).reverse =
      behind.reverse ++ (between.reverse ++ c :: before.reverse) := by simp
  rw [hreverse, hintBefore_append _ fun d hd => hbehind d (List.mem_reverse.1 hd)]
  exact hintBefore_of_leadsTo _ hhint hend hleads

end Coverage.Instrument
