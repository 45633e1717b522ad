import Coverage.Proofs.FileRecord.InPlace
import Coverage.Proofs.FileRecord.Views
import Coverage.Proofs.Snapshot.Merge

/-!
# What the views show of a merge

A merge has what each of its sides has, described in the same way and with as many hits or more
(`Covers`). What the views show can only grow with that: the hits of a line and the tallies
(`Covers.summary_le`). A merge has no more than the hits of both sides together, so a line that no
side has hit stays uncovered.
-/

namespace Coverage.FileRecord

variable {r : FileRecord} {line : UInt32}

/-- A record has what another one has: the same descriptions, and as many hits or more. -/
structure Covers (r x : FileRecord) : Prop where
  statements : ∀ id l, x.statements.get? id = some l → r.statements.get? id = some l
  functions : ∀ id f, x.functions.get? id = some f → r.functions.get? id = some f
  branches : ∀ id b, x.branches.get? id = some b → r.branches.get? id = some b
  counts : ∀ c, x.count c ≤ r.count c

namespace Covers

variable {x : FileRecord}

theorem startsOn (h : Covers r x) (hline : x.StartsOn line) : r.StartsOn line := by
  obtain ⟨id, l, hl, hline⟩ := hline
  exact ⟨id, l, h.statements id l hl, hline⟩

theorem lineCount_le (h : Covers r x) (line : UInt32) : x.lineCount line ≤ r.lineCount line := by
  by_cases hline : x.StartsOn line
  · obtain ⟨id, l, hl, rfl, hcount⟩ := exists_count_eq_lineCount hline
    rw [← hcount]
    exact UInt64.le_trans (h.counts _) (count_le_lineCount (h.statements id l hl))
  · rw [lineCount_eq_zero hline]
    exact UInt64.zero_le

/-- The tallies grow with the record. -/
theorem summary_le (h : Covers r x) (hr : r.Sound) (hx : x.Sound)
    (hmemory : r.outcomeCounters.length < 2 ^ 64) :
    ∀ group ∈ [Summary.lines, Summary.statements, Summary.functions, Summary.branches],
      (group x.summary).total ≤ (group r.summary).total ∧
        (group x.summary).covered ≤ (group r.summary).covered := by
  obtain ⟨hstatements, hfunctions, -⟩ := summary_eq hr
  obtain ⟨hstatements', hfunctions', -⟩ := summary_eq hx
  simp only [List.forall_mem_cons, List.not_mem_nil, false_imp_iff, implies_true, and_true]
  rw [summary_lines, summary_lines, hstatements, hstatements', hfunctions, hfunctions',
    summary_branches hr, summary_branches hx]
  refine ⟨?_, ?_, ?_, ?_⟩
  · apply Tally.ofHits_mono (Table.nodup_keys _) _ r.lineHits.length_keys_lt
    · exact fun _ _ => rfl
    · exact fun line _ => h.lineCount_le line
    · intro line hline
      exact mem_keys_lineHits_iff.2 (h.startsOn (mem_keys_lineHits_iff.1 hline))
  · apply Tally.ofHits_mono (Table.nodup_keys _) (Table.keys_subset h.statements)
      r.statements.length_keys_lt
    · intro id hid
      obtain ⟨l, hl⟩ := Table.mem_keys_iff.1 hid
      rw [skips, skips, hl, h.statements id l hl]
    · exact fun id _ => h.counts (.statement id)
  · apply Tally.ofHits_mono (Table.nodup_keys _) (Table.keys_subset h.functions)
      r.functions.length_keys_lt
    · intro id hid
      obtain ⟨f, hf⟩ := Table.mem_keys_iff.1 hid
      rw [skips, skips, hf, h.functions id f hf]
    · exact fun id _ => h.counts (.function id)
  · apply Tally.ofHits_mono (nodup_outcomeCounters x) _ hmemory
    · intro c hc
      obtain ⟨id, b, j, hb, -, rfl⟩ := mem_outcomeCounters.1 hc
      rw [skips, skips, hb, h.branches id b hb]
    · exact fun c _ => h.counts c
    · intro c hc
      obtain ⟨id, b, j, hb, hj, rfl⟩ := mem_outcomeCounters.1 hc
      exact mem_outcomeCounters.2 ⟨id, b, j, h.branches id b hb, hj, rfl⟩

end Covers

section Merge

variable {a b : FileRecord}

/-- Two executed records that merge are both in the result. -/
theorem combination_of_merge (ha : a.Sound) (hb : b.Sound) (hrun : a.unexecuted = false)
    (hrun' : b.unexecuted = false) (h : a.merge b = .ok r) : Combination r [a, b] := by
  have hpath : a.path = b.path := by
    by_contra hne
    rw [merge_paths_differ hne] at h
    cases h
  have hexecuted : executed [a, b] = [a, b] := by simp [executed, hrun, hrun']
  have hout := outcome_merge hpath ha hb
  rw [h] at hout
  cases hout with
  | leftmost _ _ _ hnone _ =>
    rw [hexecuted] at hnone
    cases hnone
  | combined _ _ _ hr => rwa [hexecuted] at hr

/-- What one of two records lacks does not hide what the other has, where they agree on what both
have. -/
theorem get?_or_of_alike {α : Type} {t t₁ t₂ : Table α}
    (h : ∀ id, t.get? id = (t₁.get? id).or (t₂.get? id))
    (halike : ∀ id x y, t₁.get? id = some x → t₂.get? id = some y → x = y) (id : Id) (y : α)
    (hy : t₂.get? id = some y) : t.get? id = some y := by
  rw [h id, hy]
  cases hx : t₁.get? id with
  | none => rfl
  | some x => rw [halike id x y hx hy]; rfl

/-- A merge has what each side has, and of each counter what both have together. -/
theorem Combination.covers (h : Combination r [a, b]) (ha : a.Sound) (hb : b.Sound)
    (halike : a.DescribesAlike b) (hfit : CountersFit [a, b]) :
    r.Covers a ∧ r.Covers b ∧ ∀ c, (r.count c).toNat = (a.count c).toNat + (b.count c).toNat := by
  have hunites := h.unites ha hb
  have hcount : ∀ c, (r.count c).toNat = (a.count c).toNat + (b.count c).toNat := by
    intro c
    rw [(h.sumsOf (List.forall_mem_cons.2 ⟨ha, List.forall_mem_singleton.2 hb⟩) hfit).hits c]
    simp
  -- The descriptions of `a` come first, so only those of `b` need that the two agree.
  refine ⟨⟨?_, ?_, ?_, ?_⟩, ⟨?_, ?_, ?_, ?_⟩, hcount⟩
  · intro id l hl
    rw [hunites.statements, hl, Option.some_or]
  · intro id f hf
    rw [hunites.functions, hf, Option.some_or]
  · intro id e he
    rw [hunites.branches, he, Option.some_or]
  · intro c
    rw [UInt64.le_iff_toNat_le, hcount]
    exact Nat.le_add_right _ _
  · exact get?_or_of_alike hunites.statements halike.statements
  · exact get?_or_of_alike hunites.functions halike.functions
  · exact get?_or_of_alike hunites.branches halike.branches
  · intro c
    rw [UInt64.le_iff_toNat_le, hcount]
    exact Nat.le_add_left _ _

/-- The counter of a statement of a merge stands at no more on a side than the hits of its line
there, also where the side does not have the statement. -/
theorem Covers.count_le_lineCount {x : FileRecord} (h : r.Covers x) (hx : x.Sound) {id : Id}
    {l : Location} (hl : r.statements.get? id = some l) :
    x.count (.statement id) ≤ x.lineCount l.start.line := by
  cases hsome : x.statements.get? id with
  | some l' =>
    have heq : l' = l := Option.some.inj ((h.statements id l' hsome).symm.trans hl)
    exact heq ▸ FileRecord.count_le_lineCount hsome
  | none =>
    have hnone : x.statementHits.get? id = none := by
      rw [Table.get?_eq_none_iff, hx.statements, ← Table.get?_eq_none_iff]
      exact hsome
    rw [count, hnone]
    exact UInt64.zero_le

theorem Unites.startsOn_iff (h : Unites r a b) (hcovers : r.Covers a) (hcovers' : r.Covers b)
    (line : UInt32) : r.StartsOn line ↔ a.StartsOn line ∨ b.StartsOn line := by
  constructor
  · intro hline
    obtain ⟨id, l, hl, hline⟩ := hline
    rw [h.statements, Option.or_eq_some_iff] at hl
    exact hl.imp (fun hl => ⟨id, l, hl, hline⟩) fun hl => ⟨id, l, hl.2, hline⟩
  · intro hline
    exact hline.elim hcovers.startsOn hcovers'.startsOn

/-- A line that no statement starts on has no hits, so a line without hits is one that every side
with a statement there shows as uncovered. -/
theorem lineCount_eq_zero_iff_of_startsOn (x : FileRecord) (line : UInt32) :
    x.lineCount line = 0 ↔ (x.StartsOn line → line ∈ x.uncoveredLines) := by
  rw [mem_uncoveredLines_iff]
  constructor
  · intro hzero hline
    exact ⟨hline, hzero⟩
  · intro h
    by_cases hline : x.StartsOn line
    · exact (h hline).2
    · exact lineCount_eq_zero hline

/-- Each line of a merge has no less hits than a side has there, and no more than both together. -/
theorem lineCount_bounds (ha : a.Sound) (hb : b.Sound) (hcovers : r.Covers a) (hcovers' : r.Covers b)
    (hcount : ∀ c, (r.count c).toNat = (a.count c).toNat + (b.count c).toNat) (line : UInt32) :
    max (a.lineCount line) (b.lineCount line) ≤ r.lineCount line ∧
      (r.lineCount line).toNat ≤ (a.lineCount line).toNat + (b.lineCount line).toNat := by
  refine ⟨Std.max_le_iff.2 ⟨hcovers.lineCount_le line, hcovers'.lineCount_le line⟩, ?_⟩
  by_cases hline : r.StartsOn line
  · obtain ⟨id, l, hl, rfl, hbest⟩ := exists_count_eq_lineCount hline
    rw [← hbest, hcount]
    exact Nat.add_le_add (UInt64.le_iff_toNat_le.1 (hcovers.count_le_lineCount ha hl))
      (UInt64.le_iff_toNat_le.1 (hcovers'.count_le_lineCount hb hl))
  · rw [lineCount_eq_zero hline]
    exact Nat.zero_le _

/-- What the views show of a merge of two records of one file that were both run. A counter was hit
if it was hit on some side. A line is uncovered if some side has a statement on it and all those that
have one show it as uncovered; its hits are between the greater and the sum of those of the sides. No
tally is less than that of a side. All counts of outcomes stand in memory together, so there are
always fewer of them than a word of 64 bits can count. -/
theorem merge_views (ha : a.validate = .ok ()) (hb : b.validate = .ok ())
    (hrun : a.unexecuted = false) (hrun' : b.unexecuted = false) (halike : a.DescribesAlike b)
    (hfit : CountersFit [a, b]) (h : a.merge b = .ok r)
    (hmemory : r.outcomeCounters.length < 2 ^ 64) :
    (∀ c, r.count c ≠ 0 ↔ a.count c ≠ 0 ∨ b.count c ≠ 0) ∧
    (∀ line, line ∈ r.uncoveredLines ↔ (a.StartsOn line ∨ b.StartsOn line) ∧
      (a.StartsOn line → line ∈ a.uncoveredLines) ∧
      (b.StartsOn line → line ∈ b.uncoveredLines)) ∧
    (∀ line, max (a.lineCount line) (b.lineCount line) ≤ r.lineCount line ∧
      (r.lineCount line).toNat ≤ (a.lineCount line).toNat + (b.lineCount line).toNat) ∧
    ∀ x ∈ [a, b],
      ∀ group ∈ [Summary.lines, Summary.statements, Summary.functions, Summary.branches],
        (group x.summary).total ≤ (group r.summary).total ∧
          (group x.summary).covered ≤ (group r.summary).covered := by
  have hsound := Sound.of_validate ha
  have hsound' := Sound.of_validate hb
  have hcomb := combination_of_merge hsound hsound' hrun hrun' h
  obtain ⟨hcovers, hcovers', hcount⟩ := hcomb.covers hsound hsound' halike hfit
  have hbounds := lineCount_bounds hsound hsound' hcovers hcovers' hcount
  refine ⟨?_, ?_, hbounds, ?_⟩
  · intro c
    have hsum := hcount c
    simp only [ne_eq, ← UInt64.toNat_inj, UInt64.toNat_zero]
    omega
  · intro line
    have hzero : r.lineCount line = 0 ↔ a.lineCount line = 0 ∧ b.lineCount line = 0 := by
      obtain ⟨hmax, hsum⟩ := hbounds line
      rw [Std.max_le_iff] at hmax
      simp only [UInt64.le_iff_toNat_le] at hmax
      simp only [← UInt64.toNat_inj, UInt64.toNat_zero]
      omega
    rw [mem_uncoveredLines_iff, (hcomb.unites hsound hsound').startsOn_iff hcovers hcovers', hzero,
      lineCount_eq_zero_iff_of_startsOn, lineCount_eq_zero_iff_of_startsOn]
  · have hr := hcomb.sound
    exact List.forall_mem_cons.2 ⟨hcovers.summary_le hr hsound hmemory,
      List.forall_mem_singleton.2 (hcovers'.summary_le hr hsound' hmemory)⟩

end Merge

/-- A run of a file that reached the statement on its first line. -/
def shortRun : FileRecord :=
  { empty "a.js" with
    statements := Table.empty.insert 0 (.between ⟨1, 0⟩ ⟨1, 5⟩)
    statementHits := Table.empty.insert 0 1 }

/-- A run of the same file that knows of a statement on the second line too, and reached none. -/
def idleRun : FileRecord :=
  { empty "a.js" with
    statements := (Table.empty.insert 0 (.between ⟨1, 0⟩ ⟨1, 5⟩)).insert 1 (.between ⟨2, 0⟩ ⟨2, 5⟩)
    statementHits := (Table.empty.insert 0 0).insert 1 0 }

theorem describesAlike_shortRun : shortRun.DescribesAlike idleRun where
  statements id l l' hl hl' := by
    simp only [shortRun, idleRun, Table.get?_insert, Table.get?_empty] at hl hl'
    grind
  functions id f f' hf := by
    simp [shortRun, empty] at hf
  branches id b b' hb := by
    simp [shortRun, empty] at hb

theorem countersFit_shortRun : CountersFit [shortRun, idleRun] := by
  intro c
  cases c with
  | statement id =>
    have hidle : idleRun.count (.statement id) = 0 := by
      simp only [idleRun, count, Table.get?_insert, Table.get?_empty]
      grind
    have hshort : (shortRun.count (.statement id)).toNat ≤ 1 := by
      simp only [shortRun, count, Table.get?_insert, Table.get?_empty]
      split <;> decide
    simp only [List.map_cons, List.map_nil, List.sum_cons, List.sum_nil, hidle, UInt64.toNat_zero]
    omega
  | function id => simp [shortRun, idleRun, count, empty]
  | outcome id j => simp [shortRun, idleRun, count, empty]

/-- The first line stays covered. -/
theorem merge_views_shortRun :
    shortRun.validate = .ok () ∧ idleRun.validate = .ok () ∧ shortRun.unexecuted = false ∧
      idleRun.unexecuted = false ∧ shortRun.DescribesAlike idleRun ∧
      CountersFit [shortRun, idleRun] ∧
      ∃ r, shortRun.merge idleRun = .ok r ∧ r.outcomeCounters.length < 2 ^ 64 ∧
        1 ∉ r.uncoveredLines ∧ 1 ≤ r.lineCount 1 ∧ 1 ≤ r.summary.lines.covered := by
  have hshort : shortRun.validate = .ok () := rfl
  have hidle : idleRun.validate = .ok () := rfl
  obtain ⟨r, hr⟩ : ∃ r, r = { idleRun with statementHits := (Table.empty.insert 0 1).insert 1 0 } :=
    ⟨_, rfl⟩
  have hmerge : shortRun.merge idleRun = .ok r := by rw [hr]; rfl
  have hmemory : r.outcomeCounters.length < 2 ^ 64 := by rw [hr]; decide
  obtain ⟨-, hlines, hbounds, hgroups⟩ := merge_views hshort hidle rfl rfl describesAlike_shortRun
    countersFit_shortRun hmerge hmemory
  refine ⟨hshort, hidle, rfl, rfl, describesAlike_shortRun, countersFit_shortRun, r, hmerge,
    hmemory, ?_, ?_, ?_⟩
  · intro hmem
    have hside := ((hlines 1).1 hmem).2.1 ⟨0, _, rfl, rfl⟩
    exact absurd hside (by decide)
  · exact (hbounds 1).1
  · exact (hgroups shortRun List.mem_cons_self Summary.lines List.mem_cons_self).2

end Coverage.FileRecord
