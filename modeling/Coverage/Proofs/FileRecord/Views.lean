import Coverage.FileRecord.Views
import Coverage.Proofs.FileRecord.Validity
import Coverage.Proofs.Summary
import Mathlib.Data.List.Nodup

/-!
# The views of a record agree

The views go through a record in different ways: the hits of a line are gathered from the statements
that start on it (`lineHits_eq_some_iff`), the outcomes of a line from the branches that are reported
on it (`total_lineCounts`), and a tally goes through the counters (`summary_eq`). In a record whose
descriptions and counters agree none of them leaves an entry out, so they come to the same numbers
(`views_agree`).
-/

namespace Coverage

namespace FileRecord

open Instrument (Counter)

variable {r : FileRecord} {line : UInt32} {n : UInt64}

/-! ### What the tallies go by -/

/-- Whether the entry of a counter is skipped. -/
def skips (r : FileRecord) : Counter → Bool
  | .statement id => (r.statements.get? id).any (·.skip)
  | .function id => (r.functions.get? id).any (·.skip)
  | .outcome id j => ((r.branches.get? id).bind (·.outcomes[j]?)).any (·.skip)

/-- The entries of a table of counters, each with what `f` says of it, are those of the table of
descriptions beside it. -/
theorem map_entries_eq {α β γ : Type} {t : Table α} {hits : Table γ} (h : hits.keys = t.keys)
    {f : Id × γ → β} {g : Id → β} (hfg : ∀ id n, hits.get? id = some n → f (id, n) = g id) :
    hits.entries.map f = t.keys.map g := by
  rw [← h, Table.keys, List.map_map]
  exact List.map_congr_left fun e he => hfg e.1 e.2 (Table.get?_eq_some_iff.2 he)

theorem withSkips_eq (counts : List UInt64) (outcomes : List Location) :
    withSkips counts outcomes = (List.range counts.length).map fun j =>
      (counts.getD j 0, outcomes[j]?.any (·.skip)) := by
  induction counts generalizing outcomes with
  | nil => rfl
  | cons n counts ih =>
    rw [List.length_cons, List.range_succ_eq_map, List.map_cons, List.map_map]
    cases outcomes with
    | nil => simp [withSkips, ih, Function.comp_def]
    | cons l outcomes => simp [withSkips, ih, Function.comp_def]

/-- The tallies of statements, functions and outcomes count each entry once, by its counter, as
skipped or not. -/
theorem summary_eq (hr : r.Sound) :
    r.summary.statements = Tally.ofHits (r.statements.keys.map fun id =>
      (r.count (.statement id), r.skips (.statement id))) ∧
    r.summary.functions = Tally.ofHits (r.functions.keys.map fun id =>
      (r.count (.function id), r.skips (.function id))) ∧
    r.summary.branches = Tally.ofHits (r.branches.keys.flatMap fun id =>
      (List.range (r.outcomeCount id)).map fun j =>
        (r.count (.outcome id j), r.skips (.outcome id j))) := by
  refine ⟨congrArg Tally.ofHits ?_, congrArg Tally.ofHits ?_, congrArg Tally.ofHits ?_⟩
  · apply map_entries_eq hr.statements
    intro id n hn
    rw [count, hn, skips]
    cases r.statements.get? id <;> rfl
  · apply map_entries_eq hr.functions
    intro id n hn
    rw [count, hn, skips]
    cases r.functions.get? id <;> rfl
  · rw [outcomeEntries, List.flatMap_def, List.flatMap_def]
    congr 1
    apply map_entries_eq hr.branches
    intro id counts hcounts
    rw [withSkips_eq, hr.outcomes id counts hcounts]
    refine List.map_congr_left fun j _ => ?_
    rw [count, hcounts, skips]
    cases r.branches.get? id <;> rfl

/-! ### The hits of a line -/

instance : Std.LawfulOrderMax UInt64 where
  max_eq_or a b := by
    change (if a ≤ b then b else a) = a ∨ (if a ≤ b then b else a) = b
    split
    · exact .inr rfl
    · exact .inl rfl
  max_le_iff a b c := by
    change (if a ≤ b then b else a) ≤ c ↔ a ≤ c ∧ b ≤ c
    simp only [UInt64.le_iff_toNat_le]
    split <;> omega

/-- Some statement starts on a line. -/
def StartsOn (r : FileRecord) (line : UInt32) : Prop :=
  ∃ id l, r.statements.get? id = some l ∧ l.start.line = line

/-- The hits of a line; one on which no statement starts has none. -/
def lineCount (r : FileRecord) (line : UInt32) : UInt64 := (r.lineHits.get? line).getD 0

theorem foldl_max (best : Option UInt64) (ns : List UInt64) :
    ns.foldl (fun best n => some (match best with | some b => max b n | none => n)) best =
      (best.toList ++ ns).max? := by
  induction ns generalizing best with
  | nil => cases best <;> rfl
  | cons n ns ih =>
    rw [List.foldl_cons, ih]
    cases best <;> rfl

/-- The hits of a line are the greatest of those of the statements that start on it. -/
theorem get?_lineHits (r : FileRecord) (line : UInt32) :
    r.lineHits.get? line = ((r.statements.entries.filter fun e => e.2.start.line = line).map
      fun e => r.count (.statement e.1)).max? := by
  have hgather := Table.get?_gather (fun e : Id × Location => e.2.start.line)
    (fun e best => match best with
      | some b => max b (r.count (.statement e.1))
      | none => r.count (.statement e.1)) r.statements.entries .empty line
  have hmax := foldl_max none ((r.statements.entries.filter fun e => e.2.start.line = line).map
    fun e => r.count (.statement e.1))
  rw [List.foldl_map] at hmax
  exact hgather.trans hmax

theorem lineHits_eq_some_iff : r.lineHits.get? line = some n ↔
    (∃ id l, r.statements.get? id = some l ∧ l.start.line = line ∧ r.count (.statement id) = n) ∧
    ∀ id l, r.statements.get? id = some l → l.start.line = line →
      r.count (.statement id) ≤ n := by
  rw [get?_lineHits, List.max?_eq_some_iff]
  simp only [List.mem_map, List.mem_filter, decide_eq_true_eq, Prod.exists,
    ← Table.get?_eq_some_iff, forall_exists_index, and_imp, and_assoc]
  refine and_congr_right fun _ => ⟨fun h id l hl hline => h _ id l hl hline rfl, ?_⟩
  rintro h _ id l hl hline rfl
  exact h id l hl hline

theorem mem_keys_lineHits_iff : line ∈ r.lineHits.keys ↔ r.StartsOn line := by
  rw [← not_iff_not, ← Table.get?_eq_none_iff, get?_lineHits, List.max?_eq_none_iff,
    List.map_eq_nil_iff, List.filter_eq_nil_iff]
  simp only [Prod.forall, ← Table.get?_eq_some_iff, decide_eq_true_eq, StartsOn, not_exists,
    not_and]

theorem count_le_lineCount {id : Id} {l : Location} (hl : r.statements.get? id = some l) :
    r.count (.statement id) ≤ r.lineCount l.start.line := by
  have hmem : l.start.line ∈ r.lineHits.keys := mem_keys_lineHits_iff.2 ⟨id, l, hl, rfl⟩
  obtain ⟨n, hn⟩ := Table.mem_keys_iff.1 hmem
  rw [lineCount, hn]
  exact (lineHits_eq_some_iff.1 hn).2 id l hl rfl

/-- The hits of a line are those of one of its statements. -/
theorem exists_count_eq_lineCount (h : r.StartsOn line) :
    ∃ id l, r.statements.get? id = some l ∧ l.start.line = line ∧
      r.count (.statement id) = r.lineCount line := by
  obtain ⟨n, hn⟩ := Table.mem_keys_iff.1 (mem_keys_lineHits_iff.2 h)
  rw [lineCount, hn]
  exact (lineHits_eq_some_iff.1 hn).1

theorem lineCount_eq_zero (h : ¬ r.StartsOn line) : r.lineCount line = 0 := by
  rw [← mem_keys_lineHits_iff, ← Table.get?_eq_none_iff] at h
  rw [lineCount, h]
  rfl

theorem lineCount_eq_zero_iff : r.lineCount line = 0 ↔
    ∀ id l, r.statements.get? id = some l → l.start.line = line → r.count (.statement id) = 0 := by
  constructor
  · rintro hzero id l hl rfl
    exact UInt64.le_zero_iff.1 (hzero ▸ count_le_lineCount hl)
  · intro hzero
    by_cases hstarts : r.StartsOn line
    · obtain ⟨id, l, hl, hline, hcount⟩ := exists_count_eq_lineCount hstarts
      rw [← hcount, hzero id l hl hline]
    · exact lineCount_eq_zero hstarts

/-! ### Uncovered lines -/

/-- The uncovered lines are those without hits on which some statement starts. -/
theorem uncoveredLines_eq (r : FileRecord) :
    r.uncoveredLines = r.lineHits.keys.filter fun line => r.lineCount line = 0 := by
  rw [uncoveredLines, Table.keys, List.filter_map]
  refine congrArg (List.map _) (List.filter_congr fun e he => ?_)
  simp [lineCount, Table.get?_eq_some_iff.2 he]

theorem mem_uncoveredLines_iff :
    line ∈ r.uncoveredLines ↔ r.StartsOn line ∧ r.lineCount line = 0 := by
  rw [uncoveredLines_eq, List.mem_filter, mem_keys_lineHits_iff, decide_eq_true_eq]

theorem sorted_uncoveredLines (r : FileRecord) : r.uncoveredLines.Pairwise (· < ·) := by
  rw [uncoveredLines_eq]
  exact (Table.sorted_keys r.lineHits).filter _

/-- The tally of the lines counts those on which some statement starts. -/
theorem summary_lines (r : FileRecord) : r.summary.lines =
    Tally.ofHits (r.lineHits.keys.map fun line => (r.lineCount line, false)) := by
  refine congrArg Tally.ofHits ?_
  rw [Table.values, Table.keys, List.map_map, List.map_map]
  refine List.map_congr_left fun e he => ?_
  simp [lineCount, Table.get?_eq_some_iff.2 he]

/-- The lines that the tally does not count as covered are the uncovered ones. -/
theorem lines_total_eq (r : FileRecord) :
    r.summary.lines.total.toNat = r.summary.lines.covered.toNat + r.uncoveredLines.length := by
  obtain ⟨htotal, hcovered, -⟩ := Tally.toNat_ofHits
    (r.lineHits.keys.map fun line => (r.lineCount line, false))
    (by rw [List.length_map]; exact r.lineHits.length_keys_lt)
  rw [summary_lines, htotal, hcovered, uncoveredLines_eq, ← List.countP_eq_length_filter]
  simp only [List.countP_map, Function.comp_def, Bool.not_false, Bool.true_and, List.countP_true]
  rw [List.length_eq_countP_add_countP fun line => 0 < r.lineCount line]
  congr 2
  funext line
  rw [decide_eq_decide, decide_eq_true_eq, UInt64.not_lt, UInt64.le_zero_iff]

/-! ### Outcomes by line -/

/-- The counters of all outcomes of all branches. -/
def outcomeCounters (r : FileRecord) : List Counter :=
  r.branches.keys.flatMap fun id => (List.range (r.outcomeCount id)).map fun j => .outcome id j

theorem mem_outcomeCounters {c : Counter} :
    c ∈ r.outcomeCounters ↔ ∃ id b j, r.branches.get? id = some b ∧ j < b.outcomes.length ∧
      .outcome id j = c := by
  simp only [outcomeCounters, List.mem_flatMap, List.mem_map, List.mem_range, Table.mem_keys_iff]
  constructor
  · rintro ⟨id, ⟨b, hb⟩, j, hj, rfl⟩
    rw [outcomeCount, hb] at hj
    exact ⟨id, b, j, hb, hj, rfl⟩
  · rintro ⟨id, b, j, hb, hj, rfl⟩
    refine ⟨id, ⟨b, hb⟩, j, ?_, rfl⟩
    rwa [outcomeCount, hb]

theorem nodup_outcomeCounters (r : FileRecord) : r.outcomeCounters.Nodup := by
  refine List.nodup_flatMap.2 ⟨fun id _ => ?_, ?_⟩
  · refine List.Nodup.map (fun j j' h => ?_) List.nodup_range
    cases h
    rfl
  · refine (Table.nodup_keys r.branches).imp fun hne c hc hc' => hne ?_
    obtain ⟨j, -, rfl⟩ := List.mem_map.1 hc
    obtain ⟨j', -, h⟩ := List.mem_map.1 hc'
    cases h
    rfl

section

variable {f : List UInt64 → Nat} (hnil : f [] = 0)
  (happend : ∀ xs ys, f (xs ++ ys) = f xs + f ys)
include hnil happend

/-- Branches bring what is read off their counts to their lines. -/
theorem total_foldl_counts (hr : r.Sound) {l : List (Id × BranchEntry)}
    (hl : ∀ e ∈ l, r.branches.get? e.1 = some e.2) (t : Table (List UInt64)) :
    ((l.foldl (fun t e =>
        match e.2.anchorLine, r.branchHits.get? e.1 with
        | some line, some counts => t.alter line fun old => old.getD [] ++ counts
        | _, _ => t) t).total fun _ counts => f counts) =
      (t.total fun _ counts => f counts) +
        (l.map fun e => f ((r.branchHits.get? e.1).getD [])).sum := by
  induction l generalizing t with
  | nil => rfl
  | cons e l ih =>
    obtain ⟨he, hl⟩ := List.forall_mem_cons.1 hl
    obtain ⟨counts, hcounts, hlength⟩ := hr.exists_counts he
    rw [List.foldl_cons, ih hl, List.map_cons, List.sum_cons, ← Nat.add_assoc, hcounts]
    congr 1
    cases hline : e.2.anchorLine with
    | some line =>
      have halter := Table.total_alter t line (fun old => old.getD [] ++ counts)
        fun _ counts => f counts
      simp only [happend] at halter ⊢
      cases hold : t.get? line <;> simp [hold, hnil] at halter ⊢ <;> omega
    | none =>
      -- Only a branch without outcomes has no line, and it has no counts.
      have hempty : counts = [] := by
        rw [BranchEntry.anchorLine, Option.map_eq_none_iff, Option.or_eq_none_iff,
          List.head?_eq_none_iff] at hline
        exact List.eq_nil_of_length_eq_zero (by rw [hlength, hline.2]; rfl)
      simp [hempty, hnil]

/-- A number that is read off the counts of each line adds up to what is read off the counts of each
branch. -/
theorem total_lineCounts (hr : r.Sound) : (r.lineCounts.total fun _ counts => f counts) =
    r.branches.total fun id _ => f ((r.branchHits.get? id).getD []) := by
  have hall := total_foldl_counts hnil happend hr (l := r.branches.entries)
    (fun e he => Table.get?_eq_some_iff.2 he) .empty
  have hempty : ((Table.empty : Table (List UInt64)).total fun _ counts => f counts) = 0 := rfl
  rwa [hempty, Nat.zero_add] at hall

end

theorem countP_range_getD (counts : List UInt64) (p : UInt64 → Bool) :
    (List.range counts.length).countP (fun j => p (counts.getD j 0)) = counts.countP p := by
  induction counts with
  | nil => rfl
  | cons n counts ih =>
    rw [List.length_cons, List.range_succ_eq_map, List.countP_cons, List.countP_map,
      List.countP_cons, ← ih]
    rfl

/-- Outcomes are counted by going through the counts of each branch. -/
theorem countP_outcomeCounters (hr : r.Sound) (p : UInt64 → Bool) :
    (r.outcomeCounters.countP fun c => p (r.count c)) =
      r.branches.total fun id _ => ((r.branchHits.get? id).getD []).countP p := by
  rw [outcomeCounters, List.countP_flatMap, Table.total_eq_keys]
  refine congrArg List.sum (List.map_congr_left fun id hid => ?_)
  obtain ⟨b, hb⟩ := Table.mem_keys_iff.1 hid
  obtain ⟨counts, hcounts, hlength⟩ := hr.exists_counts hb
  have hcount : r.outcomeCount id = counts.length := (hr.outcomes id counts hcounts).symm
  rw [hb, Function.comp_apply, List.countP_map, hcounts, hcount, Option.map_some,
    Option.getD_some, Option.getD_some, ← countP_range_getD counts p]
  congr 1
  funext j
  simp [count, hcounts]

theorem sum_total_branchLines (hr : r.Sound) :
    (r.branchLines.values.map (·.total)).sum = r.outcomeCounters.length := by
  have hcount := countP_outcomeCounters hr fun _ => true
  simp only [List.countP_true] at hcount
  rw [hcount, ← total_lineCounts List.length_nil (fun _ _ => List.length_append) hr, Table.total,
    branchLines, Table.map, Table.values, List.map_map, List.map_map]
  rfl

theorem sum_covered_branchLines (hr : r.Sound) :
    (r.branchLines.values.map (·.covered)).sum = r.outcomeCounters.countP fun c => r.count c ≠ 0 := by
  have hhit : ∀ n : UInt64, decide (n ≠ 0) = decide (0 < n) := fun n =>
    decide_eq_decide.2 UInt64.pos_iff_ne_zero.symm
  simp only [hhit]
  rw [countP_outcomeCounters hr fun n => 0 < n,
    ← total_lineCounts List.countP_nil (fun _ _ => List.countP_append) hr, Table.total,
    branchLines, Table.map, Table.values, List.map_map, List.map_map]
  simp only [List.countP_eq_length_filter]
  rfl

theorem summary_branches (hr : r.Sound) : r.summary.branches =
    Tally.ofHits (r.outcomeCounters.map fun c => (r.count c, r.skips c)) := by
  rw [(summary_eq hr).2.2, outcomeCounters, List.map_flatMap]
  simp only [List.map_map]
  rfl

/-! ### All views together -/

/-- The views of a valid record agree. A line is uncovered exactly if some statement starts on it and
none of those that do was hit, and the uncovered lines are what the lines lack of being covered. The
outcomes that the lines are reported with are all outcomes, skipped or not. No tally covers more than
there is, and with what is skipped it counts every id, or every outcome. All counts of outcomes stand
in memory together, so there are always fewer of them than a word of 64 bits can count. -/
theorem views_agree (hvalid : r.validate = .ok ()) (hmemory : r.outcomeCounters.length < 2 ^ 64) :
    (r.uncoveredLines.Pairwise (· < ·) ∧
      ∀ line, line ∈ r.uncoveredLines ↔
        (∃ id l, r.statements.get? id = some l ∧ l.start.line = line) ∧
        ∀ id l, r.statements.get? id = some l → l.start.line = line →
          r.count (.statement id) = 0) ∧
    r.summary.lines.total.toNat =
      r.summary.lines.covered.toNat + r.uncoveredLines.length ∧
    ((r.branchLines.values.map (·.total)).sum =
        r.summary.branches.total.toNat + r.summary.branches.skipped.toNat ∧
      (r.branchLines.values.map (·.covered)).sum =
        r.outcomeCounters.countP fun c => r.count c ≠ 0) ∧
    (∀ t ∈ [r.summary.lines, r.summary.statements, r.summary.functions, r.summary.branches],
      t.covered ≤ t.total) ∧
    r.summary.statements.total.toNat + r.summary.statements.skipped.toNat = r.statements.size ∧
    r.summary.functions.total.toNat + r.summary.functions.skipped.toNat = r.functions.size ∧
    r.summary.branches.total.toNat + r.summary.branches.skipped.toNat =
      r.outcomeCounters.length := by
  have hr := Sound.of_validate hvalid
  obtain ⟨hstatements, hfunctions, -⟩ := summary_eq hr
  have hbranches := summary_branches hr
  have hsplit : r.summary.branches.total.toNat + r.summary.branches.skipped.toNat =
      r.outcomeCounters.length := by
    rw [hbranches, Tally.total_add_skipped] <;> rw [List.length_map]
    exact hmemory
  refine ⟨⟨sorted_uncoveredLines r, ?_⟩, lines_total_eq r,
    ⟨(sum_total_branchLines hr).trans hsplit.symm, sum_covered_branchLines hr⟩, ?_, ?_, ?_, hsplit⟩
  · intro line
    rw [mem_uncoveredLines_iff, lineCount_eq_zero_iff, StartsOn]
  · simp only [List.forall_mem_cons, List.not_mem_nil, false_imp_iff, implies_true, and_true]
    rw [summary_lines, hstatements, hfunctions, hbranches]
    refine ⟨?_, ?_, ?_, ?_⟩ <;> apply Tally.covered_le_total <;> rw [List.length_map]
    · exact r.lineHits.length_keys_lt
    · exact r.statements.length_keys_lt
    · exact r.functions.length_keys_lt
    · exact hmemory
  · rw [hstatements, Tally.total_add_skipped] <;> rw [List.length_map]
    · exact r.statements.length_keys
    · exact r.statements.length_keys_lt
  · rw [hfunctions, Tally.total_add_skipped] <;> rw [List.length_map]
    · exact r.functions.length_keys
    · exact r.functions.length_keys_lt

/-- Three statements on two lines, and two branches on one: one whose second outcome is skipped, and
one that is known by its outcome only. -/
def threeStatements : FileRecord :=
  { FileRecord.empty "a.js" with
    statements := .ofList [(0, at_ 1), (3, at_ 1), (4, at_ 2)]
    statementHits := .ofList [(0, 0), (3, 2), (4, 0)]
    branches := .ofList [(0, ⟨some (at_ 2), .ifElse, [at_ 2, (at_ 2).skipped], some 2⟩),
      (1, ⟨none, .logical, [at_ 2], none⟩)]
    branchHits := .ofList [(0, [1, 1]), (1, [0])] }
where
  at_ (line : UInt32) : Location := .between ⟨line, 0⟩ ⟨line, 5⟩

theorem views_agree_threeStatements :
    threeStatements.validate = .ok () ∧ threeStatements.outcomeCounters.length < 2 ^ 64 ∧
      threeStatements.uncoveredLines = [2] ∧
      threeStatements.summary.lines.total.toNat =
        threeStatements.summary.lines.covered.toNat + 1 ∧
      threeStatements.summary.branches = ⟨2, 1, 1⟩ ∧
      (threeStatements.branchLines.values.map (·.total)).sum = 3 ∧
      (threeStatements.branchLines.values.map (·.covered)).sum = 2 := by
  have hvalid : threeStatements.validate = .ok () := rfl
  have hmemory : threeStatements.outcomeCounters.length < 2 ^ 64 := by decide
  obtain ⟨-, hlines, ⟨htotal, hcovered⟩, -⟩ := views_agree hvalid hmemory
  have hbranches : threeStatements.summary.branches = ⟨2, 1, 1⟩ := rfl
  rw [hbranches] at htotal
  exact ⟨hvalid, hmemory, rfl, hlines, hbranches, htotal, hcovered⟩

end FileRecord

end Coverage
