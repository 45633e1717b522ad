import Coverage.Instrument.Draft
import Coverage.Proofs.Instrument.Numbering
import Mathlib.Data.List.Induction

/-!
# What a run of calls leaves of a draft

The calls alone tell what a draft has: the statements, functions and branches in the order of the
calls that made them, and of each branch the outcomes that came behind it. `Numbered` says of one
kind that its table of descriptions, its table of counters and its next number are in step, and
`Drafted` says so of all three. Each call keeps this (`drafted_step`), so every run does.

The main result is `freeze_run_spec`.
-/

namespace Coverage

namespace Table

variable {α β γ : Type}

/-- The table `t` describes the members of a list under the numbers from zero on, `hits` has what
`zero` makes of each of them, and `next` is the number for one more. -/
structure Numbered (t : Table α) (hits : Table γ) (next : Id) (zero : α → γ) (f : Id → β → α)
    (l : List β) : Prop where
  entries : t.Numbers f l
  hits : hits = t.map zero
  next : next.toNat = l.length

/-- One more member of the list gets the next number in both tables. -/
theorem Numbered.insert {t : Table α} {hits : Table γ} {next : Id} {zero : α → γ}
    {f : Id → β → α} {l : List β} (h : Numbered t hits next zero f l)
    (hfits : l.length + 1 < 2 ^ 32) (b : β) :
    Numbered (t.insert next (f next b)) (hits.insert next (zero (f next b))) (next + 1) zero f
      (l ++ [b]) where
  entries := h.entries.insert_of_toNat h.next b
  hits := by rw [h.hits, map_insert]
  next := by
    rw [UInt32.toNat_add, h.next, UInt32.toNat_one, Nat.mod_eq_of_lt hfits, List.length_append,
      List.length_singleton]

/-- A description that changes for one number changes there in both tables. -/
theorem Numbered.change {t : Table α} {hits : Table γ} {next : Id} {zero : α → γ}
    {f g : Id → β → α} {l : List β} (h : Numbered t hits next zero f l) {id : Id} {b : β}
    (hb : l[id.toNat]? = some b) (hother : ∀ k, k ≠ id → g k = f k) :
    Numbered (t.insert id (g id b)) (hits.insert id (zero (g id b))) next zero g l where
  entries := by
    intro k
    rw [get?_insert]
    by_cases hk : id = k
    · rw [if_pos hk, ← hk, hb, Option.map_some]
    · rw [if_neg hk, h.entries, hother k (Ne.symm hk)]
  hits := by rw [h.hits, map_insert]
  next := h.next

/-- A table that is numbered from zero on needs no next number beside it. -/
theorem Numbered.nextId_eq {t : Table α} {hits : Table γ} {next : Id} {zero : α → γ}
    {f : Id → β → α} {l : List β} (h : Numbered t hits next zero f l)
    (hfits : l.length < 2 ^ 32) : t.nextId = next :=
  UInt32.toNat_inj.1 ((h.entries.toNat_nextId hfits).trans h.next.symm)

end Table

namespace Instrument.Draft

/-! ### What calls ask for -/

namespace Call

/-- The statement that a call is about. -/
def statement? : Call → Option Location
  | .statement range => some range
  | _ => none

/-- The function that a call is about: name, declaration and body. -/
def function? : Call → Option (Option String × Location × Location)
  | .function name decl body => some (name, decl, body)
  | _ => none

/-- The branch that a call makes. -/
def branch? : Call → Option (BranchKind × Location)
  | .branch kind range => some (kind, range)
  | _ => none

/-- The outcome that a call adds to a branch. -/
def outcomeOf? (branch : Id) : Call → Option Location
  | .outcome other range => if other = branch then some range else none
  | _ => none

/-- The source map that a call sets. -/
def sourceMap? : Call → Option Json.Value
  | .sourceMap map => some map
  | _ => none

end Call

/-- The statements of calls, in order. -/
def statementsIn (calls : List Call) : List Location := calls.filterMap Call.statement?

/-- The functions of calls, in order. -/
def functionsIn (calls : List Call) : List (Option String × Location × Location) :=
  calls.filterMap Call.function?

/-- The branches of calls, in order. -/
def branchesIn (calls : List Call) : List (BranchKind × Location) :=
  calls.filterMap Call.branch?

/-- The last source map of calls. -/
def sourceMapIn (calls : List Call) : Option Json.Value :=
  (calls.filterMap Call.sourceMap?).getLast?

/-- The calls behind the one that makes the branch with a number. -/
def behindBranch : Nat → List Call → List Call
  | _, [] => []
  | 0, .branch _ _ :: calls => calls
  | n + 1, .branch _ _ :: calls => behindBranch n calls
  | n, _ :: calls => behindBranch n calls

/-- The outcomes of a branch: those that are added to it once it is there. -/
def outcomesIn (branch : Id) (calls : List Call) : List Location :=
  (behindBranch branch.toNat calls).filterMap (Call.outcomeOf? branch)

/-- The entry of a function. -/
def functionEntry (id : Id) (f : Option String × Location × Location) : FunctionEntry :=
  ⟨Skeleton.functionName id f.1, f.2.1, f.2.2, some f.2.2.start.line, false⟩

/-- The entry of a branch after calls. -/
def branchEntry (calls : List Call) (id : Id) (b : BranchKind × Location) : BranchEntry :=
  ⟨some b.2, b.1, outcomesIn id calls, some b.2.start.line⟩

/-- The answer to a call that follows others. -/
def replyAfter (calls : List Call) : Call → Reply
  | .statement _ => .id (.ofNat (statementsIn calls).length)
  | .function _ _ _ => .id (.ofNat (functionsIn calls).length)
  | .branch _ _ => .id (.ofNat (branchesIn calls).length)
  | .outcome branch _ => .index (outcomesIn branch calls).length
  | .sourceMap _ => .done

/-- Of no kind there is more than can be numbered. -/
structure Fits (calls : List Call) : Prop where
  statements : (statementsIn calls).length < 2 ^ 32
  functions : (functionsIn calls).length < 2 ^ 32
  branches : (branchesIn calls).length < 2 ^ 32

theorem filterMap_concat {β : Type} (f : Call → Option β) (calls : List Call) (call : Call) :
    (calls ++ [call]).filterMap f =
      (f call).elim (calls.filterMap f) fun b => calls.filterMap f ++ [b] := by
  rw [List.filterMap_append, List.filterMap_cons]
  cases f call with
  | none => exact List.append_nil _
  | some b => rfl

theorem length_filterMap_le {β : Type} (f : Call → Option β) (calls more : List Call) :
    (calls.filterMap f).length ≤ ((calls ++ more).filterMap f).length := by
  rw [List.filterMap_append, List.length_append]
  exact Nat.le_add_right _ _

theorem Fits.of_append {calls more : List Call} (h : Fits (calls ++ more)) : Fits calls where
  statements := Nat.lt_of_le_of_lt (length_filterMap_le _ calls more) h.statements
  functions := Nat.lt_of_le_of_lt (length_filterMap_le _ calls more) h.functions
  branches := Nat.lt_of_le_of_lt (length_filterMap_le _ calls more) h.branches

/-- A call is behind the branches that are there when it is made. -/
theorem behindBranch_concat (n : Nat) (calls : List Call) (call : Call) :
    behindBranch n (calls ++ [call]) =
      if n < (branchesIn calls).length then behindBranch n calls ++ [call] else [] := by
  induction calls generalizing n with
  | nil => cases call <;> cases n <;> rfl
  | cons first calls ih =>
    cases first with
    | branch kind range =>
      cases n with
      | zero => rfl
      | succ n =>
        rw [List.cons_append, behindBranch, behindBranch, ih]
        exact if_congr Nat.succ_lt_succ_iff.symm rfl rfl
    | statement | function | outcome | sourceMap =>
      rw [List.cons_append, behindBranch, behindBranch]
      · exact ih n
      all_goals nofun

theorem behindBranch_eq_nil {n : Nat} {calls : List Call} (h : (branchesIn calls).length ≤ n) :
    behindBranch n calls = [] := by
  induction calls using List.reverseRecOn with
  | nil => rfl
  | append_singleton calls call ih =>
    have hle : (branchesIn calls).length ≤ n := Nat.le_trans (length_filterMap_le _ _ _) h
    rw [behindBranch_concat, if_neg (Nat.not_lt.2 hle)]

theorem outcomesIn_eq_nil {branch : Id} {calls : List Call}
    (h : (branchesIn calls).length ≤ branch.toNat) : outcomesIn branch calls = [] := by
  rw [outcomesIn, behindBranch_eq_nil h]
  rfl

/-- A branch that is there gets the outcome of one more call, if the call is about it. -/
theorem outcomesIn_concat (branch : Id) (calls : List Call) (call : Call) :
    outcomesIn branch (calls ++ [call]) = outcomesIn branch calls ++
      if branch.toNat < (branchesIn calls).length then (call.outcomeOf? branch).toList else [] := by
  by_cases h : branch.toNat < (branchesIn calls).length
  · rw [outcomesIn, behindBranch_concat, if_pos h, if_pos h, List.filterMap_append]
    cases hcall : call.outcomeOf? branch <;> simp [outcomesIn, hcall]
  · rw [outcomesIn_eq_nil (Nat.le_of_not_lt h), outcomesIn, behindBranch_concat, if_neg h, if_neg h]
    rfl

theorem branchEntry_concat {calls : List Call} {call : Call} {branch : Id}
    (h : (branchesIn calls).length ≤ branch.toNat ∨ call.outcomeOf? branch = none) :
    branchEntry (calls ++ [call]) branch = branchEntry calls branch := by
  have houtcomes : outcomesIn branch (calls ++ [call]) = outcomesIn branch calls := by
    rw [outcomesIn_concat]
    rcases h with hunknown | hother
    · rw [if_neg (Nat.not_lt.2 hunknown), List.append_nil]
    · rw [hother, Option.toList_none, ite_self, List.append_nil]
  funext b
  rw [branchEntry, branchEntry, houtcomes]

/-! ### Tables and numbers in step -/

variable {path : String} {calls : List Call} {d : Draft}

/-- A branch without hits. -/
def unhit (b : BranchEntry) : List UInt64 := b.outcomes.map fun _ => 0

/-- A draft has what calls asked for, and nothing else. -/
structure Drafted (path : String) (calls : List Call) (d : Draft) : Prop where
  path : d.record.path = path
  executed : d.record.unexecuted = false
  sourceMap : d.record.sourceMap = sourceMapIn calls
  statements : Table.Numbered d.record.statements d.record.statementHits d.nextStatement
    (fun _ => 0) (fun _ range => range) (statementsIn calls)
  functions : Table.Numbered d.record.functions d.record.functionHits d.nextFunction
    (fun _ => 0) functionEntry (functionsIn calls)
  branches : Table.Numbered d.record.branches d.record.branchHits d.nextBranch
    unhit (branchEntry calls) (branchesIn calls)

theorem drafted_empty (path : String) : Drafted path [] (empty path) where
  path := rfl
  executed := rfl
  sourceMap := rfl
  statements := ⟨fun _ => rfl, rfl, rfl⟩
  functions := ⟨fun _ => rfl, rfl, rfl⟩
  branches := ⟨fun _ => rfl, rfl, rfl⟩

/-- What is to be shown of a draft after one more call. -/
theorem Drafted.after {d' : Draft} (call : Call) (hpath : d'.record.path = path)
    (hexecuted : d'.record.unexecuted = false)
    (hsourceMap : d'.record.sourceMap = call.sourceMap?.or (sourceMapIn calls))
    (hstatements : Table.Numbered d'.record.statements d'.record.statementHits d'.nextStatement
      (fun _ => 0) (fun _ range => range)
      (call.statement?.elim (statementsIn calls) fun s => statementsIn calls ++ [s]))
    (hfunctions : Table.Numbered d'.record.functions d'.record.functionHits d'.nextFunction
      (fun _ => 0) functionEntry
      (call.function?.elim (functionsIn calls) fun f => functionsIn calls ++ [f]))
    (hbranches : Table.Numbered d'.record.branches d'.record.branchHits d'.nextBranch
      unhit (branchEntry (calls ++ [call]))
      (call.branch?.elim (branchesIn calls) fun b => branchesIn calls ++ [b])) :
    Drafted path (calls ++ [call]) d' where
  path := hpath
  executed := hexecuted
  sourceMap := by
    rw [hsourceMap, sourceMapIn, sourceMapIn, filterMap_concat]
    cases call.sourceMap? with
    | none => rfl
    | some map => exact List.getLast?_concat.symm
  statements := by rwa [statementsIn, filterMap_concat]
  functions := by rwa [functionsIn, filterMap_concat]
  branches := by rwa [branchesIn, filterMap_concat]

/-- A call that is about no outcome leaves the entries of branches as they are. -/
theorem branchEntry_eq (calls : List Call) (call : Call)
    (h : ∀ branch, call.outcomeOf? branch = none) :
    branchEntry (calls ++ [call]) = branchEntry calls :=
  funext fun branch => branchEntry_concat (.inr (h branch))

theorem drafted_newStatement (h : Drafted path calls d) (range : Location)
    (hroom : (statementsIn calls).length + 1 < 2 ^ 32) :
    Drafted path (calls ++ [.statement range]) (d.newStatement range).1 := by
  have hentry := branchEntry_eq calls (.statement range) fun _ => rfl
  exact .after (.statement range) h.path h.executed h.sourceMap
    (h.statements.insert hroom range) h.functions (hentry ▸ h.branches)

theorem drafted_newFunction (h : Drafted path calls d) (name : Option String)
    (decl body : Location) (hroom : (functionsIn calls).length + 1 < 2 ^ 32) :
    Drafted path (calls ++ [.function name decl body]) (d.newFunction name decl body).1 := by
  have hentry := branchEntry_eq calls (.function name decl body) fun _ => rfl
  exact .after (.function name decl body) h.path h.executed h.sourceMap h.statements
    (h.functions.insert hroom (name, decl, body)) (hentry ▸ h.branches)

/-- A new branch has no outcomes: what was added to its number before does not count. -/
theorem drafted_newBranch (h : Drafted path calls d) (kind : BranchKind) (range : Location)
    (hroom : (branchesIn calls).length + 1 < 2 ^ 32) :
    Drafted path (calls ++ [.branch kind range]) (d.newBranch kind range).1 := by
  have hentry := branchEntry_eq calls (.branch kind range) fun _ => rfl
  have hnew : branchEntry calls d.nextBranch (kind, range) =
      ⟨some range, kind, [], some range.start.line⟩ := by
    rw [branchEntry, outcomesIn_eq_nil (Nat.le_of_eq h.branches.next.symm)]
  have hinsert := h.branches.insert hroom (kind, range)
  rw [hnew, ← hentry] at hinsert
  exact .after (.branch kind range) h.path h.executed h.sourceMap h.statements h.functions hinsert

theorem drafted_withSourceMap (h : Drafted path calls d) (map : Json.Value) :
    Drafted path (calls ++ [.sourceMap map]) (d.withSourceMap map) := by
  have hentry := branchEntry_eq calls (.sourceMap map) fun _ => rfl
  exact .after (.sourceMap map) h.path h.executed rfl h.statements h.functions
    (hentry ▸ h.branches)

/-- An outcome of a branch that is not there changes nothing. -/
theorem newOutcome_unknown (h : Drafted path calls d) {branch : Id}
    (hbranch : (branchesIn calls).length ≤ branch.toNat) (range : Location) :
    d.newOutcome branch range = (d, 0) := by
  have hnone : d.record.branches.get? branch = none := by
    rw [h.branches.entries, List.getElem?_eq_none hbranch]
    rfl
  rw [newOutcome, Skeleton.newOutcome, hnone]

/-- An outcome of a branch that is there goes behind its other outcomes. -/
theorem newOutcome_known (h : Drafted path calls d) {branch : Id} {b : BranchKind × Location}
    (hb : (branchesIn calls)[branch.toNat]? = some b) (range : Location) :
    d.newOutcome branch range =
      ({ d with
          record := { d.record with
            branches := d.record.branches.insert branch
              (branchEntry (calls ++ [.outcome branch range]) branch b)
            branchHits := d.record.branchHits.insert branch
              (unhit (branchEntry (calls ++ [.outcome branch range]) branch b)) } },
        (outcomesIn branch calls).length) := by
  have hentry : d.record.branches.get? branch = some (branchEntry calls branch b) := by
    rw [h.branches.entries, hb]
    rfl
  have hhits : d.record.branchHits.get? branch = some (unhit (branchEntry calls branch b)) := by
    rw [h.branches.hits, Table.get?_map, hentry]
    rfl
  have hknown : branch.toNat < (branchesIn calls).length := (List.getElem?_eq_some_iff.1 hb).1
  have houtcomes : outcomesIn branch (calls ++ [.outcome branch range]) =
      outcomesIn branch calls ++ [range] := by
    rw [outcomesIn_concat, if_pos hknown, Call.outcomeOf?, if_pos rfl, Option.toList_some]
  rw [newOutcome, Skeleton.newOutcome, hentry, hhits]
  simp only [branchEntry, unhit, houtcomes, List.map_append, List.map_singleton, List.length_map]

theorem index_newOutcome (h : Drafted path calls d) (branch : Id) (range : Location) :
    (d.newOutcome branch range).2 = (outcomesIn branch calls).length := by
  cases hb : (branchesIn calls)[branch.toNat]? with
  | none =>
    have hunknown : (branchesIn calls).length ≤ branch.toNat := List.getElem?_eq_none_iff.1 hb
    rw [newOutcome_unknown h hunknown, outcomesIn_eq_nil hunknown]
    rfl
  | some b => rw [newOutcome_known h hb]

theorem drafted_newOutcome (h : Drafted path calls d) (branch : Id) (range : Location) :
    Drafted path (calls ++ [.outcome branch range]) (d.newOutcome branch range).1 := by
  have hother : ∀ id, id ≠ branch →
      branchEntry (calls ++ [.outcome branch range]) id = branchEntry calls id :=
    fun id hid => branchEntry_concat (.inr (if_neg (Ne.symm hid)))
  cases hb : (branchesIn calls)[branch.toNat]? with
  | none =>
    have hunknown : (branchesIn calls).length ≤ branch.toNat := List.getElem?_eq_none_iff.1 hb
    have hentry : branchEntry (calls ++ [.outcome branch range]) = branchEntry calls := by
      funext id
      by_cases hid : id = branch
      · exact branchEntry_concat (.inl (hid ▸ hunknown))
      · exact hother id hid
    rw [newOutcome_unknown h hunknown]
    exact .after (.outcome branch range) h.path h.executed h.sourceMap h.statements h.functions
      (hentry ▸ h.branches)
  | some b =>
    rw [newOutcome_known h hb]
    exact .after (.outcome branch range) h.path h.executed h.sourceMap h.statements h.functions
      (h.branches.change hb hother)

/-! ### Runs -/

/-- One more call keeps a draft in step, and is answered from the calls before it. -/
theorem drafted_step (h : Drafted path calls d) {call : Call} (hfits : Fits (calls ++ [call])) :
    Drafted path (calls ++ [call]) (d.step call).1 ∧ (d.step call).2 = replyAfter calls call := by
  have hid : ∀ {id : Id} {n : Nat}, id.toNat = n → id = .ofNat n := fun h => by
    rw [← h, UInt32.ofNat_toNat]
  obtain ⟨hstatements, hfunctions, hbranches⟩ := hfits
  rw [statementsIn, filterMap_concat] at hstatements
  rw [functionsIn, filterMap_concat] at hfunctions
  rw [branchesIn, filterMap_concat] at hbranches
  cases call with
  | statement range =>
    rw [Call.statement?, Option.elim_some, List.length_append] at hstatements
    exact ⟨drafted_newStatement h range hstatements, congrArg Reply.id (hid h.statements.next)⟩
  | function name decl body =>
    rw [Call.function?, Option.elim_some, List.length_append] at hfunctions
    exact ⟨drafted_newFunction h name decl body hfunctions,
      congrArg Reply.id (hid h.functions.next)⟩
  | branch kind range =>
    rw [Call.branch?, Option.elim_some, List.length_append] at hbranches
    exact ⟨drafted_newBranch h kind range hbranches, congrArg Reply.id (hid h.branches.next)⟩
  | outcome branch range =>
    exact ⟨drafted_newOutcome h branch range,
      congrArg Reply.index (index_newOutcome h branch range)⟩
  | sourceMap map => exact ⟨drafted_withSourceMap h map, rfl⟩

theorem makeAll_concat {σ : Type} (step : σ → Call → σ × Reply) (s : σ) (calls : List Call)
    (call : Call) :
    Call.makeAll step s (calls ++ [call]) =
      ((step (Call.makeAll step s calls).1 call).1,
        (Call.makeAll step s calls).2 ++ [(step (Call.makeAll step s calls).1 call).2]) := by
  induction calls generalizing s with
  | nil => rfl
  | cons first calls ih =>
    have hcons : ∀ calls, Call.makeAll step s (first :: calls) =
        ((Call.makeAll step (step s first).1 calls).1,
          (step s first).2 :: (Call.makeAll step (step s first).1 calls).2) := fun _ => rfl
    rw [List.cons_append, hcons, hcons, ih]
    rfl

theorem mapIdx_replyAfter_concat (calls : List Call) (call : Call) :
    ((calls ++ [call]).mapIdx fun i c => replyAfter ((calls ++ [call]).take i) c) =
      (calls.mapIdx fun i c => replyAfter (calls.take i) c) ++ [replyAfter calls call] := by
  have hbefore : (calls.mapIdx fun i c => replyAfter ((calls ++ [call]).take i) c) =
      calls.mapIdx fun i c => replyAfter (calls.take i) c := by
    refine List.ext_getElem? fun i => ?_
    rw [List.getElem?_mapIdx, List.getElem?_mapIdx]
    rcases Nat.lt_or_ge i calls.length with hi | hi
    · rw [List.take_append_of_le_length (Nat.le_of_lt hi)]
    · rw [List.getElem?_eq_none hi]
      rfl
  rw [List.mapIdx_concat, hbefore, List.take_left]

/-- A draft is in step with the calls that were made, and each was answered from those before. -/
theorem drafted_run (path : String) (hfits : Fits calls) :
    Drafted path calls ((empty path).run calls).1 ∧
      ((empty path).run calls).2 = calls.mapIdx fun i call => replyAfter (calls.take i) call := by
  induction calls using List.reverseRecOn with
  | nil => exact ⟨drafted_empty path, rfl⟩
  | append_singleton calls call ih =>
    obtain ⟨hdrafted, hreplies⟩ := ih hfits.of_append
    obtain ⟨hstep, hreply⟩ := drafted_step hdrafted hfits
    rw [run] at hdrafted hreplies hstep hreply ⊢
    rw [makeAll_concat, mapIdx_replyAfter_concat, hreplies, hreply]
    exact ⟨hstep, rfl⟩

/-! ### The finished record -/

theorem Drafted.sound (h : Drafted path calls d) : d.record.Sound where
  statements := by rw [h.statements.hits, Table.keys_map]
  functions := by rw [h.functions.hits, Table.keys_map]
  branches := by rw [h.branches.hits, Table.keys_map]
  outcomes := by
    intro id counts hcounts
    rw [h.branches.hits, Table.get?_map] at hcounts
    obtain ⟨b, hb, rfl⟩ := Option.map_eq_some_iff.1 hcounts
    rw [FileRecord.outcomeCount, hb, unhit, List.length_map]

theorem mem_idleBranches_iff {id : Id} :
    id ∈ d.idleBranches ↔ Skeleton.keeps d.record.branches id = false := by
  rw [idleBranches, List.mem_map, Skeleton.keeps]
  constructor
  · rintro ⟨e, he, rfl⟩
    obtain ⟨hmem, hidle⟩ := List.mem_filter.1 he
    rw [Table.get?_eq_some_iff.2 hmem]
    simpa using hidle
  · intro h
    cases hb : d.record.branches.get? id with
    | none =>
      rw [hb] at h
      cases h
    | some b =>
      rw [hb] at h
      exact ⟨(id, b), List.mem_filter.2 ⟨Table.get?_eq_some_iff.1 hb, by simpa using h⟩, rfl⟩

theorem get?_foldl_erase_idleBranches {α : Type} (d : Draft) (t : Table α) (id : Id) :
    (d.idleBranches.foldl Table.erase t).get? id =
      (t.get? id).filter fun _ => Skeleton.keeps d.record.branches id := by
  rw [Table.get?_foldl_erase]
  cases hkeeps : Skeleton.keeps d.record.branches id with
  | false =>
    rw [if_pos (mem_idleBranches_iff.2 hkeeps)]
    cases t.get? id <;> rfl
  | true =>
    have hnot : id ∉ d.idleBranches := fun hmem => by
      rw [mem_idleBranches_iff.1 hmem] at hkeeps
      cases hkeeps
    rw [if_neg hnot]
    cases t.get? id <;> rfl

/-- To take out the branches without outcomes one by one is to keep the others, in both tables. -/
theorem freeze_eq (d : Draft) : d.freeze = d.toSkeleton.freeze := by
  have hbranches : d.idleBranches.foldl Table.erase d.record.branches =
      d.toSkeleton.freeze.branches := by
    refine Table.ext_get? fun id => ?_
    rw [get?_foldl_erase_idleBranches, Skeleton.get?_branches_freeze, Skeleton.keeps]
    cases d.record.branches.get? id <;> rfl
  have hhits : d.idleBranches.foldl Table.erase d.record.branchHits =
      d.toSkeleton.freeze.branchHits := by
    refine Table.ext_get? fun id => ?_
    rw [get?_foldl_erase_idleBranches, Skeleton.get?_branchHits_freeze]
  rw [freeze, hbranches, hhits]
  rfl

/-- A branch is left when it was made and got outcomes. -/
theorem get?_branches_freeze_eq_some_iff (h : Drafted path calls d) {id : Id} {b : BranchEntry} :
    d.freeze.branches.get? id = some b ↔
      outcomesIn id calls ≠ [] ∧
        ∃ made, (branchesIn calls)[id.toNat]? = some made ∧ b = branchEntry calls id made := by
  rw [freeze_eq, Skeleton.get?_branches_freeze, h.branches.entries, Option.filter_eq_some_iff,
    Option.map_eq_some_iff]
  constructor
  · rintro ⟨⟨made, hmade, rfl⟩, houtcomes⟩
    exact ⟨by simpa [branchEntry] using houtcomes, made, hmade, rfl⟩
  · rintro ⟨houtcomes, made, hmade, rfl⟩
    exact ⟨⟨made, hmade, rfl⟩, by simpa [branchEntry] using houtcomes⟩

theorem count_freeze (h : Drafted path calls d) (c : Counter) : d.freeze.count c = 0 := by
  rw [freeze_eq]
  refine FileRecord.count_eq_zero (fun id hits hget => ?_) (fun id hits hget => ?_)
    (fun branch counts hget hits hmem => ?_) c
  · have hzero : d.record.statementHits.get? id = some hits := hget
    rw [h.statements.hits, Table.get?_map] at hzero
    obtain ⟨-, -, rfl⟩ := Option.map_eq_some_iff.1 hzero
    rfl
  · have hzero : d.record.functionHits.get? id = some hits := hget
    rw [h.functions.hits, Table.get?_map] at hzero
    obtain ⟨-, -, rfl⟩ := Option.map_eq_some_iff.1 hzero
    rfl
  · rw [Skeleton.get?_branchHits_freeze, h.branches.hits, Table.get?_map] at hget
    obtain ⟨b, -, rfl⟩ := Option.map_eq_some_iff.1 (Option.filter_eq_some_iff.1 hget).1
    obtain ⟨-, -, rfl⟩ := List.mem_map.1 hmem
    rfl

/-! ### Skeletons -/

/-- Makes a call on a skeleton, which finds the next number in its tables. -/
def stepSkeleton (s : Skeleton) : Call → Skeleton × Reply
  | .statement range =>
    let (s, id) := s.newStatement range
    (s, .id id)
  | .function name decl body =>
    let (s, id) := s.newFunction name decl body
    (s, .id id)
  | .branch kind range =>
    let (s, id) := s.newBranch kind range
    (s, .id id)
  | .outcome branch range =>
    let (s, index) := s.newOutcome branch range
    (s, .index index)
  | .sourceMap map => (s.withSourceMap map, .done)

/-- The tables of a draft tell its next numbers. -/
theorem stepSkeleton_eq (h : Drafted path calls d) (hfits : Fits calls) (call : Call) :
    stepSkeleton d.toSkeleton call = ((d.step call).1.toSkeleton, (d.step call).2) := by
  cases call with
  | statement range =>
    rw [stepSkeleton, Skeleton.newStatement, h.statements.nextId_eq hfits.statements]
    rfl
  | function name decl body =>
    rw [stepSkeleton, Skeleton.newFunction, h.functions.nextId_eq hfits.functions]
    rfl
  | branch kind range =>
    rw [stepSkeleton, Skeleton.newBranch, h.branches.nextId_eq hfits.branches]
    rfl
  | outcome branch range => rfl
  | sourceMap map => rfl

/-- A skeleton gives the answers of a draft, and ends with its tables. -/
theorem makeAll_stepSkeleton (path : String) (hfits : Fits calls) :
    Call.makeAll stepSkeleton (.empty path) calls =
      (((empty path).run calls).1.toSkeleton, ((empty path).run calls).2) := by
  induction calls using List.reverseRecOn with
  | nil => rfl
  | append_singleton calls call ih =>
    obtain ⟨hdrafted, -⟩ := drafted_run path hfits.of_append
    have hstep := stepSkeleton_eq hdrafted hfits.of_append call
    rw [run] at ih hstep ⊢
    rw [makeAll_concat, makeAll_concat, ih hfits.of_append, hstep]

/-- Whatever calls are made on the draft of a file, in any order, they leave a valid record without
hits. It has the statements and the functions under the numbers from zero on, in the order of the
calls, and the branches that got outcomes, under the numbers that were handed out for them and with
the outcomes in the order in which they were added. Every call was answered from the calls before
it; an outcome for a branch that is not there changes nothing. A skeleton, which has no numbers
beside its tables, gives the same answers and the same record. -/
theorem freeze_run_spec {path : String} {calls : List Call} (hpath : path ≠ "")
    (hfits : Fits calls) :
    let finished := (empty path).run calls
    let record := finished.1.freeze
    (record.validate = .ok () ∧ record.path = path ∧ record.unexecuted = false ∧
      record.sourceMap = sourceMapIn calls ∧ ∀ c, record.count c = 0) ∧
    (record.statements.keys.map UInt32.toNat = List.range (statementsIn calls).length ∧
      ∀ id, record.statements.get? id = (statementsIn calls)[id.toNat]?) ∧
    (record.functions.keys.map UInt32.toNat = List.range (functionsIn calls).length ∧
      ∀ id, record.functions.get? id = (functionsIn calls)[id.toNat]?.map (functionEntry id)) ∧
    (∀ id b, record.branches.get? id = some b ↔
      outcomesIn id calls ≠ [] ∧
        ∃ made, (branchesIn calls)[id.toNat]? = some made ∧ b = branchEntry calls id made) ∧
    finished.2 = (calls.mapIdx fun i call => replyAfter (calls.take i) call) ∧
    (∀ branch range, (branchesIn calls).length ≤ branch.toNat →
      finished.1.step (.outcome branch range) = (finished.1, .index 0)) ∧
    Call.makeAll stepSkeleton (.empty path) calls = (finished.1.toSkeleton, finished.2) ∧
    finished.1.toSkeleton.freeze = record := by
  intro finished record
  obtain ⟨hdrafted, hreplies⟩ : Drafted path calls finished.1 ∧ _ := drafted_run path hfits
  have hrecord : finished.1.toSkeleton.freeze = record := (freeze_eq finished.1).symm
  have hsound : record.Sound := hrecord ▸ Skeleton.sound_freeze hdrafted.sound
  have hnamed : record.path.isEmpty = false := by
    show finished.1.record.path.isEmpty = false
    rw [hdrafted.path]
    simpa using hpath
  refine ⟨⟨FileRecord.validate_eq_ok_iff.2 ⟨hnamed, hsound⟩, hdrafted.path, hdrafted.executed,
    hdrafted.sourceMap, count_freeze hdrafted⟩, ⟨?_, fun id => ?_⟩, ⟨?_, fun id => ?_⟩,
    fun id b => get?_branches_freeze_eq_some_iff hdrafted, hreplies,
    fun branch range hunknown => ?_, makeAll_stepSkeleton path hfits, hrecord⟩
  · exact hdrafted.statements.entries.toNat_keys (Nat.le_of_lt hfits.statements)
  · exact (hdrafted.statements.entries id).trans Option.map_id'
  · exact hdrafted.functions.entries.toNat_keys (Nat.le_of_lt hfits.functions)
  · exact hdrafted.functions.entries id
  · rw [step, newOutcome_unknown hdrafted hunknown]

/-- A range on one line. -/
def onLine (line : UInt32) : Location := ⟨⟨line, 0⟩, ⟨line, 4⟩, false⟩

/-- Three branches, of which the second gets an outcome before it is there only; the outcomes of
the others come in turn, and one is for a number that no branch has. -/
def threeBranches : List Call :=
  [.statement (onLine 1), .function none (onLine 2) (onLine 3), .branch .ifElse (onLine 4),
    .outcome 0 (onLine 4), .outcome 1 (onLine 5), .branch .switch (onLine 6),
    .branch .conditional (onLine 7), .outcome 2 (onLine 7), .sourceMap .null,
    .outcome 0 (onLine 8), .outcome 7 (onLine 9), .statement (onLine 10)]

theorem freeze_run_spec_threeBranches :
    let finished := (empty "a.js").run threeBranches
    let record := finished.1.freeze
    "a.js" ≠ "" ∧ Fits threeBranches ∧ record.validate = .ok () ∧
      record.statements.keys.map UInt32.toNat = [0, 1] ∧ record.branches.keys = [0, 2] ∧
      record.branches.get? 0 =
        some ⟨some (onLine 4), .ifElse, [onLine 4, onLine 8], some 4⟩ ∧
      finished.2 = [.id 0, .id 0, .id 0, .index 0, .index 0, .id 1, .id 2, .index 0, .done,
        .index 1, .index 0, .id 1] := by
  intro finished record
  have hpath : "a.js" ≠ "" := by decide
  have hfits : Fits threeBranches := ⟨by decide, by decide, by decide⟩
  obtain ⟨⟨hvalid, -⟩, ⟨hstatements, -⟩, -, hbranches, hreplies, -⟩ :=
    freeze_run_spec hpath hfits
  have hkept : outcomesIn 0 threeBranches ≠ [] := by decide
  exact ⟨hpath, hfits, hvalid, hstatements, rfl, (hbranches 0 _).2 ⟨hkept, _, rfl, rfl⟩, hreplies⟩

end Instrument.Draft

end Coverage
