import Coverage.Proofs.Instrument.Walk
import Coverage.Proofs.Lists
import Mathlib.Data.List.Sort

/-!
# How functions and branches are numbered

A walk numbers functions and branches in the order in which it meets them. A `Tally` lists them in
that order, and `Progress.Holds` says that a skeleton numbers just what a tally lists. Each step of
the recording extends the tally or adds an outcome to one of its branches, as long as the numbers
fit into 32 bits.
-/

namespace Coverage

namespace Table

variable {α β : Type}

/-- A table gives the numbers from zero on to the members of a list, in order. What it says about a
member may depend on the number. -/
def Numbers (t : Table α) (f : Id → β → α) (l : List β) : Prop :=
  ∀ id, t.get? id = l[id.toNat]?.map (f id)

theorem toNat_nextId {t : Table α} {n : Nat} (h : ∀ id, id ∈ t.keys ↔ id.toNat < n)
    (hn : n < 2 ^ 32) : t.nextId.toNat = n := by
  rw [nextId]
  cases hlast : t.lastKey? with
  | none =>
    have hkeys : t.keys = [] := List.getLast?_eq_none_iff.1 hlast
    have hzero : ¬ (0 : Id).toNat < n := by
      rw [← h, hkeys]
      exact List.not_mem_nil
    show (0 : Id).toNat = n
    rw [UInt32.toNat_zero] at hzero ⊢
    omega
  | some last =>
    have hlt : last.toNat < n := (h last).1 (List.mem_of_getLast? hlast)
    have hpred : (UInt32.ofNat (n - 1)).toNat = n - 1 := UInt32.toNat_ofNat_of_lt' (by
      rw [UInt32.size]
      omega)
    have hmem : UInt32.ofNat (n - 1) ∈ t.keys := by
      rw [h, hpred]
      omega
    have hle := UInt32.le_iff_toNat_le.1 (le_of_lastKey? hlast hmem)
    show (last + 1).toNat = n
    rw [UInt32.toNat_add, UInt32.toNat_one]
    omega

namespace Numbers

variable {t : Table α} {f : Id → β → α} {l : List β}

theorem toNat_nextId (h : t.Numbers f l) (hl : l.length < 2 ^ 32) : t.nextId.toNat = l.length := by
  refine Table.toNat_nextId (fun id => ?_) hl
  rw [mem_keys_iff, ← Option.isSome_iff_exists, h, Option.isSome_map, isSome_getElem?]

/-- A number that is as long as the list goes to what comes next in it. -/
theorem insert_of_toNat (h : t.Numbers f l) {next : Id} (hnext : next.toNat = l.length) (b : β) :
    (t.insert next (f next b)).Numbers f (l ++ [b]) := by
  intro id
  rw [get?_insert, List.getElem?_append]
  by_cases hid : next = id
  · have hlast : id.toNat = l.length := hid ▸ hnext
    rw [if_pos hid, hid, if_neg (by omega), hlast, Nat.sub_self]
    rfl
  · have hne : id.toNat ≠ l.length := fun heq =>
      hid (UInt32.toNat_inj.1 (hnext.trans heq.symm))
    rw [if_neg hid, h]
    by_cases hlt : id.toNat < l.length
    · rw [if_pos hlt]
    · have hbeyond : ([b] : List β)[id.toNat - l.length]? = none :=
        List.getElem?_eq_none (by
          rw [List.length_singleton]
          omega)
      rw [if_neg hlt, List.getElem?_eq_none (Nat.le_of_not_lt hlt), hbeyond]

/-- The next number goes to what comes next in the list. -/
theorem insert_nextId (h : t.Numbers f l) (hl : l.length < 2 ^ 32) (b : β) :
    (t.insert t.nextId (f t.nextId b)).Numbers f (l ++ [b]) :=
  h.insert_of_toNat (h.toNat_nextId hl) b

/-- The numbers are those from zero on. -/
theorem toNat_keys (h : t.Numbers f l) (hl : l.length ≤ 2 ^ 32) :
    t.keys.map UInt32.toNat = List.range l.length := by
  have hsorted : (t.keys.map UInt32.toNat).Pairwise (· < ·) :=
    List.pairwise_map.2 (t.sorted_keys.imp UInt32.lt_iff_toNat_lt.1)
  refine hsorted.eq_of_mem_iff List.pairwise_lt_range fun n => ?_
  rw [List.mem_map, List.mem_range]
  constructor
  · rintro ⟨id, hid, rfl⟩
    rwa [mem_keys_iff, ← Option.isSome_iff_exists, h, Option.isSome_map, isSome_getElem?] at hid
  · intro hn
    have hid : (UInt32.ofNat n).toNat = n :=
      UInt32.toNat_ofNat_of_lt' (Nat.lt_of_lt_of_le hn hl)
    refine ⟨.ofNat n, ?_, hid⟩
    rwa [mem_keys_iff, ← Option.isSome_iff_exists, h, Option.isSome_map, isSome_getElem?, hid]

/-- A change at a number changes the member of the list that has it. -/
theorem modify {l : List α} (h : t.Numbers (fun _ a => a) l) {id : Id} {a : α}
    (ha : t.get? id = some a) (g : α → α) :
    (t.insert id (g a)).Numbers (fun _ a => a) (l.modify id.toNat g) := by
  intro k
  have hmember : l[id.toNat]? = some a := by
    rw [← ha, h, Option.map_id']
  rw [get?_insert, Option.map_id', List.getElem?_modify]
  by_cases hid : id = k
  · rw [if_pos hid, ← hid, hmember]
    simp
  · have hne : id.toNat ≠ k.toNat := fun heq => hid (UInt32.toNat_inj.1 heq)
    rw [if_neg hid, h, Option.map_id']
    simp [hne]

end Numbers

end Table

namespace Instrument

open Coverage.Script (Node Kind Role)

/-! ### Tallies -/

/-- Functions, each with its body, and branches, in the order in which they are met. -/
@[ext] structure Tally where
  functions : List (Node × Node)
  branches : List BranchEntry

/-- Adds an outcome to the branch with a number. -/
def addOutcome (branches : List BranchEntry) (o : Id × Location) : List BranchEntry :=
  branches.modify o.1.toNat fun b => { b with outcomes := b.outcomes ++ [o.2] }

namespace Tally

instance : Append Tally := ⟨fun t u => ⟨t.functions ++ u.functions, t.branches ++ u.branches⟩⟩

instance : EmptyCollection Tally := ⟨⟨[], []⟩⟩

/-- Adds outcomes to branches, one by one. -/
def credit (t : Tally) (outcomes : List (Id × Location)) : Tally :=
  { t with branches := outcomes.foldl addOutcome t.branches }

/-- All functions and branches can be numbered. -/
structure Small (t : Tally) : Prop where
  functions : t.functions.length ≤ 2 ^ 32
  branches : t.branches.length ≤ 2 ^ 32

/-- Branches with these numbers have been met. -/
def Knows (t : Tally) (ids : List Id) : Prop := ∀ id ∈ ids, id.toNat < t.branches.length

variable {t u v : Tally}

@[simp] theorem functions_append (t u : Tally) :
    (t ++ u).functions = t.functions ++ u.functions := rfl

@[simp] theorem branches_append (t u : Tally) : (t ++ u).branches = t.branches ++ u.branches := rfl

theorem append_assoc (t u v : Tally) : t ++ u ++ v = t ++ (u ++ v) := by
  apply Tally.ext
  · exact List.append_assoc ..
  · exact List.append_assoc ..

theorem append_empty (t : Tally) : t ++ ∅ = t := by
  apply Tally.ext
  · exact List.append_nil _
  · exact List.append_nil _

theorem credit_nil (t : Tally) : t.credit [] = t := rfl

theorem credit_append (t : Tally) (os os' : List (Id × Location)) :
    t.credit (os ++ os') = (t.credit os).credit os' := by
  rw [credit, List.foldl_append]
  rfl

theorem length_addOutcome (branches : List BranchEntry) (o : Id × Location) :
    (addOutcome branches o).length = branches.length := List.length_modify ..

theorem length_foldl_addOutcome (branches : List BranchEntry) (os : List (Id × Location)) :
    (os.foldl addOutcome branches).length = branches.length := by
  induction os generalizing branches with
  | nil => rfl
  | cons o os ih => rw [List.foldl_cons, ih, length_addOutcome]

theorem length_branches_credit (t : Tally) (os : List (Id × Location)) :
    (t.credit os).branches.length = t.branches.length := length_foldl_addOutcome ..

namespace Knows

variable {ids ids' : List Id}

theorem mono (h : t.Knows ids) (hsub : ∀ id ∈ ids', id ∈ ids) : t.Knows ids' :=
  fun id hid => h id (hsub id hid)

theorem credit (h : t.Knows ids) (os : List (Id × Location)) : (t.credit os).Knows ids := by
  intro id hid
  rw [length_branches_credit]
  exact h id hid

theorem append (h : t.Knows ids) (u : Tally) : (t ++ u).Knows ids := by
  intro id hid
  rw [branches_append, List.length_append]
  exact Nat.lt_add_right _ (h id hid)

/-- The last branch has been met. -/
theorem last {id : Id} (h : id.toNat = t.branches.length) (b : BranchEntry) :
    (t ++ ⟨[], [b]⟩).Knows [id] := by
  intro k hk
  rw [List.mem_singleton.1 hk, branches_append, List.length_append, h]
  exact Nat.lt_succ_self _

end Knows

theorem foldl_addOutcome_append {branches : List BranchEntry} {os : List (Id × Location)}
    (h : ∀ o ∈ os, o.1.toNat < branches.length) (more : List BranchEntry) :
    os.foldl addOutcome (branches ++ more) = os.foldl addOutcome branches ++ more := by
  induction os generalizing branches with
  | nil => rfl
  | cons o os ih =>
    obtain ⟨ho, hos⟩ := List.forall_mem_cons.1 h
    have hfirst : addOutcome (branches ++ more) o = addOutcome branches o ++ more := by
      rw [addOutcome, modify_append ho]
      rfl
    rw [List.foldl_cons, List.foldl_cons, hfirst]
    apply ih
    intro o' ho'
    rw [length_addOutcome]
    exact hos o' ho'

/-- What is met later gets none of the outcomes of what was met before. -/
theorem credit_left {os : List (Id × Location)} (h : ∀ o ∈ os, o.1.toNat < t.branches.length) :
    (t ++ u).credit os = t.credit os ++ u :=
  congrArg (mk (t.functions ++ u.functions)) (foldl_addOutcome_append h u.branches)

/-- The outcomes of the last branch. -/
theorem credit_last {id : Id} (hid : id.toNat = t.branches.length) (b : BranchEntry)
    (ranges : List Location) :
    (t ++ ⟨[], [b]⟩).credit (ranges.map fun r => (id, r)) =
      t ++ ⟨[], [{ b with outcomes := b.outcomes ++ ranges }]⟩ := by
  induction ranges generalizing b with
  | nil => rw [List.map_nil, credit_nil, List.append_nil]
  | cons r ranges ih =>
    have hfirst : (t ++ ⟨[], [b]⟩).credit [(id, r)] =
        t ++ ⟨[], [{ b with outcomes := b.outcomes ++ [r] }]⟩ := by
      refine congrArg (mk (t.functions ++ [])) ?_
      show List.modify (t.branches ++ [b]) id.toNat _ = _
      rw [hid, modify_last]
    have hsplit : (r :: ranges).map (fun r => (id, r)) =
        [(id, r)] ++ ranges.map fun r => (id, r) := rfl
    rw [hsplit, credit_append, hfirst, ih, List.append_assoc]
    rfl

theorem Small.left (h : (t ++ u).Small) : t.Small := by
  have hfunctions := h.functions
  have hbranches := h.branches
  rw [functions_append, List.length_append] at hfunctions
  rw [branches_append, List.length_append] at hbranches
  exact ⟨by omega, by omega⟩

theorem small_credit_iff {os : List (Id × Location)} :
    (t.credit os ++ u).Small ↔ (t ++ u).Small := by
  have hlength : (t.credit os ++ u).branches.length = (t ++ u).branches.length := by
    rw [branches_append, branches_append, List.length_append, List.length_append,
      length_branches_credit]
  constructor
  · intro h
    exact ⟨h.functions, hlength ▸ h.branches⟩
  · intro h
    exact ⟨h.functions, hlength ▸ h.branches⟩

end Tally

/-! ### Tallies and skeletons -/

namespace Setting

/-- What is recorded of a function with a body under a number. -/
def functionEntry (s : Setting) (id : Id) (n body : Node) : FunctionEntry :=
  let plain := (n.child? .name).filter fun m => m.kind.isPlainName
  let decl := match plain with
    | some m => s.range m
    | none => s.firstColumn n
  ⟨Skeleton.functionName id (plain.map fun m => String.ofList (m.text s.source)), decl,
    s.range body, some (s.range body).start.line, false⟩

/-- What is recorded of a branch at a node. -/
def branchEntry (s : Setting) (kind : BranchKind) (n : Node) (outcomes : List Location) :
    BranchEntry :=
  ⟨some (s.range n), kind, outcomes, some (s.range n).start.line⟩

end Setting

/-- The functions and branches that have been recorded are those of a tally, numbered in order. -/
structure Progress.Holds (s : Setting) (t : Tally) (p : Progress) : Prop where
  functions : p.skeleton.record.functions.Numbers (fun id e => s.functionEntry id e.1 e.2)
    t.functions
  branches : p.skeleton.record.branches.Numbers (fun _ b => b) t.branches
  sound : p.skeleton.record.Sound

namespace Recording

variable {α β : Type} {pre : Progress → Prop} {post : α → Progress → Prop}

/-- Started where `pre` holds, a step ends where `post` holds. -/
def Triple (pre : Progress → Prop) (x : Recording α) (post : α → Progress → Prop) : Prop :=
  ∀ p, pre p → post (x.run p).1 (x.run p).2

namespace Triple

theorem pure {a : α} (h : ∀ p, pre p → post a p) : Triple pre (pure a) post := h

theorem bind {x : Recording α} {f : α → Recording β} {mid : α → Progress → Prop}
    {post : β → Progress → Prop} (hx : Triple pre x mid) (hf : ∀ a, Triple (mid a) (f a) post) :
    Triple pre (x >>= f) post :=
  fun p hp => hf _ _ (hx p hp)

theorem ite {c : Prop} [Decidable c] {x y : Recording α} (hx : c → Triple pre x post)
    (hy : ¬ c → Triple pre y post) : Triple pre (if c then x else y) post := by
  split
  · exact hx ‹_›
  · exact hy ‹_›

/-- What is known before a step, apart from the progress, can be used for it. -/
theorem of_and {x : Recording α} {known : Prop} (h : known → Triple pre x post) :
    Triple (fun p => known ∧ pre p) x post :=
  fun p hp => h hp.1 p hp.2

end Triple

variable {s : Setting} {t : Tally}

theorem holds_mark (m : Mark) : Triple (·.Holds s t) (mark m) (fun _ p => p.Holds s t) :=
  fun _ h => ⟨h.functions, h.branches, h.sound⟩

theorem holds_newStatement (range : Location) :
    Triple (·.Holds s t) (newStatement range) (fun _ p => p.Holds s t) :=
  fun _ h => ⟨h.functions, h.branches, Skeleton.sound_newStatement h.sound range⟩

/-- A function gets the next number. -/
theorem holds_newFunction (ht : t.functions.length < 2 ^ 32) (n body : Node) {name : Option String}
    {decl : Location} (hentry : ∀ id, s.functionEntry id n body =
      ⟨Skeleton.functionName id name, decl, s.range body, some (s.range body).start.line, false⟩) :
    Triple (·.Holds s t) (newFunction name decl (s.range body))
      (fun _ p => p.Holds s (t ++ ⟨[(n, body)], []⟩)) := by
  intro p h
  have hinsert := h.functions.insert_nextId ht (n, body)
  rw [hentry] at hinsert
  constructor
  · exact hinsert
  · rw [Tally.branches_append, List.append_nil]
    exact h.branches
  · exact Skeleton.sound_newFunction h.sound name decl (s.range body)

/-- A branch gets the next number. -/
theorem holds_newBranch (ht : t.branches.length < 2 ^ 32) (kind : BranchKind) (n : Node) :
    Triple (·.Holds s t) (newBranch kind (s.range n)) (fun id p =>
      id.toNat = t.branches.length ∧ p.Holds s (t ++ ⟨[], [s.branchEntry kind n []]⟩)) := by
  intro p h
  refine ⟨h.branches.toNat_nextId ht, ?_⟩
  constructor
  · rw [Tally.functions_append, List.append_nil]
    exact h.functions
  · exact h.branches.insert_nextId ht _
  · exact Skeleton.sound_newBranch h.sound kind _

/-- An outcome is added to a branch that has been met. -/
theorem holds_newOutcome {branch : Id} (hbranch : t.Knows [branch]) (range : Location) :
    Triple (·.Holds s t) (newOutcome branch range)
      (fun _ p => p.Holds s (t.credit [(branch, range)])) := by
  intro p h
  have hlt := hbranch branch List.mem_cons_self
  have hget : p.skeleton.record.branches.get? branch = some t.branches[branch.toNat] := by
    rw [h.branches, List.getElem?_eq_getElem hlt]
    rfl
  have hsound := Skeleton.sound_newOutcome h.sound branch range
  obtain ⟨counts, -, -, hnew⟩ := Skeleton.newOutcome_eq h.sound hget range
  show Progress.Holds s _ { p with skeleton := (p.skeleton.newOutcome branch range).1 }
  rw [hnew] at hsound ⊢
  have hbranches := h.branches.modify hget fun b => { b with outcomes := b.outcomes ++ [range] }
  exact ⟨h.functions, hbranches, hsound⟩

theorem holds_coverOutcome {branch : Id} (hbranch : t.Knows [branch]) (n : Node) :
    Triple (·.Holds s t) (coverOutcome s branch n)
      (fun _ p => p.Holds s (t.credit [(branch, s.range n)])) :=
  (holds_newOutcome hbranch _).bind fun _ => holds_mark _

end Recording

end Instrument

end Coverage
