import Coverage.Instrument.Counter
import Coverage.Proofs.Registry
import Coverage.Proofs.Table
import Mathlib.Data.List.Induction

/-!
# What a process has counted

A process registers coverage objects and counts in them, in any order. Its history lists the calls
together with what each of them did. For every path that has been registered the registry holds
the object of the last registration that put one there, with each counter raised by the hits that
succeeded since (`accounted_run`); a registration of the same hash in between, a hit that fails and
a call for another path leave no trace.

The main result is `run_accounts`. It also says that the snapshot of the registry lists the paths
in the order of their first registrations.
-/

namespace Coverage

open Instrument (Counter)

/-! ### Counters of a record -/

namespace Table

variable {α β : Type}

/-- The table with every value changed by `f`, which knows the id. -/
def mapEntries (t : Table α) (f : Id → α → β) : Table β :=
  ⟨t.entries.map fun e => (e.1, f e.1 e.2), List.pairwise_map.2 t.sorted⟩

@[simp] theorem get?_mapEntries (t : Table α) (f : Id → α → β) (id : Id) :
    (t.mapEntries f).get? id = (t.get? id).map (f id) := by
  apply Option.ext
  intro b
  rw [get?_eq_some_iff, Option.map_eq_some_iff]
  simp only [get?_eq_some_iff, mapEntries, List.mem_map, Prod.mk.injEq]
  constructor
  · rintro ⟨⟨k, a⟩, ha, rfl, hb⟩
    exact ⟨a, ha, hb⟩
  · rintro ⟨a, ha, hb⟩
    exact ⟨(id, a), ha, rfl, hb⟩

/-- Changing the values twice changes them once by both. -/
theorem mapEntries_mapEntries (t : Table α) (f g : Id → α → α) :
    (t.mapEntries f).mapEntries g = t.mapEntries fun id a => g id (f id a) := by
  refine ext_get? fun id => ?_
  simp only [get?_mapEntries, Option.map_map]
  rfl

theorem mapEntries_eq_self {t : Table α} {f : Id → α → α}
    (h : ∀ id a, t.get? id = some a → f id a = a) : t.mapEntries f = t := by
  refine ext_get? fun id => ?_
  rw [get?_mapEntries]
  cases hget : t.get? id with
  | none => rfl
  | some a => exact congrArg some (h id a hget)

/-- To change one value is to change all values by what leaves the others alone. -/
theorem insert_eq_mapEntries {t : Table α} {id : Id} {a b : α} (hget : t.get? id = some a)
    {f : Id → α → α} (hid : f id a = b)
    (hother : ∀ k x, k ≠ id → t.get? k = some x → f k x = x) :
    t.insert id b = t.mapEntries f := by
  refine ext_get? fun k => ?_
  rw [get?_insert, get?_mapEntries]
  split
  · next heq =>
    rw [← heq, hget, Option.map_some, hid]
  · next hne =>
    cases hk : t.get? k with
    | none => rfl
    | some x => rw [Option.map_some, hother k x (Ne.symm hne) hk]

end Table

namespace FileRecord

variable {c : Counter}

/-- The value of a counter. -/
def count? (r : FileRecord) : Counter → Option UInt64
  | .statement id => r.statementHits.get? id
  | .function id => r.functionHits.get? id
  | .outcome branch index => (r.branchHits.get? branch).bind (·[index]?)

/-- A record with every counter raised by a number. -/
def raised (r : FileRecord) (n : Counter → Nat) : FileRecord :=
  { r with
    statementHits := r.statementHits.mapEntries fun id hits => hits + .ofNat (n (.statement id))
    functionHits := r.functionHits.mapEntries fun id hits => hits + .ofNat (n (.function id))
    branchHits := r.branchHits.mapEntries fun id counts =>
      counts.mapIdx fun index hits => hits + .ofNat (n (.outcome id index)) }

theorem count?_raised (r : FileRecord) (n : Counter → Nat) (c : Counter) :
    (r.raised n).count? c = (r.count? c).map fun hits => hits + .ofNat (n c) := by
  cases c with
  | statement id => exact r.statementHits.get?_mapEntries _ id
  | function id => exact r.functionHits.get?_mapEntries _ id
  | outcome branch index =>
    simp only [count?, raised, Table.get?_mapEntries, Option.bind_map, Function.comp_def,
      List.getElem?_mapIdx, Option.map_bind]

/-- A counter that stays below its limit counts every hit. -/
theorem toNat_count?_raised {r : FileRecord} {n : Counter → Nat} {c : Counter} {hits : UInt64}
    (hcount : r.count? c = some hits) (hfits : hits.toNat + n c < 2 ^ 64) :
    ((r.raised n).count? c).map UInt64.toNat = some (hits.toNat + n c) := by
  rw [count?_raised, hcount, Option.map_some, Option.map_some, UInt64.toNat_add,
    UInt64.toNat_ofNat', Nat.mod_eq_of_lt (Nat.lt_of_le_of_lt (Nat.le_add_left _ _) hfits),
    Nat.mod_eq_of_lt hfits]

theorem raised_zero (r : FileRecord) : r.raised (fun _ => 0) = r := by
  have hzero : ∀ hits : UInt64, hits + .ofNat 0 = hits := fun hits => UInt64.add_zero hits
  rw [raised, Table.mapEntries_eq_self fun _ hits _ => hzero hits,
    Table.mapEntries_eq_self fun _ hits _ => hzero hits, Table.mapEntries_eq_self fun _ counts _ => ?_]
  refine List.ext_getElem? fun index => ?_
  rw [List.getElem?_mapIdx]
  simp only [hzero, Option.map_id']

theorem raised_raised (r : FileRecord) (m n : Counter → Nat) :
    (r.raised m).raised n = r.raised fun c => m c + n c := by
  simp only [raised, Table.mapEntries_mapEntries, List.mapIdx_mapIdx, UInt64.ofNat_add,
    UInt64.add_assoc, Function.comp_def]

/-- One more for one counter. -/
def once (c : Counter) : Counter → Nat := fun d => if d = c then 1 else 0

theorem add_once_self (c : Counter) (hits : UInt64) : hits + .ofNat (once c c) = hits + 1 := by
  rw [once, if_pos rfl]
  rfl

theorem add_once_of_ne {c d : Counter} (h : d ≠ c) (hits : UInt64) :
    hits + .ofNat (once c d) = hits := by
  rw [once, if_neg h]
  exact UInt64.add_zero hits

theorem mapIdx_eq_self {counts : List UInt64} {f : Nat → UInt64 → UInt64}
    (h : ∀ index hits, f index hits = hits) : counts.mapIdx f = counts := by
  refine List.ext_getElem? fun index => ?_
  rw [List.getElem?_mapIdx]
  cases counts[index]? with
  | none => rfl
  | some hits => exact congrArg some (h index hits)

/-- To change one count of a branch is to change all counts by what leaves the others alone. -/
theorem set_eq_mapIdx {counts : List UInt64} {index : Nat} {hits more : UInt64}
    (hget : counts[index]? = some hits) {f : Nat → UInt64 → UInt64} (hindex : f index hits = more)
    (hother : ∀ i x, i ≠ index → f i x = x) : counts.set index more = counts.mapIdx f := by
  refine List.ext_getElem? fun i => ?_
  rw [List.getElem?_mapIdx, List.getElem?_set]
  split
  · next heq =>
    subst heq
    rw [if_pos (List.getElem?_eq_some_iff.1 hget).1, hget, Option.map_some, hindex]
  · next hne =>
    cases hi : counts[i]? with
    | none => rfl
    | some x => rw [Option.map_some, hother i x (Ne.symm hne)]

section Once

variable {r : FileRecord} {hits : UInt64}

theorem raised_of_tables {n : Counter → Nat} {statementHits functionHits : Table UInt64}
    {branchHits : Table (List UInt64)}
    (hs : statementHits = r.statementHits.mapEntries fun id hits => hits + .ofNat (n (.statement id)))
    (hf : functionHits = r.functionHits.mapEntries fun id hits => hits + .ofNat (n (.function id)))
    (hb : branchHits = r.branchHits.mapEntries fun id counts =>
      counts.mapIdx fun index hits => hits + .ofNat (n (.outcome id index))) :
    { r with statementHits, functionHits, branchHits } = r.raised n := by
  rw [raised, hs, hf, hb]

/-- A table of counters stays as it is if none of them is raised. -/
theorem eq_mapEntries_once {t : Table UInt64} {kind : Id → Counter} (h : ∀ id, kind id ≠ c) :
    t = t.mapEntries fun id hits => hits + .ofNat (once c (kind id)) :=
  (Table.mapEntries_eq_self fun id hits _ => add_once_of_ne (h id) hits).symm

theorem eq_mapEntries_once_outcome {t : Table (List UInt64)} (h : ∀ id i, .outcome id i ≠ c) :
    t = t.mapEntries fun id counts =>
      counts.mapIdx fun i hits => hits + .ofNat (once c (.outcome id i)) :=
  (Table.mapEntries_eq_self fun id _ _ =>
    mapIdx_eq_self fun i hits => add_once_of_ne (h id i) hits).symm

theorem raised_once_statement {id : Id} (h : r.statementHits.get? id = some hits) :
    { r with statementHits := r.statementHits.insert id (hits + 1) } =
      r.raised (once (.statement id)) := by
  refine raised_of_tables (Table.insert_eq_mapEntries h (add_once_self _ hits) fun k x hk _ => ?_)
    (eq_mapEntries_once fun _ => by simp) (eq_mapEntries_once_outcome fun _ _ => by simp)
  exact add_once_of_ne (by simpa using hk) x

theorem raised_once_function {id : Id} (h : r.functionHits.get? id = some hits) :
    { r with functionHits := r.functionHits.insert id (hits + 1) } =
      r.raised (once (.function id)) := by
  refine raised_of_tables (eq_mapEntries_once fun _ => by simp)
    (Table.insert_eq_mapEntries h (add_once_self _ hits) fun k x hk _ => ?_)
    (eq_mapEntries_once_outcome fun _ _ => by simp)
  exact add_once_of_ne (by simpa using hk) x

theorem raised_once_outcome {branch : Id} {index : Nat} {counts : List UInt64}
    (h : r.branchHits.get? branch = some counts) (hindex : counts[index]? = some hits) :
    { r with branchHits := r.branchHits.insert branch (counts.set index (hits + 1)) } =
      r.raised (once (.outcome branch index)) := by
  refine raised_of_tables (eq_mapEntries_once fun _ => by simp) (eq_mapEntries_once fun _ => by simp)
    (Table.insert_eq_mapEntries h ?_ fun k x hk _ => ?_)
  · refine (set_eq_mapIdx hindex (add_once_self _ hits) fun i x hi => ?_).symm
    exact add_once_of_ne (by simpa using hi) x
  · exact mapIdx_eq_self fun i x => add_once_of_ne (by simp [hk]) x

end Once

end FileRecord

namespace Registry

open FileRecord (once)

variable {r t : Registry} {c : Counter}

/-! ### One call -/

/-- Counts something in a file once more. -/
def hit (r : Registry) (path : String) : Counter → Except Error Registry
  | .statement id => r.hitStatement path id
  | .function id => r.hitFunction path id
  | .outcome branch index => r.hitOutcome path branch index

theorem change_eq_ok {f : FileRecord → Except Error FileRecord} {path : String}
    (h : r.change path f = .ok t) :
    ∃ o record, r.object? path = some o ∧ f o.record = .ok record ∧
      t = r.put path { o with record } := by
  rw [change] at h
  split at h
  · cases h
  · next o ho =>
    cases hrecord : f o.record with
    | error e =>
      rw [hrecord] at h
      cases h
    | ok record =>
      rw [hrecord] at h
      cases h
      exact ⟨o, record, ho, hrecord, rfl⟩

/-- A hit that succeeds raises its counter in the record of its path, and changes nothing else. -/
theorem hit_eq_ok {path : String} (h : r.hit path c = .ok t) :
    ∃ o, r.object? path = some o ∧
      t = r.put path { o with record := o.record.raised (once c) } := by
  cases c with
  | statement id =>
    rw [hit, hitStatement] at h
    obtain ⟨o, record, ho, hrecord, rfl⟩ := change_eq_ok h
    refine ⟨o, ho, ?_⟩
    split at hrecord
    · next hits hget =>
      cases hrecord
      rw [FileRecord.raised_once_statement hget]
    · cases hrecord
  | function id =>
    rw [hit, hitFunction] at h
    obtain ⟨o, record, ho, hrecord, rfl⟩ := change_eq_ok h
    refine ⟨o, ho, ?_⟩
    split at hrecord
    · next hits hget =>
      cases hrecord
      rw [FileRecord.raised_once_function hget]
    · cases hrecord
  | outcome branch index =>
    rw [hit, hitOutcome] at h
    obtain ⟨o, record, ho, hrecord, rfl⟩ := change_eq_ok h
    refine ⟨o, ho, ?_⟩
    split at hrecord
    · cases hrecord
    · next counts hget =>
      split at hrecord
      · cases hrecord
      · next hits hindex =>
        cases hrecord
        rw [FileRecord.raised_once_outcome hget hindex]

/-- The three things that a registration can do. -/
theorem register_cases (r : Registry) (hash : String) (record : FileRecord) :
    (r.object? record.path = none ∧
      r.register hash record = (.created, r.put record.path ⟨hash, record⟩)) ∨
    ∃ o, r.object? record.path = some o ∧
      (o.hash = hash ∧ r.register hash record = (.reused, r) ∨
        o.hash ≠ hash ∧ r.register hash record = (.replaced, r.put record.path ⟨hash, record⟩)) := by
  rw [register]
  cases r.object? record.path with
  | none => exact .inl ⟨rfl, rfl⟩
  | some o =>
    right
    by_cases hhash : o.hash = hash
    · exact ⟨o, rfl, .inl ⟨hhash, if_pos hhash⟩⟩
    · exact ⟨o, rfl, .inr ⟨hhash, if_neg hhash⟩⟩

/-- A call of a process to its registry. -/
inductive Call where
  | register (hash : String) (record : FileRecord)
  | hit (path : String) (counter : Counter)

/-- What a call did. -/
inductive Call.Outcome where
  | registered (registration : Registration)
  | counted
  | failed (error : Error)

/-- The path that a call is for. -/
def Call.path : Call → String
  | register _ record => record.path
  | hit path _ => path

/-- Makes a call. A hit that fails leaves the registry as it is. -/
def step (r : Registry) : Call → Call.Outcome × Registry
  | .register hash record =>
    (.registered (r.register hash record).1, (r.register hash record).2)
  | .hit path c =>
    match r.hit path c with
    | .ok t => (.counted, t)
    | .error e => (.failed e, r)

/-- The registry after some calls. -/
def run (r : Registry) (calls : List Call) : Registry := calls.foldl (fun r call => (r.step call).2) r

/-- Calls with what each of them did. -/
def history (r : Registry) : List Call → List (Call × Call.Outcome)
  | [] => []
  | call :: calls => (call, (r.step call).1) :: history (r.step call).2 calls

theorem run_append (r : Registry) (calls more : List Call) :
    r.run (calls ++ more) = (r.run calls).run more := List.foldl_append

theorem history_append (r : Registry) (calls more : List Call) :
    r.history (calls ++ more) = r.history calls ++ (r.run calls).history more := by
  induction calls generalizing r with
  | nil => rfl
  | cons call calls ih => exact congrArg (_ :: ·) (ih (r.step call).2)

theorem lookup_putAt_self (path : String) (o : Registered) (l : List (String × Registered)) :
    (putAt path o l).lookup path = some o := by
  induction l with
  | nil => simp [putAt]
  | cons e l ih =>
    obtain ⟨k, old⟩ := e
    rw [putAt]
    split
    · next hk => simp [hk]
    · next hk => simp [List.lookup_cons, beq_eq_false_iff_ne.2 (Ne.symm hk), ih]

theorem object?_put (r : Registry) (path : String) (o : Registered) (other : String) :
    (r.put path o).object? other = if other = path then some o else r.object? other := by
  split
  · next heq =>
    subst heq
    exact lookup_putAt_self other o r.objects
  · next hne => exact lookup_putAt_of_ne o r.objects hne

/-! ### What a history accounts for -/

/-- A call with what it did. -/
abbrev Entry := Call × Call.Outcome

/-- Whether an entry is a hit of a counter of a path that succeeded. -/
def counts (path : String) (c : Counter) : Entry → Bool
  | (.hit p d, .counted) => p = path && d = c
  | _ => false

/-- How often a counter of a path was hit with success. -/
def tally (path : String) (entries : List Entry) (c : Counter) : Nat := entries.countP (counts path c)

/-- An object comes from a record that was registered: since then the same hash was registered
again at most, and each counter was raised by the hits that succeeded. -/
structure RaisedFrom (path : String) (o : Registered) (record : FileRecord) (since : List Entry) :
    Prop where
  file : record.path = path
  again : ∀ e ∈ since, ∀ hash other, e.1 = .register hash other → other.path = path →
    hash = o.hash ∧ e.2 = .registered .reused
  raised : o.record = record.raised (tally path since)

/-- An object comes from the last registration that put one at its path. -/
def Accounted (entries : List Entry) (path : String) (o : Registered) : Prop :=
  ∃ before record registration since,
    entries = before ++ (.register o.hash record, .registered registration) :: since ∧
    registration ≠ .reused ∧ RaisedFrom path o record since

/-- What is at a path comes from a registration, and nothing is there without one. -/
def Keeps (entries : List Entry) (path : String) : Option Registered → Prop
  | some o => Accounted entries path o
  | none => ∀ e ∈ entries, ∀ hash record, e.1 = .register hash record → record.path ≠ path

section Keeps

variable {entries : List Entry} {path : String} {o : Registered} {call : Call}
  {outcome : Call.Outcome}

theorem accounted_new {record : FileRecord} (hpath : record.path = path) (hash : String)
    {registration : Registration} (hnew : registration ≠ .reused) :
    Accounted (entries ++ [(.register hash record, .registered registration)]) path ⟨hash, record⟩ := by
  refine ⟨entries, record, registration, [], rfl, hnew, hpath, nofun, ?_⟩
  exact record.raised_zero.symm

/-- An entry that is no registration of another hash goes on with an account. -/
theorem Accounted.snoc (h : Accounted entries path o) (call : Call) (outcome : Call.Outcome)
    (hagain : ∀ hash other, call = .register hash other → other.path = path →
      hash = o.hash ∧ outcome = .registered .reused) :
    Accounted (entries ++ [(call, outcome)]) path
      { o with record := o.record.raised (tally path [(call, outcome)]) } := by
  obtain ⟨before, record, registration, since, rfl, hnew, hfrom⟩ := h
  refine ⟨before, record, registration, since ++ [(call, outcome)], by simp, hnew, hfrom.file, ?_, ?_⟩
  · intro e he
    rcases List.mem_append.1 he with he | he
    · exact hfrom.again e he
    · rw [List.mem_singleton.1 he]
      exact hagain
  · have htally : tally path (since ++ [(call, outcome)]) =
        fun c => tally path since c + tally path [(call, outcome)] c :=
      funext fun c => List.countP_append
    rw [hfrom.raised, FileRecord.raised_raised, htally]

/-- An entry for another path, or one without an effect, leaves what is at a path. -/
theorem Keeps.skip {o? : Option Registered} (h : Keeps entries path o?)
    (hregister : ∀ hash other, call = .register hash other → other.path ≠ path)
    (hcount : ∀ c, counts path c (call, outcome) = false) :
    Keeps (entries ++ [(call, outcome)]) path o? := by
  cases o? with
  | none =>
    intro e he
    rcases List.mem_append.1 he with he | he
    · exact h e he
    · rw [List.mem_singleton.1 he]
      exact hregister
  | some o =>
    have hnone : tally path [(call, outcome)] = fun _ => 0 := by
      funext c
      rw [tally, List.countP_singleton, hcount c]
      rfl
    have hsnoc := Accounted.snoc h call outcome
      fun hash other hcall hpath => absurd hpath (hregister hash other hcall)
    rwa [hnone, FileRecord.raised_zero] at hsnoc

theorem keeps_register {hash : String} {record : FileRecord}
    (h : Keeps entries record.path (r.object? record.path)) :
    Keeps (entries ++ [(.register hash record, .registered (r.register hash record).1)]) record.path
      ((r.register hash record).2.object? record.path) := by
  rcases r.register_cases hash record with
    ⟨-, heq⟩ | ⟨o, hobject, ⟨hhash, heq⟩ | ⟨-, heq⟩⟩ <;> rw [heq]
  · rw [object?_put, if_pos rfl]
    exact accounted_new rfl hash nofun
  · rw [hobject] at h ⊢
    have hsnoc := Accounted.snoc h (.register hash record) (.registered .reused)
      fun _ _ hcall _ => by
        cases hcall
        exact ⟨hhash.symm, rfl⟩
    have hnone : tally record.path [(.register hash record, .registered .reused)] = fun _ => 0 := rfl
    rwa [hnone, FileRecord.raised_zero] at hsnoc
  · rw [object?_put, if_pos rfl]
    exact accounted_new rfl hash nofun

theorem object?_register_other {hash : String} {record : FileRecord} (h : path ≠ record.path) :
    (r.register hash record).2.object? path = r.object? path := by
  rcases r.register_cases hash record with ⟨-, heq⟩ | ⟨o, -, ⟨-, heq⟩ | ⟨-, heq⟩⟩ <;> rw [heq]
  · rw [object?_put, if_neg h]
  · rw [object?_put, if_neg h]

/-- What is at a path comes from a registration after every call. -/
theorem Keeps.step (h : Keeps entries path (r.object? path)) (call : Call) :
    Keeps (entries ++ [(call, (r.step call).1)]) path ((r.step call).2.object? path) := by
  cases call with
  | register hash record =>
    by_cases hpath : record.path = path
    · subst hpath
      exact keeps_register h
    · rw [Registry.step, object?_register_other (Ne.symm hpath)]
      exact h.skip (fun _ _ hcall => by cases hcall; exact hpath) fun _ => rfl
  | hit p c =>
    rw [Registry.step]
    cases hhit : r.hit p c with
    | error e => exact h.skip nofun fun _ => rfl
    | ok t =>
      obtain ⟨o, hobject, rfl⟩ := hit_eq_ok hhit
      by_cases hpath : p = path
      · subst hpath
        have honce : tally p [(.hit p c, .counted)] = once c := by
          funext d
          simp [tally, counts, once, eq_comm]
        rw [hobject] at h
        have hsnoc := Accounted.snoc h (.hit p c) .counted nofun
        rw [honce] at hsnoc
        rw [object?_put, if_pos rfl]
        exact hsnoc
      · have hother : ∀ d, counts path d (.hit p c, .counted) = false := by
          intro d
          rw [counts, decide_eq_false hpath, Bool.false_and]
        rw [object?_put, if_neg (Ne.symm hpath)]
        exact h.skip nofun hother

end Keeps

theorem run_concat (r : Registry) (calls : List Call) (call : Call) :
    r.run (calls ++ [call]) = ((r.run calls).step call).2 := run_append r calls [call]

theorem history_concat (r : Registry) (calls : List Call) (call : Call) :
    r.history (calls ++ [call]) =
      r.history calls ++ [(call, ((r.run calls).step call).1)] := history_append r calls [call]

/-- After any calls what is at a path comes from a registration. -/
theorem keeps_run (calls : List Call) (path : String) :
    Keeps (empty.history calls) path ((empty.run calls).object? path) := by
  induction calls using List.reverseRecOn with
  | nil => exact nofun
  | append_singleton calls call ih =>
    rw [run_concat, history_concat]
    exact ih.step call

/-! ### Which paths are there -/

/-- The path that a call registers. -/
def Call.registers? : Call → Option String
  | register _ record => some record.path
  | hit _ _ => none

/-- The paths that calls register, in the order of their first registrations. -/
def registeredPaths (calls : List Call) : List String :=
  (calls.filterMap Call.registers?).eraseDups

theorem keys_step (r : Registry) (call : Call) :
    ((r.step call).2.objects.map (·.1)) =
      match call.registers? with
      | some path =>
        if path ∈ r.objects.map (·.1) then r.objects.map (·.1) else r.objects.map (·.1) ++ [path]
      | none => r.objects.map (·.1) := by
  have hmem : ∀ {path : String} {o : Registered}, r.object? path = some o →
      path ∈ r.objects.map (·.1) := by
    intro path o ho
    obtain ⟨before, after, heq, -⟩ := List.lookup_eq_some_iff.1 ho
    rw [heq]
    simp
  cases call with
  | register hash record =>
    rw [Registry.step, Call.registers?]
    rcases r.register_cases hash record with
      ⟨-, heq⟩ | ⟨o, hobject, ⟨-, heq⟩ | ⟨-, heq⟩⟩ <;> rw [heq]
    · exact keys_putAt record.path ⟨hash, record⟩ r.objects
    · exact (if_pos (hmem hobject)).symm
    · exact keys_putAt record.path ⟨hash, record⟩ r.objects
  | hit path c =>
    rw [Registry.step, Call.registers?]
    cases hhit : r.hit path c with
    | error e => rfl
    | ok t =>
      obtain ⟨o, hobject, rfl⟩ := hit_eq_ok hhit
      exact (keys_putAt path _ r.objects).trans (if_pos (hmem hobject))

/-- A registry has the paths that were registered, in the order of their first registrations. -/
theorem keys_run (calls : List Call) :
    (empty.run calls).objects.map (·.1) = registeredPaths calls := by
  induction calls using List.reverseRecOn with
  | nil => rfl
  | append_singleton calls call ih =>
    rw [run_concat, keys_step, ih, registeredPaths, registeredPaths, List.filterMap_append,
      List.filterMap_cons]
    generalize calls.filterMap Call.registers? = paths
    cases call.registers? with
    | none => simp
    | some path =>
      exact (if_congr List.mem_eraseDups rfl rfl).trans
        (Snapshot.eraseDups_concat paths path).symm

theorem reached_step (h : r.Reached) (call : Call) : (r.step call).2.Reached := by
  cases call with
  | register hash record => exact h.register hash record
  | hit path c =>
    rw [Registry.step]
    cases hhit : r.hit path c with
    | error e => exact h
    | ok t =>
      cases c with
      | statement id => exact h.hitStatement hhit
      | function id => exact h.hitFunction hhit
      | outcome branch index => exact h.hitOutcome hhit

theorem reached_run (calls : List Call) : (empty.run calls).Reached := by
  induction calls using List.reverseRecOn with
  | nil => exact .empty
  | append_singleton calls call ih =>
    rw [run_concat]
    exact reached_step ih call

/-- The records of a registry are found under their paths. -/
theorem Consistent.map_find? (h : r.Consistent) :
    (r.objects.map (·.1)).map r.find? = (r.objects.map fun e => e.2.record).map some := by
  rw [List.map_map, List.map_map]
  refine List.map_congr_left fun e he => ?_
  have hlookup : r.objects.lookup e.1 = some e.2 := by
    obtain ⟨before, after, heq⟩ := List.append_of_mem he
    refine List.lookup_eq_some_iff.2 ⟨before, after, heq, fun p hp => ?_⟩
    have hnodup := h.nodup
    rw [heq, List.map_append, List.map_cons, List.nodup_append] at hnodup
    simpa using (hnodup.2.2 p.1 (List.mem_map_of_mem hp) e.1 List.mem_cons_self).symm
  rw [Function.comp_apply, find?, object?, hlookup]
  rfl

/-- Every call leaves other paths alone. -/
theorem find?_step_other {path : String} {call : Call} (h : path ≠ call.path) :
    (r.step call).2.find? path = r.find? path := by
  cases call with
  | register hash record => exact find?_register_other r hash record h
  | hit p c =>
    rw [Registry.step]
    cases hhit : r.hit p c with
    | error e => rfl
    | ok t =>
      obtain ⟨o, -, rfl⟩ := hit_eq_ok hhit
      rw [find?, object?_put, if_neg (show ¬path = p from h)]
      rfl

theorem step_of_failed {call : Call} {e : Error} (h : (r.step call).1 = .failed e) :
    (r.step call).2 = r := by
  cases call with
  | register hash record => cases h
  | hit p c =>
    rw [Registry.step] at h ⊢
    cases hhit : r.hit p c with
    | error e => rfl
    | ok t =>
      rw [hhit] at h
      cases h

/-- A registration of the hash that is there changes nothing. -/
theorem step_of_reused {call : Call} (h : (r.step call).1 = .registered .reused) :
    (r.step call).2 = r := by
  cases call with
  | register hash record =>
    rw [Registry.step] at h ⊢
    rcases r.register_cases hash record with
      ⟨-, heq⟩ | ⟨o, -, ⟨-, heq⟩ | ⟨-, heq⟩⟩ <;> rw [heq] at h ⊢ <;> cases h
  | hit p c =>
    rw [Registry.step] at h
    split at h <;> cases h

/-! ### Any calls -/

/-- After any calls the registry has, for every path that was registered, the object of the last
registration that put one there, with each counter raised by the hits that succeeded since. Hits
that fail and registrations of the hash that is there change nothing, and no call changes another
path. The snapshot lists the registered paths
in the order of their first registrations, with these records. -/
theorem run_accounts (calls : List Call) :
    (∀ path ∈ registeredPaths calls, ∃ o before record registration since,
      (empty.run calls).object? path = some o ∧ (empty.run calls).find? path = some o.record ∧
      empty.history calls =
        before ++ (.register o.hash record, .registered registration) :: since ∧
      registration ≠ .reused ∧ RaisedFrom path o record since ∧
      ∀ c hits, record.count? c = some hits → hits.toNat + tally path since c < 2 ^ 64 →
        (o.record.count? c).map UInt64.toNat = some (hits.toNat + tally path since c)) ∧
    (∀ r call e, (step r call).1 = .failed e → (step r call).2 = r) ∧
    (∀ r call, (step r call).1 = .registered .reused → (step r call).2 = r) ∧
    (∀ r call path, path ≠ call.path → (step r call).2.find? path = r.find? path) ∧
    (empty.run calls).snapshot.files.map some =
      (registeredPaths calls).map (empty.run calls).find? := by
  have hconsistent := (reached_run calls).consistent
  refine ⟨fun path hpath => ?_, fun r call e => step_of_failed,
    fun r call => step_of_reused, fun r call path => find?_step_other,
    ?_⟩
  · have hkeeps := keeps_run calls path
    cases hobject : (empty.run calls).object? path with
    | none =>
      rw [← keys_run, List.mem_map] at hpath
      obtain ⟨e, he, rfl⟩ := hpath
      have hlookup : ¬(e.1 == e.1) = true := by
        simpa using List.lookup_eq_none_iff.1 hobject e he
      exact absurd (beq_self_eq_true e.1) hlookup
    | some o =>
      rw [hobject] at hkeeps
      obtain ⟨before, record, registration, since, hhistory, hnew, hfrom⟩ := hkeeps
      have hfind : (empty.run calls).find? path = some o.record := by rw [find?, hobject]; rfl
      refine ⟨o, before, record, registration, since, rfl, hfind, hhistory, hnew, hfrom, ?_⟩
      intro c hits hcount hfits
      rw [hfrom.raised]
      exact FileRecord.toNat_count?_raised hcount hfits
  · rw [files_snapshot hconsistent, ← keys_run, hconsistent.map_find?]

/-- A file with one statement. -/
def oneStatement (path : String) (hits : UInt64) : FileRecord :=
  { FileRecord.empty path with
    statements := Table.empty.insert 0 default
    statementHits := Table.empty.insert 0 hits }

/-- A file is loaded, loaded again, and loaded once more after a change. -/
def reloads : List Call :=
  [.register "1" (oneStatement "/a.js" 0), .hit "/a.js" (.statement 0), .hit "/b.js" (.statement 0),
    .register "1" (oneStatement "/a.js" 0), .hit "/a.js" (.statement 7),
    .register "2" (oneStatement "/a.js" 3), .register "1" (oneStatement "/b.js" 0),
    .hit "/a.js" (.statement 0), .hit "/b.js" (.statement 0), .hit "/a.js" (.statement 0)]

theorem run_accounts_reloads :
    registeredPaths reloads = ["/a.js", "/b.js"] ∧ ∃ o before record registration since,
      (empty.run reloads).object? "/a.js" = some o ∧
      empty.history reloads =
        before ++ (.register o.hash record, .registered registration) :: since ∧
      registration ≠ .reused ∧ RaisedFrom "/a.js" o record since ∧
      o.hash = "2" ∧ (o.record.count? (.statement 0)).map UInt64.toNat = some 5 := by
  have hpaths : registeredPaths reloads = ["/a.js", "/b.js"] := by decide +kernel
  have hmem : "/a.js" ∈ registeredPaths reloads := by rw [hpaths]; exact List.mem_cons_self
  obtain ⟨o, before, record, registration, since, hobject, -, hhistory, hnew, hfrom, -⟩ :=
    (run_accounts reloads).1 "/a.js" hmem
  have hat : (empty.run reloads).object? "/a.js" = some ⟨"2", oneStatement "/a.js" 5⟩ := by
    decide +kernel
  refine ⟨hpaths, o, before, record, registration, since, hobject, hhistory, hnew, hfrom, ?_⟩
  rw [hat] at hobject
  cases hobject
  exact ⟨rfl, by decide⟩

end Registry

end Coverage
