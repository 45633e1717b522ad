import Coverage.Proofs.FilePath

/-!
# Walks along the segments of a path

The name of a source is resolved by a walk that keeps its segments on a stack. All that a walk can
have there are names behind as many double dots as it has gone back beyond where it started, and a
walk from the root does not go back beyond that (`IsWalked`). So the segments on the stack lead to
where the walk has come, whatever directories there are (`Directories.follow_walk`).
-/

namespace Coverage.FilePath

/-! ### Steps -/

/-- A segment that is the name of something in a directory. -/
def IsName (segment : String) : Prop := segment ≠ "" ∧ segment ≠ "." ∧ segment ≠ ".."

instance (segment : String) : Decidable (IsName segment) := inferInstanceAs (Decidable (_ ∧ _ ∧ _))

theorem segment_cases (segment : String) :
    (segment = "" ∨ segment = ".") ∨ segment = ".." ∨ IsName segment := by
  by_cases hstays : segment = "" ∨ segment = "."
  · exact .inl hstays
  · by_cases hback : segment = ".."
    · exact .inr (.inl hback)
    · obtain ⟨hempty, hdot⟩ := not_or.1 hstays
      exact .inr (.inr ⟨hempty, hdot, hback⟩)

section Step

variable {absolute : Bool} {walked : List String} {segment : String}

theorem step_of_stays (h : segment = "" ∨ segment = ".") :
    step absolute walked segment = walked := by
  rw [step.eq_def, if_pos h]

theorem step_of_isName (h : IsName segment) :
    step absolute walked segment = segment :: walked := by
  rw [step.eq_def, if_neg (not_or.2 ⟨h.1, h.2.1⟩), if_neg h.2.2]

theorem step_back_cons {last : String} (h : last ≠ "..") :
    step absolute (last :: walked) ".." = walked := by
  rw [step.eq_def, if_neg (by decide), if_pos rfl]
  exact if_pos h

theorem step_back_dots : step absolute (".." :: walked) ".." =
    if absolute then ".." :: walked else ".." :: ".." :: walked := by
  rw [step.eq_def, if_neg (by decide), if_pos rfl]
  exact if_neg (not_not_intro rfl)

/-- At the root there is no way back. -/
theorem step_back_root : step true [] ".." = [] := by
  rw [step.eq_def, if_neg (by decide), if_pos rfl]
  rfl

/-- A walk that has not started at the root goes back from where it started. -/
theorem step_back_replicate (n : Nat) :
    step false (List.replicate n "..") ".." = List.replicate (n + 1) ".." := by
  cases n with
  | zero => rfl
  | succ n => exact step_back_dots

theorem step_subset (absolute : Bool) (walked : List String) (segment : String) :
    step absolute walked segment ⊆ segment :: walked := by
  rcases segment_cases segment with hstays | rfl | hname
  · rw [step_of_stays hstays]
    exact List.subset_cons_self segment walked
  · cases walked with
    | nil =>
      cases absolute with
      | true =>
        rw [step_back_root]
        exact List.nil_subset _
      | false => exact fun s hs => (step_back_replicate 0 ▸ hs :)
    | cons last rest =>
      by_cases hlast : last = ".."
      · rw [hlast, step_back_dots]
        split
        · exact List.subset_cons_self _ _
        · exact List.Subset.refl _
      · rw [step_back_cons hlast]
        exact List.subset_cons_of_subset _ (List.subset_cons_self last rest)
  · rw [step_of_isName hname]
    exact List.Subset.refl _

end Step

/-! ### Walks -/

/-- What a walk can have on its stack. -/
inductive IsWalked (absolute : Bool) : List String → Prop
  /-- It has gone back from where it started. -/
  | backs {n : Nat} (h : absolute = true → n = 0) : IsWalked absolute (List.replicate n "..")
  /-- It has gone on from there. -/
  | name {segment : String} {walked : List String} (hname : IsName segment)
      (h : IsWalked absolute walked) : IsWalked absolute (segment :: walked)

/-- Where a walk along some segments ends, as the segments that lead there. -/
def walk (absolute : Bool) (segments : List String) : List String :=
  (segments.foldl (step absolute) []).reverse

section Walk

variable {absolute : Bool} {walked segments : List String}

theorem IsWalked.step (h : IsWalked absolute walked) (segment : String) :
    IsWalked absolute (step absolute walked segment) := by
  rcases segment_cases segment with hstays | rfl | hname
  · rwa [step_of_stays hstays]
  · cases h with
    | name hlast h => rwa [step_back_cons hlast.2.2]
    | @backs n h =>
      cases absolute with
      | true =>
        obtain rfl : n = 0 := h rfl
        rw [List.replicate_zero, step_back_root]
        exact .backs fun _ => rfl
      | false =>
        rw [step_back_replicate]
        exact .backs nofun
  · rw [step_of_isName hname]
    exact .name hname h

theorem IsWalked.foldl (h : IsWalked absolute walked) (segments : List String) :
    IsWalked absolute (segments.foldl (FilePath.step absolute) walked) := by
  induction segments generalizing walked with
  | nil => exact h
  | cons segment segments ih => exact ih (h.step segment)

theorem isWalked_foldl (absolute : Bool) (segments : List String) :
    IsWalked absolute (segments.foldl (step absolute) []) :=
  IsWalked.foldl (.backs (n := 0) fun _ => rfl) segments

/-- What is on the stack, from the bottom to the top. -/
theorem IsWalked.exists_reverse_eq (h : IsWalked absolute walked) :
    ∃ n names, walked.reverse = List.replicate n ".." ++ names ∧ (∀ s ∈ names, IsName s) ∧
      (absolute = true → n = 0) := by
  induction h with
  | @backs n h => exact ⟨n, [], by rw [List.reverse_replicate, List.append_nil], nofun, h⟩
  | @name segment walked hname _ ih =>
    obtain ⟨n, names, hwalked, hnames, hn⟩ := ih
    refine ⟨n, names ++ [segment], ?_, ?_, hn⟩
    · rw [List.reverse_cons, hwalked, List.append_assoc]
    · exact List.forall_mem_append.2 ⟨hnames, List.forall_mem_singleton.2 hname⟩

theorem exists_walk_eq (absolute : Bool) (segments : List String) :
    ∃ n names, walk absolute segments = List.replicate n ".." ++ names ∧
      (∀ s ∈ names, IsName s) ∧ (absolute = true → n = 0) :=
  (isWalked_foldl absolute segments).exists_reverse_eq

theorem foldl_step_subset (absolute : Bool) (walked segments : List String) :
    segments.foldl (step absolute) walked ⊆ segments ++ walked := by
  induction segments generalizing walked with
  | nil => exact List.Subset.refl walked
  | cons segment segments ih =>
    refine List.Subset.trans (ih (step absolute walked segment)) (List.append_subset.2 ⟨?_, ?_⟩)
    · exact List.subset_cons_of_subset _ (List.subset_append_left segments walked)
    · exact List.Subset.trans (step_subset absolute walked segment)
        (List.cons_subset_cons _ (List.subset_append_right segments walked))

/-- A walk takes its segments from those it goes along. -/
theorem walk_subset (absolute : Bool) (segments : List String) :
    walk absolute segments ⊆ segments := by
  intro s hs
  have hmem := foldl_step_subset absolute [] segments (List.mem_reverse.1 hs)
  rwa [List.append_nil] at hmem

/-- Along segments without separators a walk leads to a path. -/
theorem proper_walk (absolute : Bool) (h : ∀ s ∈ segments, ∀ c ∈ s.toList, isSeparator c = false) :
    (⟨walk absolute segments⟩ : FilePath).Proper := by
  intro s hs
  refine ⟨?_, h s (walk_subset absolute segments hs)⟩
  obtain ⟨n, names, hwalk, hnames, -⟩ := exists_walk_eq absolute segments
  rcases List.mem_append.1 (hwalk ▸ hs) with hs | hs
  · rw [List.eq_of_mem_replicate hs]
    decide
  · exact (hnames s hs).1

/-- Empty segments make no difference. -/
theorem walk_filter (absolute : Bool) (segments : List String) :
    walk absolute (segments.filter (· ≠ "")) = walk absolute segments := by
  rw [walk, walk, List.foldl_filter]
  congr 2
  funext walked segment
  split
  · rfl
  · next hempty =>
    exact (step_of_stays (.inl (by simpa using hempty))).symm

end Walk

/-! ### What a walk is about -/

/-- Directories, of which the root encloses itself. -/
structure Directories (α : Type) where
  root : α
  parent : α → α
  /-- What has this name in a directory. -/
  child : α → String → α
  parent_root : parent root = root
  parent_child : ∀ d name, parent (child d name) = d

namespace Directories

variable {α : Type} (D : Directories α)

/-- Where a segment leads. -/
def enter (d : α) (segment : String) : α :=
  if segment = "" ∨ segment = "." then d
  else if segment = ".." then D.parent d
  else D.child d segment

/-- Where segments lead one after the other. -/
def follow (d : α) (segments : List String) : α := segments.foldl D.enter d

variable {D} {absolute : Bool} {start d : α} {walked segments : List String} {segment : String}

theorem enter_of_stays (h : segment = "" ∨ segment = ".") : D.enter d segment = d := by
  rw [enter, if_pos h]

theorem enter_back (d : α) : D.enter d ".." = D.parent d := by
  rw [enter, if_neg (by decide), if_pos rfl]

theorem enter_of_isName (h : IsName segment) : D.enter d segment = D.child d segment := by
  rw [enter, if_neg (not_or.2 ⟨h.1, h.2.1⟩), if_neg h.2.2]

theorem follow_append (d : α) (segments segments' : List String) :
    D.follow d (segments ++ segments') = D.follow (D.follow d segments) segments' :=
  List.foldl_append

theorem follow_reverse_cons (d : α) (segment : String) (walked : List String) :
    D.follow d (segment :: walked).reverse = D.enter (D.follow d walked.reverse) segment := by
  rw [List.reverse_cons, follow_append]
  rfl

/-- After a step the stack leads to where the segment leads from where it led before. -/
theorem follow_step (h : IsWalked absolute walked) (hstart : absolute = true → start = D.root)
    (segment : String) : D.follow start (step absolute walked segment).reverse =
      D.enter (D.follow start walked.reverse) segment := by
  rcases segment_cases segment with hstays | rfl | hname
  · rw [step_of_stays hstays, enter_of_stays hstays]
  · cases h with
    | name hlast h =>
      rw [step_back_cons hlast.2.2, follow_reverse_cons, enter_of_isName hlast, enter_back,
        D.parent_child]
    | @backs n h =>
      cases absolute with
      | true =>
        obtain rfl : n = 0 := h rfl
        rw [List.replicate_zero, step_back_root, enter_back, hstart rfl]
        exact D.parent_root.symm
      | false => rw [step_back_replicate, List.replicate_succ, follow_reverse_cons]
  · rw [step_of_isName hname, follow_reverse_cons]

theorem follow_foldl_step (h : IsWalked absolute walked)
    (hstart : absolute = true → start = D.root) (segments : List String) :
    D.follow start (segments.foldl (step absolute) walked).reverse =
      D.follow (D.follow start walked.reverse) segments := by
  induction segments generalizing walked with
  | nil => rfl
  | cons segment segments ih =>
    rw [List.foldl_cons, ih (h.step segment), follow_step h hstart]
    rfl

/-- A walk leads to where its segments lead one after the other. -/
theorem follow_walk (hstart : absolute = true → start = D.root) (segments : List String) :
    D.follow start (walk absolute segments) = D.follow start segments :=
  follow_foldl_step (.backs (n := 0) fun _ => rfl) hstart segments

end Directories

end Coverage.FilePath
