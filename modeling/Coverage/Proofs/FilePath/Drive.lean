import Coverage.Proofs.FilePath.Resolution
import Mathlib.Data.List.Induction
import Mathlib.Data.List.Infix

/-!
# Files on a drive

Where the path of a generated file begins with a drive, the drive is the first segment of the way to
a source. As long as the rest of the way never goes back beyond its start, what is on the stack is
what a walk along the rest of the way has there, above the drive (`foldl_step_append`), and so the
source is found on that drive. The first step back from the drive takes the drive itself from the
stack, and the walk goes on as if it had started at the root.
-/

namespace Coverage.FilePath

/-! ### Ways that stay within their start -/

/-- How many segments lead back. -/
def backs (segments : List String) : Nat := segments.count ".."

/-- How many segments are names. -/
def names (segments : List String) : Nat := segments.countP fun s => IsName s

/-- The way never goes back beyond its start. -/
def StaysWithin (segments : List String) : Prop :=
  ∀ first, first <+: segments → backs first ≤ names first

instance (segments : List String) : Decidable (StaysWithin segments) :=
  decidable_of_iff (∀ first ∈ segments.inits, backs first ≤ names first)
    (forall_congr' fun first => imp_congr_left (List.mem_inits first segments))

/-- The way goes back beyond its start for the first time between `before` and `after`. -/
structure Leaves (before after segments : List String) : Prop where
  split : segments = before ++ ".." :: after
  within : StaysWithin before
  returned : backs before = names before

section Counts

variable {segment : String}

theorem backs_cons_of_ne (h : segment ≠ "..") (segments : List String) :
    backs (segment :: segments) = backs segments :=
  List.count_cons_of_ne h

theorem backs_cons_back (segments : List String) : backs (".." :: segments) = backs segments + 1 :=
  List.count_cons_self

theorem names_cons_of_isName (h : IsName segment) (segments : List String) :
    names (segment :: segments) = names segments + 1 :=
  List.countP_cons_of_pos (decide_eq_true h)

theorem names_cons_of_not_isName (h : ¬ IsName segment) (segments : List String) :
    names (segment :: segments) = names segments :=
  List.countP_cons_of_neg (by simpa using h)

theorem backs_cons_of_stays (h : segment = "" ∨ segment = ".") (segments : List String) :
    backs (segment :: segments) = backs segments :=
  backs_cons_of_ne (by rcases h with rfl | rfl <;> decide) segments

theorem names_cons_of_stays (h : segment = "" ∨ segment = ".") (segments : List String) :
    names (segment :: segments) = names segments :=
  names_cons_of_not_isName (by rcases h with rfl | rfl <;> decide) segments

theorem names_cons_back (segments : List String) : names (".." :: segments) = names segments :=
  names_cons_of_not_isName (by decide) segments

theorem names_append (segments segments' : List String) :
    names (segments ++ segments') = names segments + names segments' :=
  List.countP_append

theorem backs_append (segments segments' : List String) :
    backs (segments ++ segments') = backs segments + backs segments' :=
  List.count_append

end Counts

/-- A way that does not stay within its start leaves it somewhere. -/
theorem exists_leaves {segments : List String} (h : ¬ StaysWithin segments) :
    ∃ before after, Leaves before after segments := by
  induction segments using List.reverseRecOn with
  | nil => exact absurd (by decide) h
  | append_singleton segments segment ih =>
    by_cases hwithin : StaysWithin segments
    · -- Only the whole way can have more segments that lead back than names.
      have hmore : names (segments ++ [segment]) < backs (segments ++ [segment]) := by
        by_contra hnot
        refine h fun first hfirst => ?_
        rcases List.prefix_concat_iff.1 hfirst with rfl | hfirst
        · exact Nat.le_of_not_lt hnot
        · exact hwithin first hfirst
      have hall := hwithin segments List.prefix_rfl
      rw [names_append, backs_append] at hmore
      by_cases hback : segment = ".."
      · subst hback
        have hone : backs [".."] = 1 := rfl
        exact ⟨segments, [], rfl, hwithin, by omega⟩
      · rw [backs_cons_of_ne hback] at hmore
        have hnone : backs [] = 0 := rfl
        omega
    · obtain ⟨before, after, hsplit, hbefore, hreturned⟩ := ih hwithin
      refine ⟨before, after ++ [segment], ?_, hbefore, hreturned⟩
      rw [hsplit, List.append_assoc, List.cons_append]

/-- A walk that does not go back beyond the names `upper` leaves everything below them where it is.
What it has above that does not depend on what is there. -/
theorem foldl_step_append (upper : List String) {segments : List String}
    (hupper : ∀ s ∈ upper, IsName s)
    (h : ∀ first, first <+: segments → backs first ≤ names first + upper.length) :
    ∃ upper' : List String, upper'.length + backs segments = upper.length + names segments ∧
      ∀ absolute lower, segments.foldl (step absolute) (upper ++ lower) = upper' ++ lower := by
  induction segments generalizing upper with
  | nil => exact ⟨upper, rfl, fun _ _ => rfl⟩
  | cons segment segments ih =>
    have hrest := fun first hfirst => h (segment :: first) (List.cons_prefix_cons.2 ⟨rfl, hfirst⟩)
    rcases segment_cases segment with hstays | rfl | hname
    · simp only [backs_cons_of_stays hstays, names_cons_of_stays hstays] at hrest ⊢
      obtain ⟨upper', hlength, hfold⟩ := ih upper hupper hrest
      refine ⟨upper', hlength, fun absolute lower => ?_⟩
      rw [List.foldl_cons, step_of_stays hstays, hfold]
    · simp only [backs_cons_back, names_cons_back] at hrest ⊢
      cases upper with
      | nil => exact absurd (hrest [] List.nil_prefix) (by decide)
      | cons last upper =>
        obtain ⟨hlast, hupper⟩ := List.forall_mem_cons.1 hupper
        obtain ⟨upper', hlength, hfold⟩ := ih upper hupper fun first hfirst => by
          have hfirst := hrest first hfirst
          rw [List.length_cons] at hfirst
          omega
        refine ⟨upper', by rw [List.length_cons]; omega, fun absolute lower => ?_⟩
        rw [List.foldl_cons, List.cons_append, step_back_cons hlast.2.2, hfold]
    · simp only [backs_cons_of_ne hname.2.2, names_cons_of_isName hname] at hrest ⊢
      obtain ⟨upper', hlength, hfold⟩ := ih (segment :: upper)
        (List.forall_mem_cons.2 ⟨hname, hupper⟩)
        fun first hfirst => by
          have hfirst := hrest first hfirst
          rw [List.length_cons]
          omega
      rw [List.length_cons] at hlength
      refine ⟨upper', by omega, fun absolute lower => ?_⟩
      rw [List.foldl_cons, step_of_isName hname, ← List.cons_append, hfold]

section Walk

variable {drive : String} {before after segments : List String}

/-- As long as the way stays within its start, a walk leads to the same place from a drive. -/
theorem walk_cons_of_staysWithin (hdrive : IsName drive) (h : StaysWithin segments)
    (absolute : Bool) : walk absolute (drive :: segments) = drive :: walk absolute segments := by
  obtain ⟨upper', -, hfold⟩ := foldl_step_append [] nofun h
  have halone := hfold absolute []
  have habove := hfold absolute [drive]
  rw [List.nil_append, List.append_nil] at halone
  rw [List.nil_append] at habove
  rw [walk, walk, List.foldl_cons, step_of_isName hdrive, habove, halone, List.reverse_append]
  rfl

/-- A way that leaves its start forgets the drive in front of it. -/
theorem walk_cons_of_leaves (hdrive : IsName drive) (h : Leaves before after segments)
    (absolute : Bool) : walk absolute (drive :: segments) = walk absolute after := by
  obtain ⟨rfl, hwithin, hreturned⟩ := h
  obtain ⟨upper', hlength, hfold⟩ := foldl_step_append [] nofun hwithin
  have hempty : upper' = [] := by
    rw [List.length_nil, hreturned] at hlength
    exact List.eq_nil_of_length_eq_zero (by omega)
  have hbefore := hfold absolute [drive]
  rw [hempty, List.nil_append] at hbefore
  rw [walk, walk, List.foldl_cons, step_of_isName hdrive, List.foldl_append, hbefore,
    List.foldl_cons, step_back_cons hdrive.2.2]

end Walk

/-! ### Resolving from a drive -/

theorem written_of_isDrive {drive : String} (h : isDrive drive.toList = true)
    (walked : List String) : written true (drive :: walked) = text ⟨drive :: walked⟩ := by
  rw [written, List.headD_cons, h]
  rfl

theorem written_of_not_isDrive {first : String} (h : isDrive first.toList = false)
    (walked : List String) : written true (first :: walked) = "/" ++ text ⟨first :: walked⟩ := by
  rw [written, List.headD_cons, h]
  rfl

/-- What is written for the end of a walk begins with a drive if its first segment is one. -/
theorem head?_stretches_written {drive : String} {walked : List String}
    (h : (⟨walked⟩ : FilePath).Proper) (hdrive : isDrive drive.toList = true) :
    (stretches (written true walked).toList).head? = some drive ↔ walked.head? = some drive := by
  have hempty : some "" ≠ some drive := by
    rintro ⟨⟩
    cases hdrive
  cases walked with
  | nil => exact iff_of_false hempty nofun
  | cons s walked =>
    cases hs : isDrive s.toList with
    | true => rw [written_of_isDrive hs, stretches_text h nofun]
    | false =>
      rw [written_of_not_isDrive hs, String.toList_append]
      refine iff_of_false hempty fun hfirst => ?_
      rw [← Option.some.inj hfirst, hs] at hdrive
      cases hdrive

section Resolve

variable {generated : String} {letter separator : Char} {rest : List Char}

theorem isName_drive (letter : Char) : IsName (String.ofList [letter, ':']) := by
  have hsecond : ∀ s : String, s.toList[1]? ≠ some ':' → String.ofList [letter, ':'] ≠ s := by
    rintro _ hs rfl
    rw [String.toList_ofList] at hs
    exact hs rfl
  exact ⟨hsecond "" (by decide), hsecond "." (by decide), hsecond ".." (by decide)⟩

theorem not_separator_of_isAlpha (h : letter.isAlpha = true) : isSeparator letter = false := by
  refine Bool.eq_false_iff.2 fun hs => ?_
  rw [isSeparator, Bool.or_eq_true, decide_eq_true_eq, decide_eq_true_eq] at hs
  rcases hs with rfl | rfl <;> exact absurd h (by decide)

theorem proper_drive (h : letter.isAlpha = true) : String.ofList [letter, ':'] ≠ "" ∧
    ∀ c ∈ (String.ofList [letter, ':']).toList, isSeparator c = false := by
  rw [String.toList_ofList]
  exact ⟨(isName_drive letter).1, List.forall_mem_cons.2 ⟨not_separator_of_isAlpha h,
    List.forall_mem_singleton.2 rfl⟩⟩

theorem way_of_drive (hletter : letter.isAlpha = true) (hseparator : isSeparator separator = true)
    (source : List Char) : way source (letter :: ':' :: separator :: rest) =
      String.ofList [letter, ':'] :: way source rest := by
  have hstretches : stretches (letter :: ':' :: separator :: rest) =
      stretches [letter, ':'] ++ stretches rest :=
    stretches_append_cons hseparator [letter, ':'] rest
  have hdrive : split [letter, ':'] = [[letter, ':']] := by
    refine split_eq_singleton fun c hc => (proper_drive hletter).2 c ?_
    rwa [String.toList_ofList]
  rw [way, hstretches, List.dropLast_append_of_ne_nil (stretches_ne_nil rest), stretches, hdrive]
  rfl

/-- A walk from a file on a drive starts with the drive. -/
theorem resolve_eq_written_drive {source : String}
    (hgenerated : generated.toList = letter :: ':' :: separator :: rest)
    (hletter : letter.isAlpha = true) (hseparator : isSeparator separator = true)
    (hrelative : isAbsolute (dropScheme source.toList) = false) :
    resolve source generated = written true
      (walk true (String.ofList [letter, ':'] :: way (dropScheme source.toList) rest)) := by
  have habsolute : isAbsolute generated.toList = true := by
    rw [hgenerated, isAbsolute_cons, startsWithDrive, hletter, Bool.or_true]
  rw [resolve_eq_written hrelative, habsolute, hgenerated, way_of_drive hletter hseparator]

/-- From a file on a drive a source is found on that drive as long as the way behind the drive stays
within its start. Where it leaves its start the drive is forgotten, and the rest of the way is gone
from the root: it comes back to the drive only where the rest of the way leads into something of
that name. -/
theorem resolve_of_drive (source : String)
    (hgenerated : generated.toList = letter :: ':' :: separator :: rest)
    (hletter : letter.isAlpha = true) (hseparator : isSeparator separator = true)
    (hrelative : isAbsolute (dropScheme source.toList) = false) :
    (StaysWithin (way (dropScheme source.toList) rest) →
      resolve source generated = text
        ⟨String.ofList [letter, ':'] :: walk true (way (dropScheme source.toList) rest)⟩) ∧
    (∀ before after, Leaves before after (way (dropScheme source.toList) rest) →
      resolve source generated = written true (walk true after)) ∧
    ((stretches (resolve source generated).toList).head? = some (String.ofList [letter, ':']) ↔
      StaysWithin (way (dropScheme source.toList) rest) ∨
        ∃ before after, Leaves before after (way (dropScheme source.toList) rest) ∧
          (walk true after).head? = some (String.ofList [letter, ':'])) := by
  have hdrive : isDrive (String.ofList [letter, ':']).toList = true := by
    rw [String.toList_ofList]
    exact hletter
  have hname := isName_drive letter
  have hresolve := resolve_eq_written_drive hgenerated hletter hseparator hrelative
  have hstays : StaysWithin (way (dropScheme source.toList) rest) → resolve source generated = text
      ⟨String.ofList [letter, ':'] :: walk true (way (dropScheme source.toList) rest)⟩ := by
    intro h
    rw [hresolve, walk_cons_of_staysWithin hname h, written_of_isDrive hdrive]
  have hleaves : ∀ before after, Leaves before after (way (dropScheme source.toList) rest) →
      resolve source generated = written true (walk true after) := by
    intro before after h
    rw [hresolve, walk_cons_of_leaves hname h]
  refine ⟨hstays, hleaves, ?_⟩
  have hall := not_separator_of_mem_way (dropScheme source.toList) rest
  have hback : ∀ before after, Leaves before after (way (dropScheme source.toList) rest) →
      ((stretches (resolve source generated).toList).head? = some (String.ofList [letter, ':']) ↔
        (walk true after).head? = some (String.ofList [letter, ':'])) := by
    intro before after h
    rw [hleaves before after h]
    refine head?_stretches_written (proper_walk true fun s hs => hall s ?_) hdrive
    rw [h.split]
    exact List.mem_append_right before (List.mem_cons_of_mem ".." hs)
  constructor
  · intro hfirst
    by_cases hwithin : StaysWithin (way (dropScheme source.toList) rest)
    · exact .inl hwithin
    · obtain ⟨before, after, h⟩ := exists_leaves hwithin
      exact .inr ⟨before, after, h, (hback before after h).1 hfirst⟩
  · rintro (hwithin | ⟨before, after, h, hfirst⟩)
    · rw [hstays hwithin, ← written_of_isDrive hdrive]
      have hproper := proper_walk true hall
      exact (head?_stretches_written (hproper.unshift (proper_drive hletter)) hdrive).2 rfl
    · exact (hback before after h).2 hfirst

end Resolve

/-- A file on a drive, with a source on that drive and one that the way to it leaves the drive
for. -/
theorem resolve_of_drive_out :
    resolve "../src/a.ts" "C:/out/a.js" = "C:/src/a.ts" ∧
      resolve "../../src/a.ts" "C:/out/a.js" = "/src/a.ts" ∧
      (stretches (resolve "../../src/a.ts" "C:/out/a.js").toList).head? ≠ some "C:" := by
  have hgenerated : "C:/out/a.js".toList = 'C' :: ':' :: '/' :: "out/a.js".toList := by decide
  obtain ⟨hstays, -, -⟩ := resolve_of_drive "../src/a.ts" hgenerated rfl rfl (by decide)
  obtain ⟨-, hleaves, -⟩ := resolve_of_drive "../../src/a.ts" hgenerated rfl rfl (by decide)
  have hout : resolve "../../src/a.ts" "C:/out/a.js" = "/src/a.ts" :=
    (hleaves ["out", ".."] ["src", "a.ts"] ⟨by decide, by decide, by decide⟩).trans (by decide)
  refine ⟨(hstays (by decide)).trans (by decide), hout, ?_⟩
  rw [hout]
  decide

end Coverage.FilePath
