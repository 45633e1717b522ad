import Coverage.Proofs.FilePath.Walk
import Mathlib.Data.List.TakeWhile
import Mathlib.Data.Quot

/-!
# Names of sources are resolved

A source is found on the way to the directory of the file that was made from it and on from there
(`resolve_eq_written`): what comes of the name is what a walk along this way leaves on its stack.

How separators are written makes no difference to the segments of a path, nor to whether it is
absolute (`Respelled.gist_eq`). What is written for the end of a walk has its segments as parts
(`parts_written`) and leads to where they lead (`Directories.follow_written`). The main result is
`resolve_of_relative`.
-/

namespace Coverage.FilePath

/-! ### Stretches -/

/-- The stretches of a path as it is written, as segments of a walk. -/
def stretches (cs : List Char) : List String := (split cs).map String.ofList

theorem split_append_cons {s : Char} (hs : isSeparator s = true) (cs ds : List Char) :
    split (cs ++ s :: ds) = split cs ++ split ds :=
  Text.splitWhere_append_cons hs cs ds

theorem split_eq_singleton {cs : List Char} (h : ∀ c ∈ cs, isSeparator c = false) :
    split cs = [cs] := by
  rw [split, Text.splitWhere_eq_splitOnP, List.splitOnP_eq_singleton h]

theorem stretches_append_cons {s : Char} (hs : isSeparator s = true) (cs ds : List Char) :
    stretches (cs ++ s :: ds) = stretches cs ++ stretches ds := by
  rw [stretches, split_append_cons hs, List.map_append, stretches, stretches]

theorem stretches_ne_nil (cs : List Char) : stretches cs ≠ [] :=
  fun h => Text.splitWhere_ne_nil isSeparator cs (List.map_eq_nil_iff.1 h)

theorem not_separator_of_mem_stretches {cs : List Char} :
    ∀ s ∈ stretches cs, ∀ c ∈ s.toList, isSeparator c = false := by
  refine List.forall_mem_map.2 fun s hs => ?_
  rw [String.toList_ofList]
  exact Text.not_separator_of_mem_splitWhere isSeparator cs s hs

/-- Up to the last separator there is the directory. -/
theorem directoryOf_cases (cs : List Char) :
    (∀ c ∈ cs, isSeparator c = false) ∧ directoryOf cs = [] ∨
      ∃ s name, isSeparator s = true ∧ (∀ c ∈ name, isSeparator c = false) ∧
        cs = directoryOf cs ++ s :: name := by
  have hcut := List.takeWhile_append_dropWhile (p := fun c => !isSeparator c) (l := cs.reverse)
  have hname : ∀ c ∈ cs.reverse.takeWhile (fun c => !isSeparator c), isSeparator c = false :=
    fun c hc => by simpa using List.mem_takeWhile_imp hc
  cases hrest : cs.reverse.dropWhile fun c => !isSeparator c with
  | nil =>
    rw [hrest, List.append_nil] at hcut
    refine .inl ⟨fun c hc => hname c ?_, by rw [directoryOf, hrest]; rfl⟩
    rw [hcut]
    exact List.mem_reverse.2 hc
  | cons s rest =>
    have hs : isSeparator s = true := by
      have hhead := List.head?_dropWhile_not (fun c => !isSeparator c) cs.reverse
      rw [hrest] at hhead
      simpa using hhead
    refine .inr ⟨s, (cs.reverse.takeWhile fun c => !isSeparator c).reverse, hs,
      fun c hc => hname c (List.mem_reverse.1 hc), ?_⟩
    have hreverse := congrArg List.reverse hcut
    rw [hrest, List.reverse_append, List.reverse_cons, List.reverse_reverse, List.append_assoc]
      at hreverse
    rw [directoryOf, hrest]
    exact hreverse.symm

/-- A walk to the directory of a file goes along all stretches but the last one. -/
theorem walk_directoryOf (absolute : Bool) (cs : List Char) (segments : List String) :
    walk absolute (stretches (directoryOf cs) ++ segments) =
      walk absolute ((stretches cs).dropLast ++ segments) := by
  rcases directoryOf_cases cs with ⟨hnone, hempty⟩ | ⟨s, name, hs, hname, hcs⟩
  · rw [hempty, stretches, stretches, split_eq_singleton hnone]
    rfl
  · have hlast : stretches name = [String.ofList name] := by
      rw [stretches, split_eq_singleton hname]
      rfl
    conv => rhs; rw [hcs]
    rw [stretches_append_cons hs, hlast, List.dropLast_concat]

/-! ### Resolving by a walk -/

/-- The way to a source: to the directory of the generated file and on from there. -/
def way (source generated : List Char) : List String :=
  (stretches generated).dropLast ++ stretches source

/-- How the end of a walk is written. A drive is written without a slash in front. -/
def written (absolute : Bool) (walked : List String) : String :=
  if absolute && !isDrive (walked.headD "").toList then "/" ++ text ⟨walked⟩ else text ⟨walked⟩

theorem resolve_eq_written {source generated : String}
    (h : isAbsolute (dropScheme source.toList) = false) :
    resolve source generated = written (isAbsolute generated.toList)
      (walk (isAbsolute generated.toList) (way (dropScheme source.toList) generated.toList)) := by
  have hwalk := walk_directoryOf (isAbsolute generated.toList) generated.toList
    (stretches (dropScheme source.toList))
  rw [way, ← hwalk, resolve, h, stretches, stretches, ← List.map_append]
  rfl

theorem not_separator_of_mem_way (source generated : List Char) :
    ∀ s ∈ way source generated, ∀ c ∈ s.toList, isSeparator c = false := by
  intro s hs
  rcases List.mem_append.1 hs with hs | hs
  · exact not_separator_of_mem_stretches s (List.dropLast_subset _ hs)
  · exact not_separator_of_mem_stretches s hs

/-! ### What is written -/

/-- The text behind a slash in front. -/
def withoutRoot : List Char → List Char
  | '/' :: cs => cs
  | cs => cs

/-- The parts of a text between its slashes, apart from one in front. -/
def parts (text : List Char) : List (List Char) :=
  if withoutRoot text = [] then [] else (withoutRoot text).splitOn '/'

theorem withoutRoot_of_ne {cs : List Char} (h : cs.head? ≠ some '/') : withoutRoot cs = cs := by
  rw [withoutRoot.eq_def]
  split
  · exact absurd rfl h
  · rfl

section Written

variable {walked : List String}

theorem Proper.head?_text {p : FilePath} (h : p.Proper) : p.text.toList.head? ≠ some '/' := by
  intro hhead
  obtain ⟨cs, hcs⟩ := List.head?_eq_some_iff.1 hhead
  cases hroot : p.isRoot with
  | true =>
    rw [text, List.isEmpty_iff.1 hroot] at hcs
    cases hcs
  | false =>
    have hsplit := h.splitOn_text hroot
    rw [hcs] at hsplit
    have hempty : [] ∈ p.segments.map String.toList := by
      rw [← hsplit]
      exact (List.splitOn_append_cons_self [] cs : _) ▸ List.mem_cons_self
    obtain ⟨s, hs, hnil⟩ := List.mem_map.1 hempty
    exact (h s hs).1 (String.toList_eq_nil_iff.1 hnil)

/-- The parts of what is written for a path are its segments. -/
theorem parts_written (absolute : Bool) (h : (⟨walked⟩ : FilePath).Proper) :
    parts (written absolute walked).toList = walked.map String.toList := by
  have hwithout : withoutRoot (written absolute walked).toList = (text ⟨walked⟩).toList := by
    rw [written]
    split
    · rw [String.toList_append]
      rfl
    · exact withoutRoot_of_ne h.head?_text
  rw [parts, hwithout]
  cases hroot : (⟨walked⟩ : FilePath).isRoot with
  | true =>
    have hnil : walked = [] := List.isEmpty_iff.1 hroot
    rw [hnil]
    rfl
  | false =>
    rw [if_neg fun hnil => h.text_ne_empty hroot (String.toList_eq_nil_iff.1 hnil)]
    exact h.splitOn_text hroot

end Written

/-! ### Absolute paths -/

/-- Whether a segment begins with a letter and a colon. -/
def startsWithDrive : List Char → Bool
  | c :: ':' :: _ => c.isAlpha
  | _ => false

theorem startsWithDrive_cons_cons (c d : Char) (cs : List Char) :
    startsWithDrive (c :: d :: cs) = (decide (d = ':') && c.isAlpha) := by
  by_cases hd : d = ':'
  · rw [hd, startsWithDrive, decide_eq_true rfl, Bool.true_and]
  · rw [decide_eq_false hd, startsWithDrive.eq_def]
    split
    · next heq => exact absurd (List.cons.inj (List.cons.inj heq).2).1 hd
    · rfl

theorem isAbsolute_cons (c : Char) (cs : List Char) :
    isAbsolute (c :: cs) = (isSeparator c || startsWithDrive (c :: cs)) := by
  rw [isAbsolute.eq_def]
  dsimp only
  congr 1
  cases cs with
  | nil => rfl
  | cons d cs =>
    rw [startsWithDrive_cons_cons]
    by_cases hd : d = ':'
    · rw [hd, decide_eq_true rfl, Bool.true_and]
      rfl
    · rw [decide_eq_false hd]
      split
      · next heq => exact absurd (List.cons.inj heq).1 hd
      · rfl

theorem startsWithDrive_of_isDrive {cs : List Char} (h : isDrive cs = true) :
    startsWithDrive cs = true := by
  rw [isDrive.eq_def] at h
  split at h
  · exact h
  · cases h

theorem isAbsolute_eq_startsWithDrive {cs : List Char} (h : ∀ c ∈ cs, isSeparator c = false) :
    isAbsolute cs = startsWithDrive cs := by
  cases cs with
  | nil => rfl
  | cons c cs => rw [isAbsolute_cons, h c List.mem_cons_self, Bool.false_or]

/-- What stands before a separator decides whether a path is absolute. -/
theorem isAbsolute_append_cons {s : Char} (hs : isSeparator s = true) (cs ds : List Char) :
    isAbsolute (cs ++ s :: ds) = (cs.isEmpty || isAbsolute cs) := by
  match cs with
  | [] => rw [List.nil_append, isAbsolute_cons, hs]; rfl
  | [c] =>
    have hcolon : s ≠ ':' := by
      rintro rfl
      exact absurd hs (by decide)
    rw [List.singleton_append, isAbsolute_cons, startsWithDrive_cons_cons, decide_eq_false hcolon]
    rfl
  | c :: d :: cs =>
    rw [List.cons_append, List.cons_append, isAbsolute_cons, isAbsolute_cons,
      startsWithDrive_cons_cons, startsWithDrive_cons_cons]
    rfl

/-! ### How separators are written -/

/-- A text with one of its separators swapped for another one, or written twice. -/
inductive Respelled : List Char → List Char → Prop
  | swapped {s t : Char} (hs : isSeparator s = true) (ht : isSeparator t = true)
      (cs ds : List Char) : Respelled (cs ++ s :: ds) (cs ++ t :: ds)
  | repeated {s : Char} (hs : isSeparator s = true) (cs ds : List Char) :
      Respelled (cs ++ s :: ds) (cs ++ s :: s :: ds)

/-- Two texts that are the same but for how their separators are written. -/
def SpelledAlike (text text' : String) : Prop :=
  Relation.EqvGen Respelled text.toList text'.toList

/-- What there is in a path however its separators are written. -/
structure Gist where
  absolute : Bool
  scheme : Bool
  directory : List String
  segments : List String

def gist (cs : List Char) : Gist where
  absolute := isAbsolute cs
  scheme := "file:".toList.isPrefixOf cs
  directory := (stretches cs).dropLast.filter (· ≠ "")
  segments := (stretches cs).filter (· ≠ "")

theorem isPrefix_append_cons_iff {s : Char} (hs : isSeparator s = true) {start : List Char}
    (hstart : ∀ c ∈ start, isSeparator c = false) (cs ds : List Char) :
    start <+: cs ++ s :: ds ↔ start <+: cs := by
  refine ⟨fun h => ?_, fun h => h.trans (List.prefix_append cs _)⟩
  rcases List.prefix_or_prefix_of_prefix h (List.prefix_append cs (s :: ds)) with hle | ⟨rest, hrest⟩
  · exact hle
  · subst hrest
    cases rest with
    | nil => simp
    | cons c rest =>
      obtain ⟨rfl, -⟩ := List.cons_prefix_cons.1 ((List.prefix_append_right_inj cs).1 h)
      have hc := hstart c (List.mem_append_right cs List.mem_cons_self)
      exact absurd (hs.symm.trans hc) nofun

theorem not_separator_of_mem_scheme : ∀ c ∈ "file:".toList, isSeparator c = false := by
  have hall : "file:".toList.all (fun c => !isSeparator c) = true := rfl
  intro c hc
  simpa using List.all_eq_true.1 hall c hc

theorem gist_append_cons {s : Char} (hs : isSeparator s = true) (cs ds : List Char) :
    gist (cs ++ s :: ds) =
      ⟨cs.isEmpty || isAbsolute cs, "file:".toList.isPrefixOf cs,
        (stretches cs ++ (stretches ds).dropLast).filter (· ≠ ""),
        (stretches cs ++ stretches ds).filter (· ≠ "")⟩ := by
  have hscheme : "file:".toList.isPrefixOf (cs ++ s :: ds) = "file:".toList.isPrefixOf cs := by
    rw [Bool.eq_iff_iff, List.isPrefixOf_iff_prefix, List.isPrefixOf_iff_prefix]
    exact isPrefix_append_cons_iff hs not_separator_of_mem_scheme cs ds
  rw [gist, isAbsolute_append_cons hs, hscheme, stretches_append_cons hs,
    List.dropLast_append_of_ne_nil (stretches_ne_nil ds)]

theorem Respelled.gist_eq {cs ds : List Char} (h : Respelled cs ds) : gist cs = gist ds := by
  cases h with
  | swapped hs ht cs ds => rw [gist_append_cons hs, gist_append_cons ht]
  | @repeated s hs cs ds =>
    have htwice : stretches (s :: ds) = "" :: stretches ds := stretches_append_cons hs [] ds
    rw [gist_append_cons hs, gist_append_cons hs, htwice,
      List.dropLast_cons_of_ne_nil (stretches_ne_nil ds)]
    simp

theorem SpelledAlike.gist_eq {text text' : String} (h : SpelledAlike text text') :
    gist text.toList = gist text'.toList :=
  congrArg (Quot.lift gist fun _ _ => Respelled.gist_eq) (Quot.eqvGen_sound h)

theorem dropScheme_eq_self {cs : List Char} (h : "file:".toList.isPrefixOf cs = false) :
    dropScheme cs = cs := by
  refine if_neg fun hscheme => ?_
  have hprefix : "file:".toList <+: cs :=
    (show "file:".toList <+: "file://".toList by decide).trans (List.isPrefixOf_iff_prefix.1 hscheme)
  exact absurd (List.isPrefixOf_iff_prefix.2 hprefix) (ne_true_of_eq_false h)

theorem walk_way_congr {source source' generated generated' : List Char}
    (hsource : (gist source).segments = (gist source').segments)
    (hgenerated : (gist generated).directory = (gist generated').directory) (absolute : Bool) :
    walk absolute (way source generated) = walk absolute (way source' generated') := by
  rw [← walk_filter, ← walk_filter absolute (way source' generated'), way, way, List.filter_append,
    List.filter_append]
  exact congrArg (walk absolute) (congr_arg₂ _ hgenerated hsource)

theorem gist_dropScheme_eq {source source' : String} (h : SpelledAlike source source')
    (hscheme : "file:".toList.isPrefixOf source.toList = false) :
    gist (dropScheme source.toList) = gist (dropScheme source'.toList) := by
  have hscheme' : "file:".toList.isPrefixOf source'.toList = false :=
    (congrArg Gist.scheme h.gist_eq).symm.trans hscheme
  rw [dropScheme_eq_self hscheme, dropScheme_eq_self hscheme', h.gist_eq]

/-- It makes no difference how separators are written. -/
theorem resolve_congr {source source' generated generated' : String}
    (hrelative : isAbsolute (dropScheme source.toList) = false)
    (hsource : gist (dropScheme source.toList) = gist (dropScheme source'.toList))
    (hgenerated : gist generated.toList = gist generated'.toList) :
    resolve source' generated' = resolve source generated := by
  have hrelative' : isAbsolute (dropScheme source'.toList) = false :=
    (congrArg Gist.absolute hsource).symm.trans hrelative
  have habsolute : isAbsolute generated.toList = isAbsolute generated'.toList :=
    congrArg Gist.absolute hgenerated
  rw [resolve_eq_written hrelative, resolve_eq_written hrelative', habsolute,
    walk_way_congr (congrArg Gist.segments hsource) (congrArg Gist.directory hgenerated)]

/-! ### The place that is written -/

section Written

variable {absolute : Bool} {walked : List String}

theorem text_cons_cons (s t : String) (segments : List String) :
    (text ⟨s :: t :: segments⟩).toList = s.toList ++ '/' :: (text ⟨t :: segments⟩).toList := by
  rw [text, text, String.intercalate_cons_cons, String.toList_append, String.toList_append,
    List.append_assoc]
  rfl

theorem text_singleton (s : String) : text ⟨[s]⟩ = s := String.intercalate_singleton

theorem stretches_text (h : (⟨walked⟩ : FilePath).Proper) (hne : walked ≠ []) :
    stretches (text ⟨walked⟩).toList = walked := by
  induction walked with
  | nil => exact absurd rfl hne
  | cons s walked ih =>
    obtain ⟨hs, hrest⟩ := List.forall_mem_cons.1 h
    have hfirst : stretches s.toList = [s] := by
      rw [stretches, split_eq_singleton hs.2]
      simp
    cases walked with
    | nil => rw [text_singleton, hfirst]
    | cons t walked =>
      rw [text_cons_cons, stretches_append_cons (by decide), hfirst, ih hrest nofun]
      rfl

theorem isAbsolute_text (h : (⟨walked⟩ : FilePath).Proper)
    (hdrive : ∀ s ∈ walked, startsWithDrive s.toList = false) :
    isAbsolute (text ⟨walked⟩).toList = false := by
  match walked with
  | [] => rfl
  | [s] =>
    rw [text_singleton, isAbsolute_eq_startsWithDrive (h s List.mem_cons_self).2]
    exact hdrive s List.mem_cons_self
  | s :: t :: walked =>
    obtain ⟨hempty, hs⟩ := h s List.mem_cons_self
    have hne : s.toList.isEmpty = false := by
      simpa [List.isEmpty_eq_false_iff] using hempty
    rw [text_cons_cons, isAbsolute_append_cons (by decide), hne, Bool.false_or,
      isAbsolute_eq_startsWithDrive hs]
    exact hdrive s List.mem_cons_self

/-- Without drives, what is written is absolute if the walk has started at the root. -/
theorem isAbsolute_written (absolute : Bool) (h : (⟨walked⟩ : FilePath).Proper)
    (hdrive : ∀ s ∈ walked, startsWithDrive s.toList = false) :
    isAbsolute (written absolute walked).toList = absolute := by
  have hnone : isDrive (walked.headD "").toList = false := by
    cases walked with
    | nil => rfl
    | cons s walked =>
      refine Bool.eq_false_iff.2 fun hs => ?_
      exact absurd (startsWithDrive_of_isDrive hs)
        (ne_true_of_eq_false (hdrive s List.mem_cons_self))
  rw [written, hnone]
  cases absolute with
  | true =>
    show isAbsolute ("/" ++ text ⟨walked⟩).toList = true
    rw [String.toList_append]
    rfl
  | false => exact isAbsolute_text h hdrive

namespace Directories

variable {α : Type} (D : Directories α)

/-- Where a path starts. -/
def base (cwd : α) (cs : List Char) : α := if isAbsolute cs then D.root else cwd

/-- What a path stands for. -/
def locate (cwd : α) (cs : List Char) : α := D.follow (D.base cwd cs) (stretches cs)

/-- The directory of the file that a path stands for. -/
def locateDirectory (cwd : α) (cs : List Char) : α :=
  D.follow (D.base cwd cs) (stretches cs).dropLast

theorem follow_text (h : (⟨walked⟩ : FilePath).Proper) (d : α) :
    D.follow d (stretches (text ⟨walked⟩).toList) = D.follow d walked := by
  by_cases hnil : walked = []
  · rw [hnil]
    rfl
  · rw [stretches_text h hnil]

theorem follow_written (h : (⟨walked⟩ : FilePath).Proper) (d : α) :
    D.follow d (stretches (written absolute walked).toList) = D.follow d walked := by
  rw [written]
  split
  · rw [String.toList_append]
    have hslash : stretches ("/".toList ++ (text ⟨walked⟩).toList) =
        "" :: stretches (text ⟨walked⟩).toList :=
      stretches_append_cons (by decide) [] (text ⟨walked⟩).toList
    rw [hslash]
    exact D.follow_text h d
  · exact D.follow_text h d

end Directories

end Written

/-! ### Resolving -/

/-- The parts of a path are in normal form: there are no empty ones, no single dots and no
backslashes, and double dots are in front of all names, where they are only in a path that does not
start at the root. -/
structure IsNormal (absolute : Bool) (text : List Char) : Prop where
  proper : ∀ s ∈ parts text, s ≠ [] ∧ s ≠ ['.'] ∧ '\\' ∉ s
  backs : ∃ n names, parts text = List.replicate n ['.', '.'] ++ names ∧ ['.', '.'] ∉ names ∧
    (absolute = true → n = 0)

theorem isNormal_written {absolute : Bool} {segments : List String}
    (h : ∀ s ∈ segments, ∀ c ∈ s.toList, isSeparator c = false) :
    IsNormal absolute (written absolute (walk absolute segments)).toList := by
  have hproper := proper_walk absolute h
  obtain ⟨n, names, hwalk, hnames, hn⟩ := exists_walk_eq absolute segments
  have hparts := parts_written absolute hproper
  constructor
  · rw [hparts]
    refine List.forall_mem_map.2 fun s hs => ?_
    obtain ⟨hempty, hseparator⟩ := hproper s hs
    refine ⟨fun hnil => hempty (String.toList_eq_nil_iff.1 hnil), fun hdot => ?_, fun hslash => ?_⟩
    · have hdot : s = "." := String.toList_inj.1 hdot
      rcases List.mem_append.1 (hwalk ▸ hs) with hs | hs
      · exact absurd (hdot.symm.trans (List.eq_of_mem_replicate hs)) (by decide)
      · exact (hnames s hs).2.1 hdot
    · exact absurd (hseparator _ hslash) (by decide)
  · refine ⟨n, names.map String.toList, ?_, fun hmem => ?_, hn⟩
    · rw [hparts, hwalk, List.map_append, List.map_replicate]
      rfl
    · obtain ⟨s, hs, hback⟩ := List.mem_map.1 hmem
      exact (hnames s hs).2.2 (String.toList_inj.1 hback)

theorem segmentsOf_dropScheme_subset (cs : List Char) :
    segmentsOf (dropScheme cs) ⊆ segmentsOf cs := by
  rw [dropScheme]
  split
  · next h =>
    obtain ⟨rest, rfl⟩ := List.isPrefixOf_iff_prefix.1 h
    have hsplit : split ("file://".toList ++ rest) = split "file:/".toList ++ split rest :=
      split_append_cons (by decide) "file:/".toList rest
    have hdrop : ("file://".toList ++ rest).drop 7 = rest := rfl
    rw [segmentsOf, segmentsOf, hdrop, hsplit, List.filter_append]
    exact List.subset_append_right _ _
  · exact List.Subset.refl _

/-- Where no segment of a source or a generated file begins with a letter and a colon, none on the
way does. -/
theorem startsWithDrive_way {source generated : List Char}
    (h : ∀ s ∈ segmentsOf source ++ segmentsOf generated, startsWithDrive s = false) :
    ∀ s ∈ way (dropScheme source) generated, startsWithDrive s.toList = false := by
  have hstretch : ∀ cs, (∀ s ∈ segmentsOf cs, startsWithDrive s = false) →
      ∀ s ∈ stretches cs, startsWithDrive s.toList = false := by
    intro cs hcs
    refine List.forall_mem_map.2 fun s hs => ?_
    rw [String.toList_ofList]
    cases s with
    | nil => rfl
    | cons c s => exact hcs _ (List.mem_filter.2 ⟨hs, rfl⟩)
  obtain ⟨hsource, hgenerated⟩ := List.forall_mem_append.1 h
  refine List.forall_mem_append.2 ⟨fun s hs => ?_, ?_⟩
  · exact hstretch generated hgenerated s (List.dropLast_subset _ hs)
  · exact hstretch _ fun s hs => hsource s (segmentsOf_dropScheme_subset source hs)

/-- The name of a source that is relative is resolved to a path in normal form, however separators
are written. Where there are no drives, this path is absolute if that of the generated file is, and
it stands for what the name of the source stands for in the directory of the generated file,
whatever directories there are. -/
theorem resolve_of_relative (source generated : String)
    (hrelative : isAbsolute (dropScheme source.toList) = false) :
    IsNormal (isAbsolute generated.toList) (resolve source generated).toList ∧
    (∀ source' generated',
      source' = source ∨ ¬ "file:".toList <+: source.toList ∧ SpelledAlike source source' →
      SpelledAlike generated generated' →
      resolve source' generated' = resolve source generated) ∧
    ((∀ s ∈ segmentsOf source.toList ++ segmentsOf generated.toList, startsWithDrive s = false) →
      isAbsolute (resolve source generated).toList = isAbsolute generated.toList ∧
      ∀ {α : Type} (D : Directories α) (cwd : α),
        D.locate cwd (resolve source generated).toList =
          D.follow (D.locateDirectory cwd generated.toList)
            (stretches (dropScheme source.toList))) := by
  refine ⟨?_, fun source' generated' hsource hgenerated => ?_, fun hdrive => ?_⟩
  · rw [resolve_eq_written hrelative]
    exact isNormal_written (not_separator_of_mem_way _ _)
  · refine resolve_congr hrelative ?_ hgenerated.gist_eq
    rcases hsource with rfl | ⟨hscheme, hsource⟩
    · rfl
    · rw [← List.isPrefixOf_iff_prefix, Bool.not_eq_true] at hscheme
      exact gist_dropScheme_eq hsource hscheme
  · rw [resolve_eq_written hrelative]
    have hproper := proper_walk (isAbsolute generated.toList)
      (not_separator_of_mem_way (dropScheme source.toList) generated.toList)
    have habsolute := isAbsolute_written (isAbsolute generated.toList) hproper
      fun s hs => startsWithDrive_way hdrive s (walk_subset _ _ hs)
    refine ⟨habsolute, fun D cwd => ?_⟩
    rw [Directories.locate, Directories.base, habsolute, D.follow_written hproper,
      Directories.follow_walk fun h => if_pos h, way, Directories.follow_append]
    rfl

/-- Directories that are their names, the innermost one first. -/
def Directories.byNames : Directories (List String) where
  root := []
  parent := List.tail
  child d name := name :: d
  parent_root := rfl
  parent_child _ _ := rfl

theorem resolve_of_relative_upward :
    isAbsolute (dropScheme "../src/a.ts".toList) = false ∧
      resolve "../src/a.ts" "/proj/dist/a.js" = "/proj/src/a.ts" ∧
      IsNormal true (resolve "../src/a.ts" "/proj/dist/a.js").toList ∧
      resolve "..\\src/a.ts" "/proj//dist/a.js" = resolve "../src/a.ts" "/proj/dist/a.js" ∧
      Directories.byNames.locate ["cwd"] (resolve "../src/a.ts" "/proj/dist/a.js").toList =
        ["a.ts", "src", "proj"] := by
  have hrelative : isAbsolute (dropScheme "../src/a.ts".toList) = false := by decide
  obtain ⟨hnormal, halike, hplace⟩ :=
    resolve_of_relative "../src/a.ts" "/proj/dist/a.js" hrelative
  refine ⟨hrelative, by decide, hnormal, ?_, ?_⟩
  · refine halike _ _ (.inr ⟨by decide, .rel _ _ ?_⟩) (.rel _ _ ?_)
    · exact @Respelled.swapped '/' '\\' rfl rfl "..".toList "src/a.ts".toList
    · exact @Respelled.repeated '/' rfl "/proj".toList "dist/a.js".toList
  · rw [(hplace (by decide)).2]
    decide

end Coverage.FilePath
