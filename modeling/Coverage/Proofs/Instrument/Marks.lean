import Coverage.Instrument.Mark
import Coverage.Proofs.Instrument.Walk

/-!
# Counters in the texts that are put into a program

A counter is told by its text: no counter's text occurs in that of another one, nor across the
border between a counter and what stands around it. So the texts of the edits that a list of marks
stands for hold each counter as often as the marks do (`occurrences_edits`), and the marks of a walk
hold it as often as the skeleton expects it (`walkProgram_counters`).
-/

namespace Coverage.Instrument

open Coverage.Script (Node)

/-! ### Occurrences -/

/-- How often a pattern, which is not empty, occurs in a text. -/
def occurrences (pattern : List Char) : List Char → Nat
  | [] => 0
  | c :: rest => (if pattern <+: c :: rest then 1 else 0) + occurrences pattern rest

/-- No occurrence starts in a part without the first character of the pattern. -/
theorem occurrences_append_of_not_mem {c : Char} {pattern u : List Char} (h : c ∉ u)
    (v : List Char) : occurrences (c :: pattern) (u ++ v) = occurrences (c :: pattern) v := by
  induction u with
  | nil => rfl
  | cons x u ih =>
    obtain ⟨hx, hu⟩ := not_or.1 (mt List.mem_cons.2 h)
    have hno : ¬ c :: pattern <+: x :: (u ++ v) :=
      fun hprefix => hx (List.cons_prefix_cons.1 hprefix).1
    rw [List.cons_append, occurrences, if_neg hno, Nat.zero_add, ih hu]

/-- Texts that end at the same separator are prefixes of each other only if they are equal. -/
theorem append_cons_prefix_iff {x : Char} {a b : List Char} (ha : x ∉ a) (hb : x ∉ b)
    (s t : List Char) : a ++ x :: s <+: b ++ x :: t ↔ a = b ∧ s <+: t := by
  induction a generalizing b with
  | nil =>
    cases b with
    | nil => simp
    | cons y b => simp [List.cons_prefix_cons, (not_or.1 (mt List.mem_cons.2 hb)).1]
  | cons z a ih =>
    obtain ⟨hz, ha⟩ := not_or.1 (mt List.mem_cons.2 ha)
    cases b with
    | nil => simp [List.cons_prefix_cons, Ne.symm hz]
    | cons y b =>
      obtain ⟨-, hb⟩ := not_or.1 (mt List.mem_cons.2 hb)
      rw [List.cons_append, List.cons_append, List.cons_prefix_cons, ih ha hb, List.cons.injEq,
        and_assoc]

/-! ### Names of accessors -/

/-- A name as `accessorName` makes them. -/
structure IsAccessor (name digits : List Char) : Prop where
  eq : name = 'c' :: 'o' :: 'v' :: '_' :: digits
  underscore : '_' ∉ digits
  bracket : '(' ∉ digits

theorem digit36_ne : ∀ n < 36, digit36 n ≠ '_' ∧ digit36 n ≠ '(' := by decide

theorem mem_digits36 {x : Char} (hx : ∀ n < 36, digit36 n ≠ x) (n : Nat) {tail : List Char}
    (htail : x ∉ tail) : x ∉ digits36 n tail := by
  induction n, tail using digits36.induct with
  | case1 n tail hn =>
    rw [digits36, if_pos hn]
    exact fun h => (List.mem_cons.1 h).elim (Ne.symm (hx n hn)) htail
  | case2 n tail hn ih =>
    rw [digits36, if_neg hn]
    refine ih fun h => (List.mem_cons.1 h).elim (Ne.symm (hx _ ?_)) htail
    exact Nat.mod_lt n (by decide)

theorem isAccessor_accessorName (path : String) :
    IsAccessor (accessorName path).toList
      (digits36 (numberOf ((Digest.sha256 (Text.encodeUtf8 path)).take 6)) []) := by
  refine ⟨?_, ?_, ?_⟩
  · rw [accessorName, String.toList_append]
    exact congrArg ("cov_".toList ++ ·) String.toList_ofList
  · exact mem_digits36 (fun n hn => (digit36_ne n hn).1) _ List.not_mem_nil
  · exact mem_digits36 (fun n hn => (digit36_ne n hn).2) _ List.not_mem_nil

/-- No accessor starts within the digits of another one. -/
theorem occurrences_digits {digits pattern v : List Char} (hunderscore : '_' ∉ digits)
    (hbracket : '(' ∉ digits) :
    occurrences ('c' :: 'o' :: 'v' :: '_' :: pattern) (digits ++ '(' :: v) =
      occurrences ('c' :: 'o' :: 'v' :: '_' :: pattern) ('(' :: v) := by
  induction digits with
  | nil => rfl
  | cons x rest ih =>
    obtain ⟨-, hunderscore⟩ := not_or.1 (mt List.mem_cons.2 hunderscore)
    obtain ⟨-, hbracket⟩ := not_or.1 (mt List.mem_cons.2 hbracket)
    have hno : ¬ 'c' :: 'o' :: 'v' :: '_' :: pattern <+: x :: (rest ++ '(' :: v) := by
      intro hprefix
      obtain ⟨-, hprefix⟩ := List.cons_prefix_cons.1 hprefix
      -- The underscore of the pattern would have to be among the next three digits.
      match rest with
      | [] => simp [List.cons_prefix_cons] at hprefix
      | [_] => simp [List.cons_prefix_cons] at hprefix
      | [_, _] => simp [List.cons_prefix_cons] at hprefix
      | _ :: _ :: z :: _ =>
        have hz : '_' = z := by
          simp only [List.cons_append, List.cons_prefix_cons] at hprefix
          exact hprefix.2.2.1
        exact hunderscore (hz ▸ .tail _ (.tail _ (.head _)))
    rw [List.cons_append, occurrences, if_neg hno, Nat.zero_add, ih hunderscore hbracket]

/-! ### Texts of counters -/

/-- The text of a counter behind the call of the accessor. -/
def Counter.place : Counter → List Char
  | .statement id => 's' :: '[' :: (Nat.toDigits 10 id.toNat ++ ']' :: "++".toList)
  | .function id => 'f' :: '[' :: (Nat.toDigits 10 id.toNat ++ ']' :: "++".toList)
  | .outcome branch index =>
    'b' :: '[' :: (Nat.toDigits 10 branch.toNat ++ ']' :: '[' ::
      (Nat.toDigits 10 index ++ ']' :: "++".toList))

theorem Counter.toList_text (accessor : String) (c : Counter) :
    (c.text accessor).toList = accessor.toList ++ '(' :: ')' :: '.' :: c.place := by
  cases c <;> simp [text, place]

theorem not_mem_toDigits {x : Char} (hx : x.isDigit = false) (n : Nat) :
    x ∉ Nat.toDigits 10 n := by
  intro hmem
  rw [Nat.isDigit_of_mem_toDigits (by decide) (by decide) hmem] at hx
  cases hx

theorem toDigits_inj {n m : Nat} : Nat.toDigits 10 n = Nat.toDigits 10 m ↔ n = m := by
  refine ⟨fun h => ?_, fun h => h ▸ rfl⟩
  rw [← Nat.ofDigitChars_ten_toDigits (n := n), h, Nat.ofDigitChars_ten_toDigits]

/-- A counter is told by its place, whatever comes behind it. -/
theorem Counter.place_prefix_iff (c d : Counter) (v : List Char) :
    c.place <+: d.place ++ v ↔ c = d := by
  have hno : ∀ n, ']' ∉ Nat.toDigits 10 n := not_mem_toDigits rfl
  cases c <;> cases d <;>
    simp [place, List.cons_prefix_cons, append_cons_prefix_iff (hno _) (hno _), toDigits_inj,
      UInt32.toNat_inj]

theorem Counter.not_mem_place (c : Counter) : 'c' ∉ c.place := by
  have hno : ∀ n, 'c' ∉ Nat.toDigits 10 n := not_mem_toDigits rfl
  cases c <;> simp [place, hno]

section Texts

variable {accessor : String} {digits : List Char}

/-- The text of a counter occurs in that of the same counter only, and there once. -/
theorem occurrences_text (h : IsAccessor accessor.toList digits) (c d : Counter) (v : List Char) :
    occurrences (c.text accessor).toList ((d.text accessor).toList ++ v) =
      [d].count c + occurrences (c.text accessor).toList v := by
  have hstart : (c.text accessor).toList <+: (d.text accessor).toList ++ v ↔ d = c := by
    rw [Counter.toList_text, Counter.toList_text, List.append_assoc, List.prefix_append_right_inj]
    simp only [List.cons_append, List.cons_prefix_cons, true_and]
    rw [Counter.place_prefix_iff, eq_comm]
  have hrest : ∀ p : List Char, occurrences ('c' :: 'o' :: 'v' :: '_' :: p)
      ('o' :: 'v' :: '_' :: (digits ++ '(' :: ')' :: '.' :: (d.place ++ v))) =
        occurrences ('c' :: 'o' :: 'v' :: '_' :: p) v := by
    intro p
    have hname : 'c' ∉ ['o', 'v', '_'] := by decide
    have hplace : 'c' ∉ '(' :: ')' :: '.' :: d.place := by simp [d.not_mem_place]
    exact (occurrences_append_of_not_mem hname _).trans
      ((occurrences_digits h.underscore h.bracket).trans (occurrences_append_of_not_mem hplace v))
  have hpattern : (c.text accessor).toList =
      'c' :: 'o' :: 'v' :: '_' :: (digits ++ '(' :: ')' :: '.' :: c.place) := by
    rw [Counter.toList_text, h.eq]
    rfl
  have htext : (d.text accessor).toList ++ v =
      'c' :: 'o' :: 'v' :: '_' :: (digits ++ '(' :: ')' :: '.' :: (d.place ++ v)) := by
    rw [Counter.toList_text, h.eq]
    simp
  rw [htext] at hstart ⊢
  rw [occurrences, hpattern, hrest, ← hpattern, List.count_singleton]
  simp [hstart]

/-- Around a counter stands nothing that the text of a counter could start in. -/
theorem occurrences_around (h : IsAccessor accessor.toList digits) (c d : Counter)
    {u : List Char} (hu : 'c' ∉ u) (v : List Char) :
    occurrences (c.text accessor).toList (u ++ ((d.text accessor).toList ++ v)) =
      [d].count c + occurrences (c.text accessor).toList v := by
  have hpattern : ∃ p, (c.text accessor).toList = 'c' :: p := by
    rw [Counter.toList_text, h.eq]
    exact ⟨_, rfl⟩
  obtain ⟨p, hp⟩ := hpattern
  rw [← occurrences_text h, hp, occurrences_append_of_not_mem hu]

/-- A text without the first character of an accessor has no counters. -/
theorem occurrences_glue (h : IsAccessor accessor.toList digits) (c : Counter) {v : List Char}
    (hv : 'c' ∉ v) : occurrences (c.text accessor).toList v = 0 := by
  rw [Counter.toList_text, h.eq, List.cons_append, ← List.append_nil v,
    occurrences_append_of_not_mem hv, occurrences]

end Texts

/-! ### Edits -/

/-- How often a counter occurs in the texts of edits. -/
def Edits.holds (accessor : String) (c : Counter) (es : Edits) : Nat :=
  (es.edits.map fun e => occurrences (c.text accessor).toList e.text.toList).sum

section Edits

variable {accessor : String} {digits : List Char}

theorem Edits.holds_add (c : Counter) (es : Edits) (start stop : Nat) (kind : EditKind)
    (text : String) :
    (es.add start stop kind text).holds accessor c =
      es.holds accessor c + occurrences (c.text accessor).toList text.toList := by
  simp [holds, add]

/-- The edits of a mark hold its counters. -/
theorem holds_addTo (h : IsAccessor accessor.toList digits) (c : Counter) (es : Edits)
    (m : Mark) :
    (m.addTo accessor es).holds accessor c = es.holds accessor c + m.counters.count c := by
  have hglue : ∀ {v : List Char}, 'c' ∉ v → occurrences (c.text accessor).toList v = 0 :=
    occurrences_glue h c
  have hone : ∀ (d : Counter) {u v : List Char}, 'c' ∉ u → 'c' ∉ v →
      occurrences (c.text accessor).toList (u ++ ((d.text accessor).toList ++ v)) =
        [d].count c := by
    intro d u v hu hv
    rw [occurrences_around h c d hu, hglue hv, Nat.add_zero]
  cases m with
  | count offset d =>
    have htext : (d.text accessor ++ ";").toList =
        [] ++ ((d.text accessor).toList ++ [';']) := by simp
    rw [Mark.addTo, Edits.openAt, Edits.holds_add, htext, hone d (by decide) (by decide)]
    rfl
  | entry offset semicolon d =>
    have htext : ((if semicolon then ";" else "") ++ d.text accessor ++ ";").toList =
        (if semicolon then [';'] else []) ++ ((d.text accessor).toList ++ [';']) := by
      cases semicolon <;> simp
    have hlead : 'c' ∉ if semicolon then [';'] else [] := by
      cases semicolon <;> decide
    rw [Mark.addTo, Edits.openAt, Edits.holds_add, htext, hone d hlead (by decide)]
    rfl
  | pair start stop d =>
    have htext : ("(" ++ d.text accessor ++ ", ").toList =
        ['('] ++ ((d.text accessor).toList ++ [',', ' ']) := by simp
    rw [Mark.addTo, Edits.pairUp, Edits.closeAt, Edits.openAt, Edits.holds_add, Edits.holds_add,
      htext, hone d (by decide) (by decide), hglue (by decide)]
    rfl
  | block start stop =>
    rw [Mark.addTo, Edits.closeAt, Edits.openAt, Edits.holds_add, Edits.holds_add,
      hglue (by decide), hglue (by decide)]
    rfl
  | body start stop f s =>
    have htext : ("\x7b" ++ (f.text accessor ++ ";" ++ s.text accessor) ++ ";return ").toList =
        ['\x7b'] ++ ((f.text accessor).toList ++
          ([';'] ++ ((s.text accessor).toList ++ ";return ".toList))) := by simp
    have hcounters : [f, s].count c = [f].count c + [s].count c := by
      rw [← List.count_append]
      rfl
    rw [Mark.addTo, Edits.closeAt, Edits.openAt, Edits.holds_add, Edits.holds_add, htext,
      occurrences_around h c f (by decide), hone s (by decide) (by decide), hglue (by decide),
      Nat.add_zero, Mark.counters, hcounters]
  | alternative offset d =>
    have htext : (" else \x7b" ++ d.text accessor ++ ";\x7d").toList =
        " else \x7b".toList ++ ((d.text accessor).toList ++ [';', '\x7d']) := by simp
    rw [Mark.addTo, Edits.closeAt, Edits.holds_add, htext, hone d (by decide) (by decide)]
    rfl

/-- The edits of a list of marks hold each counter as often as the marks do. -/
theorem holds_edits (h : IsAccessor accessor.toList digits) (c : Counter) (marks : List Mark) :
    (Mark.edits accessor marks).holds accessor c = (marks.flatMap Mark.counters).count c := by
  have hfold : ∀ es : Edits, (marks.foldl (Mark.addTo accessor) es).holds accessor c =
      es.holds accessor c + (marks.flatMap Mark.counters).count c := by
    induction marks with
    | nil => exact fun es => rfl
    | cons m rest ih =>
      intro es
      rw [List.foldl_cons, ih, holds_addTo h, List.flatMap_cons, List.count_append, Nat.add_assoc]
  rw [Mark.edits, hfold]
  exact Nat.zero_add _

end Edits

/-! ### The whole program -/

/-- The marks of a walk hold each counter as often as the skeleton expects it. -/
theorem count_walkProgram (s : Setting) (path : String) {program : Node} (h : Regular program)
    (hroom : (walkProgram s path program).1.record.HasRoom) (c : Counter) :
    ((walkProgram s path program).2.flatMap Mark.counters).count c =
      (walkProgram s path program).1.record.expected c := by
  obtain ⟨_, _, hchildren⟩ := h
  have hstart : Opens program.children [] (.statements true) ⟨.empty path, []⟩ := by
    refine .of_isFree ⟨FileRecord.Sound.empty path, fun c => ?_⟩ trivial fun _ hid => nomatch hid
    cases c <;> rfl
  have hend := (spec_walkAll s [] (.statements true) program.children hchildren
    ⟨.empty path, []⟩).2 hroom hstart
  have hperm := (List.reverse_perm ((walkAll s (.statements true) program.children).run
    ⟨.empty path, []⟩).2.marks).flatMap_right Mark.counters
  exact (hperm.count_eq c).trans (hend.balance c)

/-- The texts that a walk puts into a program count everything that the finished record has, once
each, except for skipped outcomes, and nothing else. -/
theorem countedBy_walkProgram (s : Setting) (path : String) {program : Node} (h : Regular program)
    (hroom : (walkProgram s path program).1.record.HasRoom) :
    (walkProgram s path program).1.freeze.CountedBy fun c =>
      (Mark.edits (accessorName path) (walkProgram s path program).2).holds
        (accessorName path) c := by
  refine .of_expected fun c => ?_
  rw [holds_edits (isAccessor_accessorName path), count_walkProgram s path h hroom,
    Skeleton.expected_freeze]

/-- The tree of an `if` without an alternative: the condition and what it does are expressions. -/
def plainIf : Node :=
  ⟨.program, none, 0, 8, [⟨.ifStatement, none, 0, 8,
    [⟨.token "if", none, 0, 2, []⟩, ⟨.parenthesizedExpression, some .condition, 3, 6, []⟩,
      ⟨.expressionStatement, some .consequence, 7, 8, []⟩]⟩]⟩

theorem regular_plainIf : Regular plainIf := by
  have hleaf : ∀ kind role start stop, kind ≠ .ifStatement → kind ≠ .switchCase →
      kind ≠ .switchDefault → Regular ⟨kind, role, start, stop, []⟩ := by
    intro kind role start stop hif hcase hdefault
    refine .node _ ⟨fun _ h => (nomatch h), fun h => absurd h hif, fun _ h => (nomatch h), ?_⟩
      fun _ h => (nomatch h)
    rintro (h | h)
    · exact absurd h hcase
    · exact absurd h hdefault
  refine .node _ ⟨fun _ h => (nomatch h), fun h => (nomatch h), fun _ h => (nomatch h), ?_⟩ ?_
  · rintro (h | h) <;> cases h
  intro n hn
  rw [List.mem_singleton.1 hn]
  refine .node _ ⟨fun _ h => (nomatch h), fun _ => ⟨_, rfl, rfl⟩, fun _ h => (nomatch h), ?_⟩ ?_
  · rintro (h | h) <;> cases h
  · simp only [List.mem_cons, List.not_mem_nil, or_false]
    rintro c (rfl | rfl | rfl) <;> exact hleaf _ _ _ _ nofun nofun nofun

/-- With the alternative left out by a hint, three of four counters are placed. -/
theorem countedBy_walkProgram_plainIf :
    let s : Setting := ⟨"if (a) b".toList, fun _ => some .elseArm, []⟩
    (walkProgram s "/a.js" plainIf).1.record.HasRoom ∧
      (walkProgram s "/a.js" plainIf).1.freeze.CountedBy fun c =>
        (Mark.edits (accessorName "/a.js") (walkProgram s "/a.js" plainIf).2).holds
          (accessorName "/a.js") c := by
  intro s
  have hroom : (walkProgram s "/a.js" plainIf).1.record.HasRoom := by
    constructor <;> unfold Table.HasRoom <;> decide +kernel
  exact ⟨hroom, countedBy_walkProgram s "/a.js" regular_plainIf hroom⟩

end Coverage.Instrument
