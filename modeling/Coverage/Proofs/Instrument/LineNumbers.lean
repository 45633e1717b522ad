import Coverage.Proofs.Instrument.Clauses
import Coverage.Proofs.Instrument.Marks
import Coverage.Proofs.Instrument.Splicing
import Coverage.Proofs.Instrument.Twice
import Coverage.Proofs.Json.OneLine

/-!
# Lines that keep their numbers

Edits keep the lines of a source if the texts that they put in front of its end hold no line feed,
and neither does what they take out (`KeepsLines.lineAt_parts`).

Instrumentation is of this kind if it is compact: counters, JSON and the name of the accessor are in
one line. There is one line feed that it may put in, behind a line that names an interpreter, but
only where the program ends with that line (`spec_preamble`).
-/

namespace Coverage.Instrument

open Coverage.Text (located Boundary byteLength dropBytes slice lineAt OneLine)
open Coverage.Json (Value)
open Coverage.Script (Node prologue)

/-! ### Edits -/

/-- A character that is in none of the texts that are put in is there as often as it stays. -/
theorem Part.count_flatMap_text {x : Char} {parts : List Part}
    (h : ∀ e, .put e ∈ parts → x ∉ e.text.toList) :
    (parts.flatMap text).count x = ((parts.filterMap kept?).map Prod.snd).count x := by
  induction parts with
  | nil => rfl
  | cons p parts ih =>
    have hrest := ih fun e he => h e (List.mem_cons_of_mem p he)
    rw [List.flatMap_cons, List.count_append, hrest, List.filterMap_cons]
    cases p with
    | kept offset c => exact List.count_append.symm
    | put e =>
      dsimp only [kept?, text]
      rw [List.count_eq_zero_of_not_mem (h e List.mem_cons_self), Nat.zero_add]

/-- The number of times something is found does not depend on what else is left out. -/
theorem count_map_filter {α β : Type} [BEq β] [LawfulBEq β] {l : List α} {p : α → Bool} (f : α → β)
    {b : β} (h : ∀ a ∈ l, f a = b → p a = true) :
    ((l.filter p).map f).count b = (l.map f).count b := by
  rw [List.count_eq_countP, List.count_eq_countP, List.countP_map, List.countP_map,
    List.countP_filter]
  refine List.countP_congr fun a ha => ?_
  simp only [Function.comp_apply, Bool.and_eq_true, beq_iff_eq]
  exact ⟨(·.1), fun hb => ⟨hb, h a ha hb⟩⟩

namespace Edits

variable {es : Edits} {src : List Char}

/-- Edits that neither put line feeds in front of something nor take them out. -/
structure KeepsLines (src : List Char) (es : Edits) : Prop where
  made : es.Made
  places : ∀ e ∈ es.edits, Boundary src e.start ∧ Boundary src e.stop
  proper : ∀ r ∈ es.edits, r.kind = .replacing → r.start < r.stop
  disjoint : es.edits.Pairwise fun a b =>
    a.kind = .replacing → b.kind = .replacing → a.stop ≤ b.start ∨ b.stop ≤ a.start
  texts : ∀ e ∈ es.edits, e.start < byteLength src → OneLine e.text
  lost : ∀ r ∈ es.edits, r.kind = .replacing → '\n' ∉ slice r.start r.stop src

/-- No line feed is taken out. -/
theorem KeepsLines.not_takes (h : es.KeepsLines src) {x : Nat × Char} (hx : x ∈ located 0 src)
    (hfeed : x.2 = '\n') : ∀ r ∈ es.edits, ¬ r.Takes x.1 := by
  rintro r hr ⟨hkind, hle, hlt⟩
  obtain ⟨hstart, hstop⟩ := h.places r hr
  exact h.lost r hr hkind (hfeed ▸ Text.mem_slice_of_located hstart hstop hx hle hlt)

/-- What stays in front of a character is what stays of the characters in front of it. -/
theorem KeepsLines.kept_front (h : es.KeepsLines src) {front back : List Part} {c : Char}
    {before behind : List Char} (hsrc : src = before ++ c :: behind)
    (hparts : es.parts src = front ++ .kept (byteLength before) c :: back) :
    front.filterMap Part.kept? =
      (located 0 before).filter fun x => ∀ r ∈ es.edits, ¬ r.Takes x.1 := by
  obtain ⟨-, hkept, -⟩ := parts_spec h.made src h.places h.proper h.disjoint
  rw [hparts, List.filterMap_append, List.filterMap_cons] at hkept
  dsimp only [Part.kept?] at hkept
  have hsorted := (Text.pairwise_located 0 src).filter fun x => ∀ r ∈ es.edits, ¬ r.Takes x.1
  rw [← hkept] at hsorted
  obtain ⟨-, hback, hfront⟩ := List.pairwise_append.1 hsorted
  have hbefore : ∀ x ∈ front.filterMap Part.kept?, decide (x.1 < byteLength before) = true :=
    fun x hx => decide_eq_true (hfront x hx _ List.mem_cons_self)
  have hbehind : ∀ x ∈ (byteLength before, c) :: back.filterMap Part.kept?,
      ¬ decide (x.1 < byteLength before) = true := by
    refine List.forall_mem_cons.2 ⟨by simp, fun x hx hlt => ?_⟩
    exact Nat.lt_asymm ((List.pairwise_cons.1 hback).1 x hx) (of_decide_eq_true hlt)
  have hcut := congrArg (List.filter fun x => x.1 < byteLength before) hkept
  rw [List.filter_append, List.filter_eq_self.2 hbefore, List.filter_eq_nil_iff.2 hbehind,
    List.append_nil, List.filter_comm, hsrc, Text.filter_located_append] at hcut
  exact hcut

/-- Every character that stays is on the line that it was on. -/
theorem KeepsLines.lineAt_parts (h : es.KeepsLines src) {front back : List Part} {offset : Nat}
    {c : Char} (hparts : es.parts src = front ++ .kept offset c :: back) :
    lineAt (es.apply src) (byteLength (front.flatMap Part.text)) = lineAt src offset := by
  obtain ⟨happly, hkept, hputs, hordered, -⟩ :=
    parts_spec h.made src h.places h.proper h.disjoint
  have hmem : (offset, c) ∈ located 0 src := by
    have hstays : (offset, c) ∈ (es.parts src).filterMap Part.kept? := by
      rw [hparts, List.filterMap_append]
      exact List.mem_append_right _ List.mem_cons_self
    rw [hkept] at hstays
    exact (List.mem_filter.1 hstays).1
  obtain ⟨before, behind, hsrc, hoffset⟩ := Text.exists_of_mem_located hmem
  rw [Nat.zero_add] at hoffset
  dsimp only at hsrc hoffset
  subst hoffset
  have htexts : ∀ e, .put e ∈ front → '\n' ∉ e.text.toList := by
    intro e he
    have hin : e ∈ es.edits := by
      refine (List.mem_filter.1 (hputs.subset (List.mem_filterMap.2 ⟨Part.put e, ?_, rfl⟩))).1
      rw [hparts]
      exact List.mem_append_left _ he
    rw [hparts] at hordered
    have hle : e.resume ≤ byteLength before :=
      (List.pairwise_append.1 hordered).2.2 _ he _ List.mem_cons_self
    have hlt := (Text.mem_located hmem).2
    refine h.texts e hin ?_
    have hstart := Apart.start_le_resume e
    omega
  have hcount : (front.flatMap Part.text).count '\n' = before.count '\n' :=
    calc (front.flatMap Part.text).count '\n'
        = ((front.filterMap Part.kept?).map Prod.snd).count '\n' := Part.count_flatMap_text htexts
      _ = ((located 0 before).map Prod.snd).count '\n' := by
          rw [h.kept_front hsrc hparts]
          refine count_map_filter Prod.snd fun x hx hfeed => decide_eq_true ?_
          refine h.not_takes ?_ hfeed
          rw [hsrc, Text.located_append]
          exact List.mem_append_left _ hx
      _ = before.count '\n' := by rw [Text.map_snd_located]
  rw [happly, hparts, List.flatMap_append, Text.lineAt_append, hcount, hsrc, Text.lineAt_append]

/-- Texts that are put in, those in front of the end of the source in one line each, keep the lines
of the source. -/
theorem keepsLines_of_insertions (h : es.Made) (hkind : ∀ e ∈ es.edits, e.kind ≠ .replacing)
    (hplaces : ∀ e ∈ es.edits, Boundary src e.start)
    (htexts : ∀ e ∈ es.edits, e.start < byteLength src → OneLine e.text) : es.KeepsLines src where
  made := h
  places e he := ⟨hplaces e he, h.insertion e he (hkind e he) ▸ hplaces e he⟩
  proper r hr hreplacing := absurd hreplacing (hkind r hr)
  disjoint := List.pairwise_of_forall_mem_list fun r hr _ _ hreplacing =>
    absurd hreplacing (hkind r hr)
  texts := htexts
  lost r hr hreplacing := absurd hreplacing (hkind r hr)

/-- A range in one line can be taken out as well. -/
theorem KeepsLines.replace (h : es.KeepsLines src) (hkind : ∀ e ∈ es.edits, e.kind ≠ .replacing)
    {start stop : Nat} (hstart : Boundary src start) (hstop : Boundary src stop)
    (hproper : start < stop) (hlost : '\n' ∉ slice start stop src) :
    (es.replace start stop "").KeepsLines src where
  made := h.made.replace start stop ""
  places := List.forall_mem_append.2 ⟨h.places, List.forall_mem_singleton.2 ⟨hstart, hstop⟩⟩
  proper := List.forall_mem_append.2 ⟨h.proper, List.forall_mem_singleton.2 fun _ => hproper⟩
  disjoint := List.pairwise_append.2 ⟨h.disjoint, List.pairwise_singleton _ _,
    fun r hr _ _ hreplacing => absurd hreplacing (hkind r hr)⟩
  texts := List.forall_mem_append.2
    ⟨h.texts, List.forall_mem_singleton.2 fun _ => Text.oneLine_empty⟩
  lost := List.forall_mem_append.2 ⟨h.lost, List.forall_mem_singleton.2 fun _ => hlost⟩

end Edits

/-! ### Marks -/

theorem oneLine_accessorName (path : String) : OneLine (accessorName path) :=
  Text.oneLine_append.2 ⟨by decide, .ofList (mem_digits36 (by decide) _ List.not_mem_nil)⟩

theorem Counter.oneLine_text {accessor : String} (h : OneLine accessor) (c : Counter) :
    OneLine (c.text accessor) := by
  cases c <;> simp +decide [text, h]

namespace Mark

variable {accessor : String} {marks : List Mark}

/-- A mark puts one line in at each of its places, and takes nothing out. -/
theorem oneLine_of_mem (h : OneLine accessor) {m : Mark} {turn : Nat} {e : Edit}
    (he : e ∈ m.editsFrom accessor turn) : e.kind ≠ .replacing ∧ OneLine e.text := by
  have hcounter := Counter.oneLine_text h
  have hlead : ∀ semicolon : Bool, OneLine (if semicolon then ";" else "") := by decide
  cases m <;>
    simp only [editsFrom, addTo, Edits.pairUp, Edits.openAt, Edits.closeAt, Edits.add,
      List.nil_append, List.cons_append, List.mem_cons, List.not_mem_nil, or_false] at he
  case count | entry | alternative =>
    subst he
    simp +decide [hcounter, hlead]
  all_goals rcases he with rfl | rfl <;> simp +decide [hcounter]

theorem forall_mem_edits {P : Edit → Prop}
    (h : ∀ m ∈ marks, ∀ turn, ∀ e ∈ m.editsFrom accessor turn, P e) :
    ∀ e ∈ (edits accessor marks).edits, P e := by
  have hrun : ∀ turn, ∀ e ∈ allEditsFrom accessor turn marks, P e := by
    induction marks with
    | nil => exact fun _ => nofun
    | cons m rest ih =>
      obtain ⟨hm, hrest⟩ := List.forall_mem_cons.1 h
      exact fun turn => List.forall_mem_append.2 ⟨hm turn, ih hrest _⟩
  rw [edits_eq]
  exact hrun 1

theorem made_edits (accessor : String) (marks : List Mark) : (edits accessor marks).Made := by
  have hrun : ∀ es : Edits, es.Made → (marks.foldl (addTo accessor) es).Made := by
    induction marks with
    | nil => exact fun _ h => h
    | cons m rest ih =>
      refine fun es h => ih _ ?_
      cases m with
      | count offset c => exact h.openAt _ _
      | entry offset semicolon c => exact h.openAt _ _
      | pair start stop c => exact (h.openAt _ _).closeAt _ _
      | block start stop => exact (h.openAt _ _).closeAt _ _
      | body start stop f s => exact (h.openAt _ _).closeAt _ _
      | alternative offset c => exact h.closeAt _ _
  exact hrun .empty .empty

end Mark

/-! ### The registration -/

theorem oneLine_registration {o : Options} (hcompact : o.compact = true)
    (hglobal : o.globalScopeFunction = true ∨ OneLine o.globalScope) {accessor : String}
    (haccessor : OneLine accessor) (path hash : String) (data : Value) :
    OneLine (registration accessor path hash data o) := by
  have hscope : OneLine (globalText o) := by
    rw [globalText]
    split
    · simp +decide
    · next hfunction => exact hglobal.resolve_left hfunction
  have hlines : ∀ l ∈ registrationLines accessor path hash data o, OneLine l := by
    simp +decide [registrationLines, hcompact, hscope, haccessor]
  have hjoined : OneLine (String.join (registrationLines accessor path hash data o)) := by
    rw [OneLine, toList_join, List.mem_flatMap]
    rintro ⟨l, hl, hfeed⟩
    exact hlines l hl hfeed
  rw [registration, if_pos hcompact]
  simp +decide [hjoined, haccessor]

/-! ### What is asked of a reader -/

/-- How a node lies in a text: between characters, with its brace in front if it is a block, and up
to the end of the line if it names an interpreter. -/
structure LiesIn (src : List Char) (n : Node) : Prop where
  start : Boundary src n.start
  stop : Boundary src n.stop
  brace : n.kind = .statementBlock → (dropBytes n.start src).head? = some '\x7b'
  line : n.kind = .interpreterLine →
    dropBytes n.stop src = [] ∨ (dropBytes n.stop src).head? = some '\n'

/-- All nodes of a program that has been read lie in its text, the comments among them. -/
structure Anchored (src : List Char) (p : Script.Program) : Prop where
  lies : ∀ n : Node, n.InTree p.tree → LiesIn src n
  comments : ∀ n ∈ p.comments, n.InTree p.tree

/-- The place behind a character of one byte is a place between characters. -/
theorem boundary_succ {src : List Char} {offset : Nat} {c : Char} (h : Boundary src offset)
    (hc : (dropBytes offset src).head? = some c) (hsize : c.utf8Size = 1) :
    Boundary src (offset + 1) := by
  obtain ⟨before, behind, rfl, rfl⟩ := h
  rw [Text.dropBytes_byteLength] at hc
  obtain ⟨rest, rfl⟩ := List.head?_eq_some_iff.1 hc
  exact ⟨before ++ [c], rest, by simp, by simp [hsize]⟩

section Reader

variable {src : List Char} {p : Script.Program}

theorem Anchored.edges (h : Anchored src p) {n : Node} (hn : n.InTree p.tree) :
    Edges (fun _ offset => Boundary src offset) n where
  start := (h.lies n hn).start
  stop := (h.lies n hn).stop
  brace hkind := boundary_succ (h.lies n hn).start ((h.lies n hn).brace hkind) (by decide)
  children c hc :=
    have hstop := (h.lies c ((Node.InTree.inChild hc .self).trans hn)).stop
    ⟨hstop, hstop⟩

/-- The registration goes between characters. A line feed goes with it only at the end of the
program. -/
theorem spec_preamble (h : Anchored src p) :
    Boundary src (preamble src p.tree).offset ∧
      ((preamble src p.tree).offset < byteLength src → OneLine (preamble src p.tree).lead) := by
  have hin : ∀ c ∈ p.tree.namedChildren, c.InTree p.tree := fun c hc =>
    .inChild (List.mem_filter.1 hc).1 .self
  have hplace : Boundary src (prologue p.tree.namedChildren 0).offset :=
    @opening_prologue (fun _ offset => Boundary src offset) ⟨0, false⟩ ⟨[], src, rfl, rfl⟩ _
      fun c hc => (h.lies c (hin c hc)).stop
  rw [preamble]
  split
  · next hline =>
    obtain ⟨c, hc, hstop⟩ := List.any_eq_true.1 hline
    obtain ⟨hkind, hstop⟩ := Bool.and_eq_true_iff.1 hstop
    have hend := (h.lies c (hin c hc)).line (of_decide_eq_true hkind)
    rw [of_decide_eq_true hstop] at hend
    split
    · next rest hrest =>
      exact ⟨boundary_succ hplace (by rw [hrest]; rfl) (by decide),
        fun _ => Text.oneLine_empty⟩
    · next hother =>
      refine ⟨hplace, fun hlt => absurd hlt ?_⟩
      rcases hend with hnil | hfeed
      · obtain ⟨before, behind, hsrc, hoffset⟩ := hplace
        rw [← hoffset, hsrc, Text.dropBytes_byteLength] at hnil
        rw [← hoffset, hsrc, hnil, List.append_nil]
        exact Nat.lt_irrefl _
      · obtain ⟨rest, hrest⟩ := List.head?_eq_some_iff.1 hfeed
        exact absurd hrest (hother rest)
  · exact ⟨hplace, fun _ => .ite (by decide) (by decide)⟩

/-- The comment that is taken out is not empty, and stands between characters. -/
theorem Anchored.removed (h : Anchored src p) {o : Options} {c : Comment} {url : String}
    (hremoved : removed? o (commentsOf src p.comments) = some (c, url)) :
    (Boundary src c.start ∧ Boundary src c.stop) ∧ c.start < c.stop := by
  rw [removed?] at hremoved
  split at hremoved
  case isFalse => cases hremoved
  obtain ⟨d, hd, hurl⟩ := List.exists_of_findSome?_eq_some hremoved
  obtain ⟨url', hurl, heq⟩ := Option.map_eq_some_iff.1 hurl
  obtain ⟨rfl, -⟩ := Prod.mk.inj heq
  obtain ⟨n, hn, rfl⟩ := List.mem_map.1 (List.mem_reverse.1 hd)
  have hn := h.lies n (h.comments n (List.mem_filter.1 hn).1)
  refine ⟨⟨hn.start, hn.stop⟩, Nat.lt_of_not_le fun (hle : n.stop ≤ n.start) => ?_⟩
  -- An empty comment names no source map.
  have htext : n.text src = [] := by
    rw [Node.text, slice, Nat.sub_eq_zero_of_le hle, Text.takeBytes]
  rw [Comment.ofNode, htext] at hurl
  cases hurl

end Reader

/-! ### Programs -/

theorem at_walkProgram {ok : EditKind → Nat → Prop} (s : Setting) (path : String) {program : Node}
    (h : ∀ n : Node, n.InTree program → Edges ok n) :
    ∀ m ∈ (walkProgram s path program).2, m.At ok := by
  have hputs : Recording.Puts (·.At ok) (walkAll s (.statements true) program.children)
      (fun _ => True) :=
    puts_walkAll program.children (fun c hc _ d hd => h d (.inChild hc hd)) trivial
  refine hputs.forall_mem (p := ⟨.empty path, []⟩) ?_
  rw [List.append_nil]
  exact (List.reverse_reverse _).symm

/-- The edits that a program is instrumented by, which gets a record. There are none if it has been
instrumented before. -/
def programEdits (o : Options) (src : List Char) (path : String) (p : Script.Program)
    (r : FileRecord) : Edits :=
  if (embedded? src p.tree).isSome then .empty
  else
    let comments := commentsOf src p.comments
    let place := preamble src p.tree
    ((Mark.edits (accessorName path)
      (walkProgram (settingOf o src comments) path p.tree).2).prepend place.offset
        (place.lead ++ registrationText o path r)).without (removed? o comments)

/-- The comment that is taken out of a program, unless it has been instrumented before. -/
def stripped? (o : Options) (src : List Char) (p : Script.Program) : Option Comment :=
  if (embedded? src p.tree).isSome then none
  else (removed? o (commentsOf src p.comments)).map (·.1)

section Programs

variable {o : Options} {src : List Char} {p : Script.Program}

/-- What is put into a program keeps its lines. -/
theorem keepsLines_prepend (hcompact : o.compact = true)
    (hglobal : o.globalScopeFunction = true ∨ OneLine o.globalScope) (h : Anchored src p)
    (s : Setting) (path : String) (r : FileRecord) :
    let es := (Mark.edits (accessorName path) (walkProgram s path p.tree).2).prepend
      (preamble src p.tree).offset ((preamble src p.tree).lead ++ registrationText o path r)
    es.KeepsLines src ∧ ∀ e ∈ es.edits, e.kind ≠ .replacing := by
  intro es
  have haccessor := oneLine_accessorName path
  obtain ⟨hplace, hlead⟩ := spec_preamble h
  have hmarks := at_walkProgram s path fun n hn => h.edges hn
  have hkind : ∀ e ∈ es.edits, e.kind ≠ .replacing :=
    List.forall_mem_append.2 ⟨Mark.forall_mem_edits fun m _ turn e he =>
      (Mark.oneLine_of_mem haccessor he).1, List.forall_mem_singleton.2 nofun⟩
  have hplaces : ∀ e ∈ es.edits, Boundary src e.start :=
    List.forall_mem_append.2 ⟨Mark.forall_mem_edits fun m hm turn e he =>
      hmarks m hm _ (Mark.mem_places he), List.forall_mem_singleton.2 hplace⟩
  have htexts : ∀ e ∈ es.edits, e.start < byteLength src → OneLine e.text := by
    refine List.forall_mem_append.2 ⟨Mark.forall_mem_edits fun m _ turn e he _ =>
      (Mark.oneLine_of_mem haccessor he).2, List.forall_mem_singleton.2 fun hlt => ?_⟩
    exact Text.oneLine_append.2
      ⟨hlead hlt, oneLine_registration hcompact hglobal haccessor path _ _⟩
  exact ⟨Edits.keepsLines_of_insertions ((Mark.made_edits _ _).prepend _ _) hkind hplaces htexts,
    hkind⟩

/-- The edits of a program keep its lines, and take out what is stripped only. -/
theorem keepsLines_programEdits (hcompact : o.compact = true)
    (hglobal : o.globalScopeFunction = true ∨ OneLine o.globalScope)
    (h : embedded? src p.tree = none → Anchored src p)
    (hline : ∀ c ∈ stripped? o src p, '\n' ∉ slice c.start c.stop src) (path : String)
    (r : FileRecord) :
    (programEdits o src path p r).KeepsLines src ∧
      ∀ offset, (∀ e ∈ (programEdits o src path p r).edits, ¬ e.Takes offset) ↔
        ∀ c ∈ stripped? o src p, ¬ (c.start ≤ offset ∧ offset < c.stop) := by
  cases hfound : embedded? src p.tree with
  | some found =>
    simp only [programEdits, stripped?, hfound, Option.isSome_some, if_true]
    exact ⟨Edits.keepsLines_of_insertions .empty nofun nofun nofun,
      fun _ => ⟨fun _ => nofun, fun _ => nofun⟩⟩
  | none =>
    simp only [programEdits, stripped?, hfound, Option.isSome_none, Bool.false_eq_true,
      if_false] at hline ⊢
    obtain ⟨hkeeps, hkind⟩ := keepsLines_prepend hcompact hglobal (h hfound)
      (settingOf o src (commentsOf src p.comments)) path r
    cases hremoved : removed? o (commentsOf src p.comments) with
    | none =>
      exact ⟨hkeeps, fun _ => ⟨fun _ => nofun, fun _ e he htakes => hkind e he htakes.1⟩⟩
    | some removed =>
      obtain ⟨⟨hstart, hstop⟩, hproper⟩ := (h hfound).removed hremoved
      rw [hremoved] at hline
      refine ⟨hkeeps.replace hkind hstart hstop hproper (hline removed.1 rfl), fun offset => ?_⟩
      rw [Edits.without, Edits.replace, Edits.add, List.forall_mem_append,
        List.forall_mem_singleton]
      constructor
      · rintro ⟨-, hlast⟩ c hc hin
        cases hc
        exact hlast ⟨rfl, hin⟩
      · intro hall
        exact ⟨fun e he htakes => hkind e he htakes.1, fun htakes => hall _ rfl htakes.2⟩

end Programs

/-- A program that is instrumented compactly keeps its lines, unless a line feed stands in the
expression for the global object or in the comment that is taken out. All characters outside that
comment come out in order, and each of them is on the line that it was on. -/
theorem instrumentBy_lineAt {read : List Char → Script.Program} {o : Options}
    {code path : String} {sourceMap : Option Value} {out : Output}
    (hcompact : o.compact = true)
    (hglobal : o.globalScopeFunction = true ∨ OneLine o.globalScope)
    (h : instrumentBy read o code path sourceMap = .ok out)
    (hread : (read code.toList).fault = none → Anchored code.toList (read code.toList))
    (hline : ∀ c ∈ stripped? o code.toList (read code.toList),
      '\n' ∉ slice c.start c.stop code.toList) :
    let es := programEdits o code.toList path (read code.toList) out.record
    out.code.toList = es.apply code.toList ∧
      out.code.toList = (es.parts code.toList).flatMap Part.text ∧
      (es.parts code.toList).filterMap Part.kept? =
        (located 0 code.toList).filter (fun x => ∀ c ∈ stripped? o code.toList (read code.toList),
          ¬ (c.start ≤ x.1 ∧ x.1 < c.stop)) ∧
      ∀ front offset c back, es.parts code.toList = front ++ .kept offset c :: back →
        lineAt out.code.toList (byteLength (front.flatMap Part.text)) =
          lineAt code.toList offset := by
  intro es
  have happly : out.code.toList = es.apply code.toList := by
    cases hfound : embedded? code.toList (read code.toList).tree with
    | some found =>
      rw [instrumentBy_of_found hfound] at h
      cases h
      simp only [es, programEdits, hfound, Option.isSome_some, if_true, Edits.apply_empty]
    | none =>
      obtain ⟨-, rfl⟩ := eq_of_instrumentBy hfound h
      simp only [es, programEdits, hfound, Option.isSome_none, Bool.false_eq_true, if_false]
      exact toList_instrumentProgram o code.toList path sourceMap _ _
  obtain ⟨hkeeps, htakes⟩ := keepsLines_programEdits hcompact hglobal
    (fun hnone => hread (eq_of_instrumentBy hnone h).1) hline path out.record
  obtain ⟨hparts, hkept, -⟩ :=
    Edits.parts_spec hkeeps.made code.toList hkeeps.places hkeeps.proper hkeeps.disjoint
  refine ⟨happly, happly.trans hparts, hkept.trans ?_, fun front offset c back hsplit => ?_⟩
  · exact List.filter_congr fun x _ => decide_eq_decide.2 (htakes x.1)
  · exact happly ▸ hkeeps.lineAt_parts hsplit

/-! ### A block behind the line of an interpreter -/

def blockCode : String := "#!node\n\x7ba\n\x7d//# sourceMappingURL=b"

/-- The tree of the block, which ends in front of the comment. -/
def blockTree : Node :=
  ⟨.program, none, 0, 11, [.leaf .interpreterLine 0 6,
    ⟨.statementBlock, none, 7, 11, [.leaf (.token "\x7b") 7 8,
      ⟨.expressionStatement, none, 8, 9, [.leaf .identifier 8 9]⟩, .leaf (.token "\x7d") 10 11]⟩,
    .leaf .comment 11 33]⟩

def blockProgram : Script.Program := ⟨blockTree, [.leaf .comment 11 33], none⟩

/-- What the block is made into. -/
def blockOutput : Output :=
  instrumentProgram .default blockCode.toList "/a.js" none blockTree
    (commentsOf blockCode.toList blockProgram.comments)

theorem anchored_block : Anchored blockCode.toList blockProgram := by
  have hboundary : ∀ k < 34, Boundary blockCode.toList k := by
    intro k hk
    refine Text.boundary_of_byteLength ?_
    revert k
    decide
  have hlies : ∀ n : Node, n.start < 34 → n.stop < 34 →
      (n.kind = .statementBlock → n.start = 7) → (n.kind = .interpreterLine → n.stop = 6) →
      LiesIn blockCode.toList n := by
    intro n hstart hstop hbrace hline
    refine ⟨hboundary _ hstart, hboundary _ hstop, fun hkind => ?_, fun hkind => .inr ?_⟩
    · rw [hbrace hkind]
      decide
    · rw [hline hkind]
      decide
  constructor
  · intro n hn
    simp only [blockProgram, blockTree, Node.leaf, Node.inTree_mk, List.mem_cons, List.not_mem_nil,
      or_false, exists_eq_or_imp, exists_eq_left, false_and, exists_false] at hn
    rcases hn with rfl | rfl | (rfl | rfl | (rfl | rfl) | rfl) | rfl <;>
      exact hlies _ (by decide) (by decide) (by decide) (by decide)
  · intro n hn
    rw [List.mem_singleton.1 hn]
    exact .inChild (.tail _ (.tail _ (.head _))) .self

/-- The last brace stays on the third line, behind a registration and a counter. -/
theorem instrumentBy_lineAt_block :
    let es := programEdits .default blockCode.toList "/a.js" blockProgram blockOutput.record
    instrumentBy (fun _ => blockProgram) .default blockCode "/a.js" none = .ok blockOutput ∧
      (stripped? .default blockCode.toList blockProgram).map (fun c => (c.start, c.stop)) =
        some (11, 33) ∧
      ((es.parts blockCode.toList).filterMap Part.kept?).map Prod.snd =
        "#!node\n\x7ba\n\x7d".toList ∧
      ∀ front back, es.parts blockCode.toList = front ++ .kept 10 '\x7d' :: back →
        lineAt blockOutput.code.toList (byteLength (front.flatMap Part.text)) = 3 := by
  intro es
  have hrun : instrumentBy (fun _ => blockProgram) .default blockCode "/a.js" none =
      .ok blockOutput := by
    rw [instrumentBy]
    rfl
  have hline : ∀ c ∈ stripped? .default blockCode.toList blockProgram,
      '\n' ∉ slice c.start c.stop blockCode.toList := by decide +kernel
  obtain ⟨-, -, hkept, hlines⟩ :=
    instrumentBy_lineAt rfl (.inl rfl) hrun (fun _ => anchored_block) hline
  refine ⟨hrun, by decide +kernel, ?_, fun front back hsplit => ?_⟩
  · exact (congrArg (List.map Prod.snd) hkept).trans (by decide +kernel)
  · exact (hlines front 10 '\x7d' back hsplit).trans (by decide)

end Coverage.Instrument
