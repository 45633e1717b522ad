import Coverage.Proofs.Instrument.Edits
import Coverage.Proofs.Instrument.Registration

/-!
# Instrumenting a program twice

A program that has been instrumented is told by the registration at its start, so that
instrumenting it once more leaves it as it is. The registration gets there unless the comment that
is taken out of the program covers its place: then it is lost together with the comment, and the
program is instrumented anew (`instrumentBy_code_iff`).

How a text is read is a parameter. What is asked of a reader is said of the two texts that are
read: `LaidOut` of the program, and `ShowsRegistration` of what instrumentation made of it.
-/

namespace Coverage.Instrument

open Coverage.Script (Node)

/-! ### What a program is made into -/

/-- The comment that is taken out of a program, with the source map that it names. -/
def removed? (o : Options) (comments : List Comment) : Option (Comment × String) :=
  if o.recordSourceMapUrl then mapComment? comments else none

/-- What a program is made into by the marks of a walk through it. -/
structure Output.MadeBy (out : Output) (o : Options) (src : List Char) (path : String)
    (program : Node) (comments : List Comment) (s : Setting) : Prop where
  record : out.record = (walkProgram s path program).1.freeze
  hash : out.hash = dataHash out.record
  sourceMapUrl : out.sourceMapUrl = (removed? o comments).map (·.2)
  code : out.code.toList =
    (((Mark.edits (accessorName path) (walkProgram s path program).2).prepend
        (preamble src program).offset
        ((preamble src program).lead ++ registrationText o path out.record)).without
      (removed? o comments)).apply src

/-- What the walk through a program knows from the start. -/
def settingOf (o : Options) (src : List Char) (comments : List Comment) : Setting :=
  ⟨src, hintBefore src comments.reverse, o.ignoredMethods⟩

/-- The text of a program with the marks of the walk and the registration of a record. -/
theorem toList_instrumentProgram (o : Options) (src : List Char) (path : String)
    (sourceMap : Option Json.Value) (program : Node) (comments : List Comment) :
    let out := instrumentProgram o src path sourceMap program comments
    out.code.toList =
      (((Mark.edits (accessorName path)
          (walkProgram (settingOf o src comments) path program).2).prepend
        (preamble src program).offset
        ((preamble src program).lead ++ registrationText o path out.record)).without
      (removed? o comments)).apply src := by
  rw [instrumentProgram]
  dsimp only
  generalize hremoved : (if o.recordSourceMapUrl then mapComment? comments else none) = removed
  have hremoved : removed? o comments = removed := hremoved
  rw [hremoved]
  cases removed with
  | none => exact String.toList_ofList
  | some e => exact String.toList_ofList

theorem exists_madeBy (o : Options) (src : List Char) (path : String) (program : Node)
    (comments : List Comment) :
    ∃ s, (instrumentProgram o src path none program comments).MadeBy o src path program comments
      s := by
  refine ⟨settingOf o src comments, ?_, ?_, ?_, toList_instrumentProgram o src path none _ _⟩
  all_goals
    simp only [instrumentProgram, removed?]
    generalize (if o.recordSourceMapUrl then mapComment? comments else none) = removed
    cases removed <;> rfl

/-- What a program without faults that is laid out in order is made into can be read back, and its
marks are behind the registration. -/
theorem Output.MadeBy.written {out : Output} {o : Options} {src : List Char} {path : String}
    {program : Node} {comments : List Comment} {s : Setting}
    (h : out.MadeBy o src path program comments s) (hpath : path ≠ "")
    (hlaid : LaidOut src program) :
    Embeddable out.record ∧
      (Mark.edits (accessorName path) (walkProgram s path program).2).Behind
        (preamble src program).offset := by
  obtain ⟨hwritten, hmarks⟩ := behind_walkProgram s path hlaid
  refine ⟨?_, Edits.behind_edits (accessorName path) hmarks⟩
  rw [h.record]
  refine ⟨?_, Skeleton.sound_freeze hwritten.sound, hwritten.exact_freeze, ?_⟩
  · have hsame : (walkProgram s path program).1.freeze.path = path := hwritten.path
    rw [hsame, Bool.eq_false_iff]
    exact fun hempty => hpath (String.isEmpty_iff.1 hempty)
  · have hnone : (walkProgram s path program).1.freeze.sourceMap = none := hwritten.sourceMap
    rw [hnone]
    exact nofun

theorem registrationText_ne_nil (lead : String) (o : Options) (path : String) (r : FileRecord) :
    (lead ++ registrationText o path r).toList ≠ [] := by
  rw [registrationText, registration]
  split <;> simp

/-- A program that no comment is taken out of becomes longer. -/
theorem Output.MadeBy.length_lt {out : Output} {o : Options} {src : List Char} {path : String}
    {program : Node} {comments : List Comment} {s : Setting}
    (h : out.MadeBy o src path program comments s) (hurl : out.sourceMapUrl = none) :
    src.length < out.code.toList.length := by
  have hremoved : removed? o comments = none := by
    rw [← Option.map_eq_none_iff, ← h.sourceMapUrl, hurl]
  rw [h.code, hremoved]
  exact Edits.length_lt_apply_prepend (Edits.insertion_edits _ _) _
    (registrationText_ne_nil _ o path out.record) src

/-! ### Two runs -/

section Runs

variable {read : List Char → Script.Program} {o : Options} {code path : String} {out : Output}

theorem instrumentBy_of_found {found : Embedded}
    (h : embedded? code.toList (read code.toList).tree = some found) (o : Options)
    (path : String) (sourceMap : Option Json.Value) :
    instrumentBy read o code path sourceMap = .ok ⟨code, found.record, found.hash, none⟩ := by
  simp only [instrumentBy, h, pure, Except.pure]

/-- A program that is not instrumented yet has no faults. -/
theorem eq_of_instrumentBy {sourceMap : Option Json.Value}
    (hnone : embedded? code.toList (read code.toList).tree = none)
    (h : instrumentBy read o code path sourceMap = .ok out) :
    (read code.toList).fault = none ∧
      out = instrumentProgram o code.toList path sourceMap (read code.toList).tree
        (commentsOf code.toList (read code.toList).comments) := by
  simp only [instrumentBy, hnone, bind, Except.bind, pure, Except.pure] at h
  split at h
  · cases h
  · next hcheck =>
    cases h
    refine ⟨?_, rfl⟩
    cases hfault : (read code.toList).fault with
    | none => rfl
    | some fault =>
      simp only [check, problem?, hfault] at hcheck
      cases hcheck

theorem instrumentBy_of_fresh (hnone : embedded? code.toList (read code.toList).tree = none)
    (h : instrumentBy read o code path none = .ok out) :
    (read code.toList).fault = none ∧ ∃ s, out.MadeBy o code.toList path (read code.toList).tree
      (commentsOf code.toList (read code.toList).comments) s := by
  obtain ⟨hfault, rfl⟩ := eq_of_instrumentBy hnone h
  exact ⟨hfault, exists_madeBy _ _ _ _ _⟩

end Runs

/-- A registration gets into a program that has none yet, unless the comment that is taken out
covers its place. -/
def KeepsRegistration (o : Options) (src : List Char) (p : Script.Program) : Prop :=
  embedded? src p.tree = none →
    ¬ Edits.Covers (preamble src p.tree).offset (removed? o (commentsOf src p.comments))

/-- What is asked of a reader for a program and what it has been made into: it lays out the program
in order, it shows the registration where there is one behind the directives, and it finds no
coverage object where the registration was lost. -/
structure ReadsBoth (read : List Char → Script.Program) (o : Options) (code path : String)
    (out : Output) : Prop where
  laidOut : (read code.toList).fault = none → LaidOut code.toList (read code.toList).tree
  shows : ∀ rest,
    out.code.toList =
        Edits.front code.toList (preamble code.toList (read code.toList).tree).offset
            (removed? o (commentsOf code.toList (read code.toList).comments)) ++
          ((preamble code.toList (read code.toList).tree).lead ++
            registrationText o path out.record).toList ++ rest →
      ShowsRegistration out.code.toList (read out.code.toList).tree
        (registrationVariables path (dataHash out.record) (coverageData out.record) o)
  lost : ¬ KeepsRegistration o code.toList (read code.toList) →
    embedded? out.code.toList (read out.code.toList).tree = none

/-- A program that has been instrumented stays as it is, with the same record and the same hash,
exactly if its registration was kept. -/
theorem instrumentBy_code_iff {read : List Char → Script.Program} {o : Options}
    {code path : String} {out : Output} (hpath : path ≠ "")
    (h : instrumentBy read o code path none = .ok out) (hread : ReadsBoth read o code path out) :
    instrumentBy read o out.code path none = .ok { out with sourceMapUrl := none } ↔
      KeepsRegistration o code.toList (read code.toList) := by
  cases hfound : embedded? code.toList (read code.toList).tree with
  | some found =>
    have hagain := instrumentBy_of_found hfound o path none
    rw [hagain] at h
    cases h
    refine ⟨fun _ hnone => ?_, fun _ => hagain⟩
    rw [hfound] at hnone
    cases hnone
  | none =>
    obtain ⟨hfault, s, hmade⟩ := instrumentBy_of_fresh hfound h
    obtain ⟨hembeddable, hbehind⟩ := hmade.written hpath (hread.laidOut hfault)
    constructor
    · -- A registration that was lost would be put in by the second run.
      intro hsame _ hcovers
      have hlost := hread.lost fun hkeeps => hkeeps hfound hcovers
      obtain ⟨-, _, hmade'⟩ := instrumentBy_of_fresh hlost hsame
      exact Nat.lt_irrefl _ (hmade'.length_lt rfl)
    · intro hkeeps
      obtain ⟨rest, hrest⟩ := hbehind.exists_apply_without (hkeeps hfound)
        ((preamble code.toList (read code.toList).tree).lead ++ registrationText o path out.record)
        code.toList
      have hshows := hread.shows rest (hmade.code.trans hrest)
      have hagain := instrumentBy_of_found (embedded?_of_shows hembeddable hshows) o path none
      rw [hagain, hmade.hash]

/-! ### One program that keeps its registration, and one that does not -/

/-- A comment of a program that is nothing but one statement, if anything. -/
def noteNode (start : Nat) : Node := ⟨.comment, none, start, start + 22, []⟩

/-- The tree of `a//# sourceMappingURL=b`. -/
def nameTree : Node :=
  ⟨.program, none, 0, 1, [⟨.expressionStatement, none, 0, 1, [⟨.identifier, none, 0, 1, []⟩,
    noteNode 1]⟩]⟩

/-- What `a//# sourceMappingURL=b` is made into. -/
def nameOutput : Output :=
  let src := "a//# sourceMappingURL=b".toList
  instrumentProgram .default src "/a.js" none nameTree (commentsOf src [noteNode 1])

/-- Reads `a//# sourceMappingURL=b` and what it is made into. -/
def readName (cs : List Char) : Script.Program :=
  if cs = "a//# sourceMappingURL=b".toList then ⟨nameTree, [noteNode 1], none⟩
  else
    let accessor := (accessorName "/a.js").toList
    let r := nameOutput.record
    let first := (registrationText .default "/a.js" r).toList
    let second := ((Counter.statement 0).text (accessorName "/a.js") ++ ";").toList
    ⟨⟨.program, none, 0, Text.byteLength cs,
      registrationNodes [] accessor (leadingVariables "/a.js" (dataHash r) (coverageData r) .default) ++
        [nodeOver .expressionStatement none first second [],
          nodeOver .expressionStatement none (first ++ second) ['a'] []]⟩, [], none⟩

/-- A comment behind an offset does not touch what stands there. -/
theorem front_of_lt (o : Options) (src : List Char) {n : Node} {offset : Nat}
    (h : offset < n.start) :
    ¬ Edits.Covers offset (removed? o (commentsOf src [n])) ∧
      Edits.front src offset (removed? o (commentsOf src [n])) = Text.takeBytes offset src := by
  have hcases : removed? o (commentsOf src [n]) = none ∨
      ∃ url, removed? o (commentsOf src [n]) = some (.ofNode src n, url) := by
    rw [removed?]
    split
    · rw [mapComment?, commentsOf]
      cases hcomment : n.isComment <;> cases hurl : (Comment.ofNode src n).mapUrl <;>
        simp [hcomment, hurl]
    · exact .inl rfl
  have hnot : ¬ n.start ≤ offset := Nat.not_le.2 h
  rcases hcases with hnone | ⟨url, hsome⟩
  · rw [hnone]
    exact ⟨id, rfl⟩
  · rw [hsome]
    exact ⟨fun hcovers => hnot hcovers.1, if_neg hnot⟩

theorem readName_code :
    readName "a//# sourceMappingURL=b".toList = ⟨nameTree, [noteNode 1], none⟩ :=
  if_pos rfl

theorem preamble_name :
    preamble "a//# sourceMappingURL=b".toList nameTree = ⟨0, ""⟩ := by decide

theorem keepsRegistration_name : KeepsRegistration .default "a//# sourceMappingURL=b".toList
    (readName "a//# sourceMappingURL=b".toList) := by
  rw [readName_code, KeepsRegistration, preamble_name]
  exact fun _ => (front_of_lt _ _ (by decide)).1

theorem laidOut_name : LaidOut "a//# sourceMappingURL=b".toList nameTree := by
  have hleaf : ∀ {n : Node}, n.children = [] → n.start < n.stop → n.stop < 2 ^ 32 → Laid n := by
    intro n hn hproper hsize
    exact .node n hproper hsize (hn ▸ nofun) (hn ▸ nofun)
  refine ⟨fun c hc => ?_, List.pairwise_singleton _ _, fun c hc rest => ?_⟩
  · rw [List.mem_singleton.1 hc]
    refine .node _ (by decide) (by decide) (fun _ _ => Nat.zero_le _) fun d hd => ?_
    simp only [List.mem_cons, List.not_mem_nil, or_false] at hd
    rcases hd with rfl | rfl <;> exact hleaf rfl (by decide) (by decide)
  · rw [List.mem_singleton.1 hc]
    simp [Text.dropBytes]

theorem readsBoth_name :
    ReadsBoth readName .default "a//# sourceMappingURL=b" "/a.js" nameOutput := by
  refine ⟨fun _ => ?_, fun rest hcode => ?_, fun h => absurd keepsRegistration_name h⟩
  · rw [readName_code]
    exact laidOut_name
  · rw [readName_code, preamble_name, (front_of_lt _ _ (by decide)).2] at hcode
    have hfirst : nameOutput.code.toList =
        [] ++ ((registrationText .default "/a.js" nameOutput.record).toList ++ rest) := by
      rw [hcode, String.empty_append]
      exact List.append_assoc [] _ rest
    have hother : nameOutput.code.toList ≠ "a//# sourceMappingURL=b".toList := by
      rw [hfirst, registrationText, toList_registration rfl]
      intro heq
      cases heq
    rw [readName, if_neg hother]
    exact shows_registrationNodes rfl rfl hfirst _ _ _

/-- The comment at the end of a program is taken out, and the registration is kept. -/
theorem instrumentBy_code_iff_name :
    instrumentBy readName .default "a//# sourceMappingURL=b" "/a.js" none = .ok nameOutput ∧
      (instrumentBy readName .default nameOutput.code "/a.js" none =
          .ok { nameOutput with sourceMapUrl := none } ↔
        KeepsRegistration .default "a//# sourceMappingURL=b".toList
          (readName "a//# sourceMappingURL=b".toList)) := by
  have hrun : instrumentBy readName .default "a//# sourceMappingURL=b" "/a.js" none =
      .ok nameOutput := by
    rw [instrumentBy, readName_code]
    rfl
  exact ⟨hrun, instrumentBy_code_iff (by decide) hrun readsBoth_name⟩

end Coverage.Instrument
