import Coverage.Proofs.Instrument.Edits
import Coverage.Proofs.Instrument.Insertions

/-!
# The brackets that the walk puts in are balanced

A mark that wraps a range adds an edit that opens something and one that closes it. The marks of a
walk nest, and an enclosing one is added before an enclosed one, so in the order in which the edits
are made no two of these brackets cross (`not_crosses`). Reading them from left to right therefore
closes each bracket when it is the last one that is open (`scan_eq`).

The main result is `edits_walkProgram`, which also says that all texts are put in at tokens.
-/

namespace Coverage.Instrument

open Coverage.Script (Node)

/-! ### Brackets -/

/-- An edit that opens something with the one that closes it. -/
structure Bracket where
  opening : Edit
  closing : Edit
  deriving DecidableEq, Inhabited

/-- An edit is made before another one. -/
def Edit.Ahead (a b : Edit) : Prop := b.before a = false

theorem Edit.ahead_iff {a b : Edit} : a.Ahead b ↔ a.start < b.start ∨ a.start = b.start ∧
    (a.kind.rank < b.kind.rank ∨ a.kind.rank = b.kind.rank ∧ a.order < b.order) := by
  rw [Edit.Ahead, ← Bool.not_eq_true, Edit.before_iff]
  omega

theorem Edit.Ahead.trans {a b c : Edit} (hab : a.Ahead b) (hbc : b.Ahead c) : a.Ahead c := by
  rw [Edit.ahead_iff] at *
  omega

theorem Edit.Ahead.irrefl (a : Edit) : ¬ a.Ahead a := by
  rw [Edit.ahead_iff]
  omega

namespace Bracket

/-- The first bracket opens before the second one and closes within it. -/
def Crosses (a b : Bracket) : Prop :=
  a.opening.Ahead b.opening ∧ b.opening.Ahead a.closing ∧ a.closing.Ahead b.closing

/-- Reads edits from left to right with the brackets that are open, the last one first: an edit that
closes a bracket has to close the last one. -/
def scan (brackets : List Bracket) : List Bracket → List Edit → Option (List Bracket)
  | opened, [] => some opened
  | opened, e :: es =>
    match brackets.find? fun b => b.opening = e with
    | some b => scan brackets (b :: opened) es
    | none =>
      match brackets.find? fun b => b.closing = e with
      | some b =>
        match opened with
        | [] => none
        | top :: opened => if top = b then scan brackets opened es else none
      | none => scan brackets opened es

/-- Brackets whose edits all stand in a list, each of them closing behind its opening. -/
structure Among (es : List Edit) (brackets : List Bracket) : Prop where
  opening : ∀ b ∈ brackets, b.opening ∈ es
  closing : ∀ b ∈ brackets, b.closing ∈ es
  proper : ∀ b ∈ brackets, b.opening.Ahead b.closing
  opens : ∀ a ∈ brackets, ∀ b ∈ brackets, a.opening = b.opening → a = b
  closes : ∀ a ∈ brackets, ∀ b ∈ brackets, a.closing = b.closing → a = b
  /-- No edit opens one bracket and closes another one. -/
  kinds : ∀ a ∈ brackets, ∀ b ∈ brackets, a.opening ≠ b.closing
  apart : ∀ a ∈ brackets, ∀ b ∈ brackets, ¬ a.Crosses b

/-- What is open when some edits have been read: the brackets that have been opened there and are
closed later, the last one first. -/
structure Opened (brackets : List Bracket) (read rest : List Edit) (opened : List Bracket) :
    Prop where
  iff : ∀ b, b ∈ opened ↔ b ∈ brackets ∧ b.opening ∈ read ∧ b.closing ∈ rest
  order : opened.Pairwise fun a b => b.opening.Ahead a.opening

variable {brackets opened : List Bracket} {read rest : List Edit} {e : Edit}

theorem mem_read_of_ahead (hsorted : (read ++ e :: rest).Pairwise Edit.Ahead) {a : Edit}
    (ha : a ∈ read ++ e :: rest) (h : a.Ahead e) : a ∈ read := by
  rcases List.mem_append.1 ha with ha | ha
  · exact ha
  · have hbehind := (List.pairwise_cons.1 (List.pairwise_append.1 hsorted).2.1).1
    rcases List.mem_cons.1 ha with rfl | ha
    · exact absurd h (Edit.Ahead.irrefl _)
    · exact absurd (h.trans (hbehind a ha)) (Edit.Ahead.irrefl _)

theorem mem_rest_of_ahead (hsorted : (read ++ e :: rest).Pairwise Edit.Ahead) {a : Edit}
    (ha : a ∈ read ++ e :: rest) (h : e.Ahead a) : a ∈ rest := by
  rcases List.mem_append.1 ha with ha | ha
  · have hbefore := (List.pairwise_append.1 hsorted).2.2 a ha e List.mem_cons_self
    exact absurd (h.trans hbefore) (Edit.Ahead.irrefl _)
  · rcases List.mem_cons.1 ha with rfl | ha
    · exact absurd h (Edit.Ahead.irrefl _)
    · exact ha

section Step

variable (hin : Among (read ++ e :: rest) brackets)
  (hsorted : (read ++ e :: rest).Pairwise Edit.Ahead)
include hin hsorted

/-- An edit that opens a bracket puts it on top. -/
theorem Opened.push (h : Opened brackets read (e :: rest) opened) {b : Bracket}
    (hb : b ∈ brackets) (hopening : b.opening = e) :
    Opened brackets (read ++ [e]) rest (b :: opened) := by
  have hclosing : b.closing ∈ rest :=
    mem_rest_of_ahead hsorted (hin.closing b hb) (hopening ▸ hin.proper b hb)
  constructor
  · intro a
    rw [List.mem_cons, h.iff, List.mem_append, List.mem_singleton]
    constructor
    · rintro (rfl | ⟨ha, hread, hrest⟩)
      · exact ⟨hb, .inr hopening, hclosing⟩
      · refine ⟨ha, .inl hread, (List.mem_cons.1 hrest).resolve_left fun heq => ?_⟩
        exact hin.kinds b hb a ha (hopening.trans heq.symm)
    · rintro ⟨ha, hread | heq, hrest⟩
      · exact .inr ⟨ha, hread, List.mem_cons_of_mem e hrest⟩
      · exact .inl (hin.opens a ha b hb (heq.trans hopening.symm))
  · refine List.pairwise_cons.2 ⟨fun a ha => ?_, h.order⟩
    have hread := ((h.iff a).1 ha).2.1
    exact hopening ▸ (List.pairwise_append.1 hsorted).2.2 _ hread e List.mem_cons_self

/-- The last bracket that is open is the one that an edit closes, since brackets do not cross. -/
theorem Opened.top (h : Opened brackets read (e :: rest) opened) {b : Bracket}
    (hb : b ∈ brackets) (hclosing : b.closing = e) : ∃ others, opened = b :: others := by
  have hread : b.opening ∈ read :=
    mem_read_of_ahead hsorted (hin.opening b hb) (hclosing ▸ hin.proper b hb)
  have hmem : b ∈ opened := (h.iff b).2 ⟨hb, hread, hclosing ▸ List.mem_cons_self⟩
  cases opened with
  | nil => cases hmem
  | cons top others =>
    by_cases heq : top = b
    · exact ⟨others, heq ▸ rfl⟩
    · have hunder : b ∈ others := (List.mem_cons.1 hmem).resolve_left (Ne.symm heq)
      have hopens := (List.pairwise_cons.1 h.order).1 b hunder
      obtain ⟨htop, htopread, htoprest⟩ := (h.iff top).1 List.mem_cons_self
      have hlater : top.closing ∈ rest := (List.mem_cons.1 htoprest).resolve_left fun hsame =>
        heq (hin.closes top htop b hb (hsame.trans hclosing.symm))
      have hbefore := (List.pairwise_append.1 hsorted).2.2 _ htopread e List.mem_cons_self
      have hbehind := (List.pairwise_cons.1 (List.pairwise_append.1 hsorted).2.1).1 _ hlater
      exact absurd ⟨hopens, hclosing ▸ hbefore, hclosing ▸ hbehind⟩ (hin.apart b hb top htop)

/-- An edit that closes a bracket takes it off. -/
theorem Opened.pop {b : Bracket} (h : Opened brackets read (e :: rest) (b :: opened))
    (hb : b ∈ brackets) (hclosing : b.closing = e) :
    Opened brackets (read ++ [e]) rest opened := by
  have hclosed : b.closing ∉ rest := by
    intro hmem
    have hbehind := (List.pairwise_cons.1 (List.pairwise_append.1 hsorted).2.1).1 _ hmem
    exact Edit.Ahead.irrefl _ (hclosing ▸ hbehind)
  constructor
  · intro a
    rw [List.mem_append, List.mem_singleton]
    constructor
    · intro ha
      obtain ⟨hmem, hread, hrest⟩ := (h.iff a).1 (List.mem_cons_of_mem b ha)
      refine ⟨hmem, .inl hread, (List.mem_cons.1 hrest).resolve_left fun heq => ?_⟩
      have hsame := hin.closes a hmem b hb (heq.trans hclosing.symm)
      have hopens := (List.pairwise_cons.1 h.order).1 a ha
      exact Edit.Ahead.irrefl _ (hsame ▸ hopens)
    · rintro ⟨hmem, hread | heq, hrest⟩
      · have ha := (h.iff a).2 ⟨hmem, hread, List.mem_cons_of_mem e hrest⟩
        refine (List.mem_cons.1 ha).resolve_left fun heq => ?_
        exact hclosed (heq ▸ hrest)
      · exact absurd (heq.trans hclosing.symm) (hin.kinds a hmem b hb)
  · exact (List.pairwise_cons.1 h.order).2

end Step

/-- An edit that is not of a bracket leaves open what is. -/
theorem Opened.skip (h : Opened brackets read (e :: rest) opened)
    (hopening : ∀ b ∈ brackets, b.opening ≠ e) (hclosing : ∀ b ∈ brackets, b.closing ≠ e) :
    Opened brackets (read ++ [e]) rest opened := by
  refine ⟨fun a => ?_, h.order⟩
  rw [h.iff, List.mem_append, List.mem_singleton, List.mem_cons]
  constructor
  · rintro ⟨ha, hread, hrest⟩
    exact ⟨ha, .inl hread, hrest.resolve_left (hclosing a ha)⟩
  · rintro ⟨ha, hread, hrest⟩
    exact ⟨ha, hread.resolve_right (hopening a ha), .inr hrest⟩

/-- Of brackets that do not cross each is closed when it is the last one that is open, and none is
left open. -/
theorem scan_eq_of_opened (hin : Among (read ++ rest) brackets)
    (hsorted : (read ++ rest).Pairwise Edit.Ahead) (h : Opened brackets read rest opened) :
    scan brackets opened rest = some [] := by
  induction rest generalizing read opened with
  | nil =>
    have hnil : opened = [] := List.eq_nil_iff_forall_not_mem.2 fun b hb =>
      List.not_mem_nil ((h.iff b).1 hb).2.2
    rw [scan, hnil]
  | cons e rest ih =>
    have hin' : Among (read ++ [e] ++ rest) brackets := by rwa [List.append_assoc]
    have hsorted' : (read ++ [e] ++ rest).Pairwise Edit.Ahead := by rwa [List.append_assoc]
    rw [scan]
    split
    · next b heq =>
      have hopening : b.opening = e := by simpa using List.find?_some heq
      exact ih hin' hsorted' (h.push hin hsorted (List.mem_of_find?_eq_some heq) hopening)
    · next hopening =>
      split
      · next b heq =>
        have hclosing : b.closing = e := by simpa using List.find?_some heq
        have hb := List.mem_of_find?_eq_some heq
        obtain ⟨others, rfl⟩ := h.top hin hsorted hb hclosing
        dsimp only
        rw [if_pos rfl]
        exact ih hin' hsorted' (h.pop hin hsorted hb hclosing)
      · next hclosing =>
        have hskip := h.skip (by simpa using List.find?_eq_none.1 hopening)
          (by simpa using List.find?_eq_none.1 hclosing)
        exact ih hin' hsorted' hskip

/-- Brackets that do not cross are closed in turn. -/
theorem scan_eq {es : List Edit} (hin : Among es brackets) (hsorted : es.Pairwise Edit.Ahead) :
    scan brackets [] es = some [] := by
  have hopened : Opened brackets [] es [] := by
    refine ⟨fun b => ?_, .nil⟩
    simp
  exact scan_eq_of_opened (show Among ([] ++ es) brackets from hin) hsorted hopened

end Bracket

/-! ### The edits of marks -/

namespace Mark

/-- The edits that a mark stands for from a turn on. -/
def editsFrom (accessor : String) (turn : Nat) (m : Mark) : List Edit :=
  (m.addTo accessor ⟨[], turn⟩).edits

/-- The edits that marks stand for from a turn on. -/
def allEditsFrom (accessor : String) : Nat → List Mark → List Edit
  | _, [] => []
  | turn, m :: rest =>
    m.editsFrom accessor turn ++
      allEditsFrom accessor (turn + (m.editsFrom accessor turn).length) rest

/-- The bracket that a mark adds: marks that wrap a range open and close something. -/
def bracket? (accessor : String) (turn : Nat) (m : Mark) : Option Bracket :=
  match m.editsFrom accessor turn with
  | [opening, closing] => some ⟨opening, closing⟩
  | _ => none

/-- The brackets that marks add from a turn on. -/
def bracketsFrom (accessor : String) : Nat → List Mark → List Bracket
  | _, [] => []
  | turn, m :: rest =>
    (m.bracket? accessor turn).toList ++
      bracketsFrom accessor (turn + (m.editsFrom accessor turn).length) rest

/-- The brackets of a list of marks. -/
def brackets (accessor : String) (marks : List Mark) : List Bracket := bracketsFrom accessor 1 marks

variable {accessor : String} {m : Mark} {marks : List Mark} {turn : Nat} {e : Edit} {b : Bracket}

theorem addTo_eq (accessor : String) (es : Edits) (m : Mark) :
    m.addTo accessor es = ⟨es.edits ++ m.editsFrom accessor es.turn,
      es.turn + (m.editsFrom accessor es.turn).length⟩ := by
  cases m <;>
    simp [addTo, editsFrom, Edits.pairUp, Edits.openAt, Edits.closeAt, Edits.add]

theorem edits_eq (accessor : String) (marks : List Mark) :
    (edits accessor marks).edits = allEditsFrom accessor 1 marks := by
  have hrun : ∀ es : Edits, (marks.foldl (addTo accessor) es).edits =
      es.edits ++ allEditsFrom accessor es.turn marks := by
    induction marks with
    | nil => exact fun es => (List.append_nil es.edits).symm
    | cons m rest ih =>
      intro es
      rw [List.foldl_cons, ih, addTo_eq, List.append_assoc, allEditsFrom]
  exact hrun .empty

/-- An edit of a mark puts a text in at one of the places of the mark, at a turn of its own. -/
theorem mem_editsFrom (h : e ∈ m.editsFrom accessor turn) :
    e.start ∈ m.offsets ∧ turn ≤ e.turn ∧ e.turn < turn + (m.editsFrom accessor turn).length := by
  cases m <;>
    simp only [editsFrom, addTo, Edits.pairUp, Edits.openAt, Edits.closeAt, Edits.add,
      List.nil_append, List.cons_append, List.mem_cons, List.not_mem_nil, or_false,
      List.length_cons, List.length_nil] at h ⊢
  case count | entry | alternative =>
    subst h
    simp [offsets]
  all_goals rcases h with rfl | rfl <;> simp [offsets]

theorem turns_editsFrom (accessor : String) (turn : Nat) (m : Mark) :
    (m.editsFrom accessor turn).Pairwise fun a b => a.turn < b.turn := by
  cases m <;>
    simp [editsFrom, addTo, Edits.pairUp, Edits.openAt, Edits.closeAt, Edits.add]

/-- An edit of a list of marks is one of a mark, at a later turn. -/
theorem mem_allEditsFrom (h : e ∈ allEditsFrom accessor turn marks) :
    turn ≤ e.turn ∧ ∃ m ∈ marks, e.start ∈ m.offsets := by
  induction marks generalizing turn with
  | nil => cases h
  | cons m rest ih =>
    rcases List.mem_append.1 h with h | h
    · obtain ⟨hoffset, hturn, -⟩ := mem_editsFrom h
      exact ⟨hturn, m, List.mem_cons_self, hoffset⟩
    · obtain ⟨hturn, m', hm', hoffset⟩ := ih h
      exact ⟨Nat.le_trans (Nat.le_add_right _ _) hturn, m', List.mem_cons_of_mem m hm', hoffset⟩

theorem turns_allEditsFrom (accessor : String) (turn : Nat) (marks : List Mark) :
    (allEditsFrom accessor turn marks).Pairwise fun a b => a.turn < b.turn := by
  induction marks generalizing turn with
  | nil => exact .nil
  | cons m rest ih =>
    refine List.pairwise_append.2 ⟨turns_editsFrom accessor turn m, ih _, fun a ha b hb => ?_⟩
    exact Nat.lt_of_lt_of_le (mem_editsFrom ha).2.2 (mem_allEditsFrom hb).1

end Mark

/-! ### Brackets of marks -/

namespace Bracket

/-- A bracket opens at a turn and closes at the next one, around a range. -/
structure Made (turn : Nat) (range : Nat × Nat) (b : Bracket) : Prop where
  openingKind : b.opening.kind = .opening
  closingKind : b.closing.kind = .closing
  start : b.opening.start = range.1
  stop : b.closing.start = range.2
  openingTurn : b.opening.turn = turn
  closingTurn : b.closing.turn = turn + 1

variable {a b : Bracket} {t u : Nat} {r r' : Nat × Nat}

theorem Made.ahead (ha : Made t r a) (hproper : r.1 < r.2) : a.opening.Ahead a.closing := by
  rw [Edit.ahead_iff, ha.start, ha.stop]
  exact .inl hproper

/-- Brackets around ranges that are nested or apart do not cross if the one that may enclose the
other one is added first. -/
theorem not_crosses (ha : Made t r a) (hb : Made u r' b) (hr : r.1 < r.2) (hr' : r'.1 < r'.2)
    (hturn : t + 1 < u) (h : (r.1 ≤ r'.1 ∧ r'.2 ≤ r.2) ∨ r.2 ≤ r'.1 ∨ r'.2 ≤ r.1) :
    ¬ a.Crosses b ∧ ¬ b.Crosses a := by
  have horder : ∀ e : Edit, e.kind = .opening → e.order = e.turn := by
    intro e he
    rw [Edit.order, he]
  have horder' : ∀ e : Edit, e.kind = .closing → e.order = -(e.turn : Int) := by
    intro e he
    rw [Edit.order, he]
  simp only [Crosses, Edit.ahead_iff, ha.openingKind, ha.closingKind, hb.openingKind,
    hb.closingKind, ha.start, ha.stop, hb.start, hb.stop, horder _ ha.openingKind,
    horder _ hb.openingKind, horder' _ ha.closingKind, horder' _ hb.closingKind, ha.openingTurn,
    ha.closingTurn, hb.openingTurn, hb.closingTurn, EditKind.rank]
  constructor <;> omega

end Bracket

namespace Mark

open Coverage.Instrument.Bracket (Made)

variable {accessor : String} {m : Mark} {marks : List Mark} {turn : Nat} {b : Bracket}

/-- The bracket of a mark is around its range. -/
theorem bracket?_eq_some (h : m.bracket? accessor turn = some b) :
    m.editsFrom accessor turn = [b.opening, b.closing] ∧ ∃ r, m.range? = some r ∧ Made turn r b := by
  cases m <;>
    simp only [bracket?, editsFrom, addTo, Edits.pairUp, Edits.openAt, Edits.closeAt, Edits.add,
      List.nil_append, List.cons_append, Option.some.injEq, reduceCtorEq] at h
  all_goals
    subst h
    exact ⟨rfl, _, rfl, rfl, rfl, rfl, rfl, rfl, rfl⟩

/-- Brackets of a list of marks are brackets of its marks, and their edits are edits of the list. -/
theorem mem_bracketsFrom (h : b ∈ bracketsFrom accessor turn marks) :
    (b.opening ∈ allEditsFrom accessor turn marks ∧ b.closing ∈ allEditsFrom accessor turn marks) ∧
      ∃ m ∈ marks, ∃ r, m.range? = some r ∧ ∃ t, turn ≤ t ∧ Made t r b := by
  induction marks generalizing turn with
  | nil => cases h
  | cons m rest ih =>
    rcases List.mem_append.1 h with h | h
    · obtain ⟨hedits, r, hr, hmade⟩ := bracket?_eq_some (Option.mem_toList.1 h)
      refine ⟨?_, m, List.mem_cons_self, r, hr, turn, Nat.le_refl turn, hmade⟩
      rw [allEditsFrom, hedits]
      simp
    · obtain ⟨⟨hopening, hclosing⟩, m', hm', r, hr, t, hturn, hmade⟩ := ih h
      refine ⟨⟨List.mem_append_right _ hopening, List.mem_append_right _ hclosing⟩, m',
        List.mem_cons_of_mem m hm', r, hr, t, Nat.le_trans (Nat.le_add_right _ _) hturn, hmade⟩

variable {tree : Node} {low high : Nat}

/-- The brackets of marks that nest do not cross. -/
theorem apart_bracketsFrom (h : Nest tree low high marks) :
    (bracketsFrom accessor turn marks).Pairwise fun a b =>
      a.closing.turn < b.opening.turn ∧ ¬ a.Crosses b ∧ ¬ b.Crosses a := by
  induction marks generalizing turn with
  | nil => exact .nil
  | cons m rest ih =>
    have hrest : Nest tree low high rest := ⟨fun m hm => h.tokens m (List.mem_cons_of_mem _ hm),
      fun m hm => h.range m (List.mem_cons_of_mem _ hm), (List.pairwise_cons.1 h.nested).2⟩
    refine List.pairwise_append.2 ⟨?_, ih hrest, fun a ha b hb => ?_⟩
    · cases m.bracket? accessor turn with
      | none => exact .nil
      | some b => exact List.pairwise_singleton _ _
    · obtain ⟨hedits, r, hr, ha⟩ := bracket?_eq_some (Option.mem_toList.1 ha)
      obtain ⟨-, m', hm', r', hr', t, hturn, hb⟩ := mem_bracketsFrom hb
      rw [hedits] at hturn
      have hlater : turn + 1 < t := hturn
      refine ⟨by rw [ha.closingTurn, hb.openingTurn]; exact hlater, ?_⟩
      have hencloses := (List.pairwise_cons.1 h.nested).1 m' hm' r r' hr hr'
      exact Bracket.not_crosses ha hb (h.range m List.mem_cons_self r hr).2.1
        (hrest.range m' hm' r' hr').2.1 hlater hencloses

/-- The edits of marks in the order in which they are made. -/
def sortedEdits (accessor : String) (marks : List Mark) : List Edit :=
  (edits accessor marks).edits.mergeSort Edit.before

theorem mem_sortedEdits {e : Edit} :
    e ∈ sortedEdits accessor marks ↔ e ∈ allEditsFrom accessor 1 marks := by
  rw [← edits_eq]
  exact (List.mergeSort_perm _ _).mem_iff

theorem ahead_sortedEdits (accessor : String) (marks : List Mark) :
    (sortedEdits accessor marks).Pairwise Edit.Ahead := by
  have hsorted := Edits.sorted_mergeSort (edits accessor marks).edits
  have hturns : (edits accessor marks).edits.Pairwise fun a b => a.turn ≠ b.turn := by
    rw [edits_eq]
    exact (turns_allEditsFrom accessor 1 marks).imp Nat.ne_of_lt
  have hdistinct := ((List.mergeSort_perm (edits accessor marks).edits Edit.before).pairwise_iff
    fun h => Ne.symm h).2 hturns
  refine (hsorted.and hdistinct).imp fun {a b} ⟨hbefore, hturn⟩ => ?_
  -- Two edits that are each made no later than the other one have one turn.
  refine Bool.eq_false_iff.2 fun hback => hturn ?_
  rw [Edit.before_iff] at hbefore hback
  have hkind : a.kind = b.kind := Edit.rank_inj (by omega)
  exact Edit.turn_of_order hkind (by omega)

/-- The brackets of marks that nest have their edits among those of the marks and do not cross. -/
theorem among_brackets (accessor : String) (h : Nest tree low high marks) :
    Bracket.Among (sortedEdits accessor marks) (brackets accessor marks) := by
  have hmade : ∀ b ∈ brackets accessor marks, ∃ t r, r.1 < r.2 ∧ Made t r b := by
    intro b hb
    obtain ⟨-, m, hm, r, hr, t, -, hmade⟩ := mem_bracketsFrom hb
    exact ⟨t, r, (h.range m hm r hr).2.1, hmade⟩
  have hpairs : ∀ a ∈ brackets accessor marks, ∀ b ∈ brackets accessor marks, a = b ∨
      (a.closing.turn < b.opening.turn ∧ ¬ a.Crosses b ∧ ¬ b.Crosses a) ∨
      (b.closing.turn < a.opening.turn ∧ ¬ b.Crosses a ∧ ¬ a.Crosses b) :=
    fun a ha b hb => Node.eq_or_of_pairwise (apart_bracketsFrom h) ha hb
  have hturn : ∀ b ∈ brackets accessor marks, b.closing.turn = b.opening.turn + 1 := by
    intro b hb
    obtain ⟨t, r, -, hb⟩ := hmade b hb
    rw [hb.closingTurn, hb.openingTurn]
  have hsame : ∀ a ∈ brackets accessor marks, ∀ b ∈ brackets accessor marks,
      a.opening.turn = b.opening.turn → a = b := by
    intro a ha b hb heq
    have := hturn a ha
    have := hturn b hb
    rcases hpairs a ha b hb with hab | hab | hab
    · exact hab
    · omega
    · omega
  constructor
  · exact fun b hb => mem_sortedEdits.2 (mem_bracketsFrom hb).1.1
  · exact fun b hb => mem_sortedEdits.2 (mem_bracketsFrom hb).1.2
  · intro b hb
    obtain ⟨t, r, hproper, hb⟩ := hmade b hb
    exact hb.ahead hproper
  · exact fun a ha b hb heq => hsame a ha b hb (congrArg Edit.turn heq)
  · intro a ha b hb heq
    have hclosing := congrArg Edit.turn heq
    rw [hturn a ha, hturn b hb] at hclosing
    exact hsame a ha b hb (Nat.succ.inj hclosing)
  · intro a ha b hb heq
    obtain ⟨t, r, -, hma⟩ := hmade a ha
    obtain ⟨u, r', -, hmb⟩ := hmade b hb
    have hkind := hma.openingKind
    rw [heq, hmb.closingKind] at hkind
    cases hkind
  · intro a ha b hb hcrosses
    rcases hpairs a ha b hb with rfl | hab | hab
    · exact Edit.Ahead.irrefl _ hcrosses.1
    · exact hab.2.1 hcrosses
    · exact hab.2.2 hcrosses

end Mark

/-! ### What the walk puts in -/

/-- The walk puts all texts in at tokens of the program, and none within a token or a comment. What
it wraps is not empty, wrapped ranges are nested or apart, and the enclosing one is left first: read
from left to right, every bracket that is closed is the last one that is open, and none is left
open. -/
theorem edits_walkProgram {program : Node} (h : TidyProgram program) (hplain : PlainTree program)
    (s : Setting) (path accessor : String) :
    (∀ e ∈ (Mark.edits accessor (walkProgram s path program).2).edits, e.stop = e.start ∧
      program.AtToken e.start ∧ ∀ d : Node, d.InTree program → d.children = [] →
        ¬ (d.start < e.start ∧ e.start < d.stop)) ∧
    (∀ m ∈ (walkProgram s path program).2, ∀ r, m.range? = some r → r.1 < r.2) ∧
    (walkProgram s path program).2.Pairwise Mark.Encloses ∧
    Bracket.scan (Mark.brackets accessor (walkProgram s path program).2) []
      (Mark.sortedEdits accessor (walkProgram s path program).2) = some [] := by
  obtain ⟨high, hnest⟩ := nest_walkProgram h hplain s path
  refine ⟨fun e he => ?_, fun m hm r hr => (hnest.range m hm r hr).2.1, hnest.nested, ?_⟩
  · have hinsertion := Edits.insertion_edits accessor (walkProgram s path program).2 e he
    rw [Mark.edits_eq] at he
    obtain ⟨-, m, hm, hoffset⟩ := Mark.mem_allEditsFrom he
    have htoken := hnest.tokens m hm e.start hoffset
    exact ⟨hinsertion, htoken, fun d hd => htoken.not_within h.tidy h.ordered hd⟩
  · exact Bracket.scan_eq (Mark.among_brackets accessor hnest) (Mark.ahead_sortedEdits accessor _)

/-- `b || c;`, the statement of `if (a) b || c;`. -/
def chainStatement : Node :=
  ⟨.expressionStatement, some .consequence, 7, 14,
    [⟨.binaryExpression, none, 7, 13,
      [(Node.leaf .identifier 7 8).as .left, (Node.leaf (.token "||") 9 11).as .operator,
        (Node.leaf .identifier 12 13).as .right]⟩,
      .leaf (.token ";") 13 14]⟩

/-- `(a)`. -/
def guard : Node :=
  ⟨.parenthesizedExpression, some .condition, 3, 6,
    [.leaf (.token "(") 3 4, .leaf .identifier 4 5, .leaf (.token ")") 5 6]⟩

/-- `if (a) b || c;`. -/
def guardedChain : Node :=
  ⟨.program, none, 0, 14,
    [⟨.ifStatement, none, 0, 14, [.leaf (.token "if") 0 2, guard, chainStatement]⟩]⟩

theorem tidy_guardedChain : TidyProgram guardedChain := by
  have hguard : guard.Tidy := by
    refine .node _ ?_ ?_
    · constructor <;>
        simp [guard, Node.leaf, Node.isRemark, Node.isComment, Node.inTree_mk]
    · simp [guard, Node.leaf, Node.tidy_leaf]
  have hchain : chainStatement.Tidy := by
    refine .node _ ?_ ?_
    · constructor <;>
        simp [chainStatement, Node.leaf, Node.as, Node.isRemark, Node.isComment, Node.inTree_mk]
    · simp only [chainStatement, List.forall_mem_cons, List.not_mem_nil, false_implies, implies_true,
        and_true]
      refine ⟨.node _ ?_ ?_, Node.tidy_leaf none (by decide) (by decide)⟩
      · constructor <;>
          simp [Node.leaf, Node.as, Node.isRemark, Node.isComment, Node.inTree_mk]
      · simp [Node.leaf, Node.as, Node.tidy_leaf]
  constructor
  · intro c hc
    rw [List.mem_singleton.1 hc]
    refine .node _ ?_ ?_
    · constructor <;>
        simp [guard, chainStatement, Node.leaf, Node.as, Node.isRemark, Node.isComment,
          Node.inTree_mk]
    · simp only [List.forall_mem_cons, List.not_mem_nil, false_implies, implies_true, and_true]
      exact ⟨Node.tidy_leaf none (by decide) (by decide), hguard, hchain⟩
  · exact List.pairwise_singleton _ _
  · simp [guardedChain, Node.isRemark, Node.isComment]

theorem plain_guardedChain : PlainTree guardedChain := by
  intro n hn hkind
  simp only [guardedChain, guard, chainStatement, Node.leaf, Node.as, Node.inTree_mk, List.mem_cons,
    List.not_mem_nil, or_false, exists_eq_or_imp, exists_eq_left, false_and, exists_false] at hn
  rcases hn with rfl | rfl | rfl | (rfl | rfl | rfl | rfl) | rfl | (rfl | rfl | rfl | rfl) | rfl <;>
    simp_all

/-- The marks that the walk leaves in it. -/
def guardedMarks : List Mark :=
  (walkProgram ⟨"if (a) b || c;".toList, fun _ => none, []⟩ "/a.js" guardedChain).2

theorem edits_walkProgram_guardedChain :
    TidyProgram guardedChain ∧ PlainTree guardedChain ∧
      guardedMarks.filterMap Mark.range? = [(7, 14), (7, 8), (12, 13)] ∧
      guardedMarks.Pairwise Mark.Encloses ∧ (Mark.brackets "c" guardedMarks).length = 3 ∧
      Bracket.scan (Mark.brackets "c" guardedMarks) [] (Mark.sortedEdits "c" guardedMarks) =
        some [] := by
  have hranges : guardedMarks.filterMap Mark.range? = [(7, 14), (7, 8), (12, 13)] := by
    decide +kernel
  have hlength : (Mark.brackets "c" guardedMarks).length = 3 := by decide +kernel
  have hall := edits_walkProgram tidy_guardedChain plain_guardedChain
    ⟨"if (a) b || c;".toList, fun _ => none, []⟩ "/a.js" "c"
  exact ⟨tidy_guardedChain, plain_guardedChain, hranges, hall.2.2.1, hlength, hall.2.2.2⟩

end Coverage.Instrument
