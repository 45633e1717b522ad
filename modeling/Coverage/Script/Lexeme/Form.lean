/-!
# Forms of lexemes

A form stands for a set of texts. What may still follow when a character has been read is again
a form, so that a text is matched from left to right without going back.

The main statement is `mem_after`: a text matches what is left of a form after a character just
if the form matches the character with the text behind it.
-/

namespace Coverage.Script

/-- A form of characters. -/
inductive Form where
  /-- No text at all. -/
  | nothing
  | empty
  | one (accepts : Char → Bool)
  | seq (first second : Form)
  | either (first second : Form)
  | many (each : Form)
  deriving Inhabited

namespace Form

/-- The texts that a form stands for. -/
inductive Matches : Form → List Char → Prop where
  | empty : Matches empty []
  | one {accepts : Char → Bool} {c : Char} : accepts c → Matches (one accepts) [c]
  | seq {p q : Form} {s t : List Char} : Matches p s → Matches q t → Matches (seq p q) (s ++ t)
  | left {p q : Form} {s : List Char} : Matches p s → Matches (either p q) s
  | right {p q : Form} {s : List Char} : Matches q s → Matches (either p q) s
  | stop {p : Form} : Matches (many p) []
  | more {p : Form} {s t : List Char} :
      Matches p s → Matches (many p) t → Matches (many p) (s ++ t)

/-- One form behind another; nothing follows what cannot be matched. -/
def andThen : Form → Form → Form
  | nothing, _ => nothing
  | empty, q => q
  | p, q => seq p q

/-- Either of two forms. -/
def orElse : Form → Form → Form
  | nothing, q => q
  | p, nothing => p
  | p, q => either p q

/-- Whether a form matches the empty text. -/
def matchesEmpty : Form → Bool
  | nothing | one _ => false
  | empty | many _ => true
  | seq p q => p.matchesEmpty && q.matchesEmpty
  | either p q => p.matchesEmpty || q.matchesEmpty

/-- What is left of a form after a character. -/
def after (c : Char) : Form → Form
  | nothing | empty => nothing
  | one accepts => if accepts c then empty else nothing
  | seq p q =>
    let r := (p.after c).andThen q
    if p.matchesEmpty then r.orElse (q.after c) else r
  | either p q => (p.after c).orElse (q.after c)
  | many p => (p.after c).andThen (many p)

/-- Whether a form is the one that matches no text. -/
def isNothing : Form → Bool
  | nothing => true
  | _ => false

/-! ## What forms stand for -/

theorem matches_andThen {p q : Form} {s : List Char} :
    Matches (p.andThen q) s ↔ Matches (seq p q) s := by
  cases p with
  | nothing =>
    constructor
    · intro h; cases h
    · intro h; cases h with | seq hp _ => cases hp
  | empty =>
    constructor
    · intro h; exact .seq (s := []) .empty h
    · intro h; cases h with | seq hp hq => cases hp; simpa [andThen] using hq
  | _ => exact Iff.rfl

theorem matches_orElse {p q : Form} {s : List Char} :
    Matches (p.orElse q) s ↔ Matches p s ∨ Matches q s := by
  have h (a b : Form) : Matches (either a b) s ↔ Matches a s ∨ Matches b s :=
    ⟨fun h => by cases h with | left h => exact .inl h | right h => exact .inr h,
      fun h => h.elim .left .right⟩
  have none : ¬ Matches nothing s := nofun
  cases p <;> cases q <;> simp [orElse, h, none]

theorem matchesEmpty_iff {p : Form} : p.matchesEmpty = true ↔ Matches p [] := by
  induction p with
  | nothing => exact ⟨nofun, nofun⟩
  | empty => exact ⟨fun _ => .empty, fun _ => rfl⟩
  | one accepts => exact ⟨nofun, nofun⟩
  | many p => exact ⟨fun _ => .stop, fun _ => rfl⟩
  | either p q hp hq =>
    simp only [matchesEmpty, Bool.or_eq_true, hp, hq]
    exact ⟨fun h => h.elim .left .right,
      fun h => by cases h with | left h => exact .inl h | right h => exact .inr h⟩
  | seq p q hp hq =>
    simp only [matchesEmpty, Bool.and_eq_true, hp, hq]
    constructor
    · intro h; exact .seq (s := []) h.1 h.2
    · intro h
      generalize ht : ([] : List Char) = t at h
      cases h with
      | seq h₁ h₂ =>
        obtain ⟨rfl, rfl⟩ := List.append_eq_nil_iff.1 ht.symm
        exact ⟨h₁, h₂⟩

/-- A text of a repetition that is not empty starts with a text of the form that is not. -/
theorem Matches.many_cons {p : Form} {c : Char} {s : List Char} (h : Matches (many p) (c :: s)) :
    ∃ u v, s = u ++ v ∧ Matches p (c :: u) ∧ Matches (many p) v := by
  generalize hm : many p = m at h
  generalize ht : c :: s = t at h
  induction h generalizing s with
  | empty | one _ | seq _ _ | left _ | right _ => cases hm
  | stop => cases ht
  | @more p' u v hu hv _ ih =>
    cases hm
    cases u with
    | nil => exact ih rfl (by simpa using ht)
    | cons d u =>
      obtain ⟨rfl, rfl⟩ := List.cons_eq_cons.1 ht
      exact ⟨u, v, rfl, hu, hv⟩

theorem mem_after {p : Form} {c : Char} {s : List Char} :
    Matches (p.after c) s ↔ Matches p (c :: s) := by
  induction p generalizing s with
  | nothing => exact ⟨nofun, nofun⟩
  | empty => exact ⟨nofun, nofun⟩
  | one accepts =>
    simp only [after]
    split
    · rename_i h
      exact ⟨fun hm => by cases hm; exact .one h, fun hm => by cases hm; exact .empty⟩
    · rename_i h
      exact ⟨nofun, fun hm => by cases hm; contradiction⟩
  | either p q hp hq =>
    simp only [after, matches_orElse, hp, hq]
    exact ⟨fun h => h.elim .left .right,
      fun h => by cases h with | left h => exact .inl h | right h => exact .inr h⟩
  | many p hp =>
    simp only [after, matches_andThen]
    constructor
    · intro h
      cases h with | seq h₁ h₂ => exact .more (hp.1 h₁) h₂
    · intro h
      obtain ⟨u, v, rfl, hu, hv⟩ := h.many_cons
      exact .seq (hp.2 hu) hv
  | seq p q hp hq =>
    have start : Matches ((p.after c).andThen q) s ↔
        ∃ u v, s = u ++ v ∧ Matches p (c :: u) ∧ Matches q v := by
      rw [matches_andThen]
      constructor
      · intro h
        cases h with | seq h₁ h₂ => exact ⟨_, _, rfl, hp.1 h₁, h₂⟩
      · rintro ⟨u, v, rfl, hu, hv⟩
        exact .seq (hp.2 hu) hv
    have split : Matches (seq p q) (c :: s) ↔
        (∃ u v, s = u ++ v ∧ Matches p (c :: u) ∧ Matches q v) ∨
          (Matches p [] ∧ Matches q (c :: s)) := by
      constructor
      · intro h
        generalize ht : c :: s = t at h
        cases h with
        | @seq _ _ u v hu hv =>
          cases u with
          | nil => cases ht; exact .inr ⟨hu, hv⟩
          | cons d u =>
            obtain ⟨rfl, rfl⟩ := List.cons_eq_cons.1 ht
            exact .inl ⟨u, v, rfl, hu, hv⟩
      · rintro (⟨u, v, rfl, hu, hv⟩ | ⟨hu, hv⟩)
        · exact .seq hu hv
        · exact .seq (s := []) hu hv
    simp only [after]
    by_cases he : p.matchesEmpty = true
    · simp only [he, if_true, matches_orElse, start, hq, split, matchesEmpty_iff.1 he, true_and]
    · have : ¬ Matches p [] := fun h => he (matchesEmpty_iff.2 h)
      simp [he, start, split, this]

/-! ## Common forms -/

/-- A character of a list. -/
def anyOf (chars : List Char) : Form := one chars.contains

/-- A character that is not in a list. -/
def noneOf (chars : List Char) : Form := one (!chars.contains ·)

/-- The forms of a list, one behind another. -/
def inTurn (ps : List Form) : Form := ps.foldr andThen empty

/-- Any of the forms of a list. -/
def oneOf (ps : List Form) : Form := ps.foldr orElse nothing

/-- The characters of a text. -/
def literal (text : String) : Form := inTurn (text.toList.map fun c => one (· = c))

/-- A form that may be left out. -/
def optional (p : Form) : Form := p.orElse empty

/-- A form at least once. -/
def manyOne (p : Form) : Form := p.andThen (many p)

/-- A form at most `n` times. -/
def upTo (p : Form) : Nat → Form
  | 0 => empty
  | n + 1 => optional (p.andThen (upTo p n))

/-- A form exactly `n` times. -/
def times (p : Form) (n : Nat) : Form := inTurn (List.replicate n p)

end Form

end Coverage.Script
