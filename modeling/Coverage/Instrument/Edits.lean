import Coverage.Text.Offset

/-!
# Edits of a source text

Texts are put into a source at byte offsets, or take the place of a range of it, all in one pass
over the source. Texts that open something and texts that close something nest: at one offset what
closes comes before what opens, openers keep the order in which they were added, and closers
reverse it. What lies within a replaced range is lost.

The main statement is `Edits.apply_empty`: without edits a source stays as it is.
-/

namespace Coverage.Instrument

/-- What an edit does at its offset, in the order in which edits of one offset are made. -/
inductive EditKind where
  | closing
  | replacing
  | opening
  deriving DecidableEq, Inhabited, Repr

/-- The place of a kind among the edits of one offset. -/
def EditKind.rank : EditKind → Nat
  | closing => 0
  | replacing => 1
  | opening => 2

/-- A text that takes the place of a range of the source, which is empty for an insertion. -/
structure Edit where
  start : Nat
  stop : Nat
  kind : EditKind
  /-- When the edit was added. -/
  turn : Nat
  text : String
  deriving DecidableEq, Inhabited, Repr

namespace Edit

/-- The place of an edit among those of its offset and kind. -/
def order (e : Edit) : Int :=
  match e.kind with
  | .closing => -(e.turn : Int)
  | _ => e.turn

/-- Whether an edit is made no later than another one. -/
def before (a b : Edit) : Bool :=
  a.start < b.start ||
    (a.start = b.start && (a.kind.rank < b.kind.rank ||
      (a.kind.rank = b.kind.rank && a.order ≤ b.order)))

/-- The offset at which the source goes on. -/
def resume (e : Edit) : Nat := max e.stop e.start

end Edit

/-- Edits in the order in which they were added. -/
structure Edits where
  edits : List Edit
  /-- The turn of the next edit; the first turn is left to what is put ahead of all others. -/
  turn : Nat
  deriving DecidableEq, Inhabited, Repr

namespace Edits

/-- No edits. -/
def empty : Edits := ⟨[], 1⟩

/-- The edits with one more. -/
def add (es : Edits) (start stop : Nat) (kind : EditKind) (text : String) : Edits :=
  ⟨es.edits ++ [⟨start, stop, kind, es.turn, text⟩], es.turn + 1⟩

/-- The edits with a text that goes before anything opened later at the same offset. -/
def openAt (es : Edits) (offset : Nat) (text : String) : Edits :=
  es.add offset offset .opening text

/-- The edits with a text that goes behind anything closed later at the same offset. -/
def closeAt (es : Edits) (offset : Nat) (text : String) : Edits :=
  es.add offset offset .closing text

/-- The edits with a text in place of a range. -/
def replace (es : Edits) (start stop : Nat) (text : String) : Edits :=
  es.add start stop .replacing text

/-- The edits with a text that goes before anything opened at the same offset. -/
def prepend (es : Edits) (offset : Nat) (text : String) : Edits :=
  { es with edits := es.edits ++ [⟨offset, offset, .opening, 0, text⟩] }

/-- The edits with a range turned into a pair in brackets, of which `first` is evaluated first. -/
def pairUp (es : Edits) (start stop : Nat) (first : String) : Edits :=
  (es.openAt start ("(" ++ first ++ ", ")).closeAt stop ")"

/-- Makes edits, which stand in order, in the part of a source that starts at offset `cursor`. -/
def splice : Nat → List Char → List Edit → List Char
  | _, rest, [] => rest
  | cursor, rest, e :: es =>
    if e.start < cursor then splice cursor rest es
    else
      Text.takeBytes (e.start - cursor) rest ++ e.text.toList ++
        splice e.resume (Text.dropBytes (e.resume - cursor) rest) es

/-- The source with all edits made. -/
def apply (es : Edits) (src : List Char) : List Char :=
  splice 0 src (es.edits.mergeSort Edit.before)

/-- Without edits a source stays as it is. -/
@[simp] theorem apply_empty (src : List Char) : empty.apply src = src := by
  simp [apply, empty, splice]

end Edits

end Coverage.Instrument
