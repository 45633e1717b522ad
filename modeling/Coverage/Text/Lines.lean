import Coverage.Location
import Coverage.Text.Offset

/-!
# Lines and columns of byte offsets

A line ends at a line feed and nowhere else; a column counts UTF-16 units since the line began. The
position of an offset is found by walking to it from the start of the text.

An index of the offsets at which the lines start comes to the same positions: the line of an offset
by bisection, and its column as the size in UTF-16 of what stands between the start of that line and
the offset.
-/

namespace Coverage.Text

/-- Walks `offset` bytes into a text from a given line and column. An offset that lies inside a
character or past the end of the text keeps the line it reached and has column zero. -/
def walk (line column : Nat) : List Char → Nat → Nat × Nat
  | _, 0 => (line, column)
  | [], _ + 1 => (line, 0)
  | c :: cs, n + 1 =>
    if c.utf8Size ≤ n + 1 then
      if c = '\n' then walk (line + 1) 0 cs (n + 1 - c.utf8Size)
      else walk line (column + charUnits c) cs (n + 1 - c.utf8Size)
    else (line, 0)

/-- The position of a byte offset in a text. -/
def position (src : List Char) (offset : Nat) : Position :=
  let (line, column) := walk 1 0 src offset
  ⟨UInt32.ofNat line, Int64.ofNat column⟩

@[simp] theorem position_zero (src : List Char) : position src 0 = ⟨1, 0⟩ := by
  cases src <;> rfl

/-! ## An index of the lines -/

/-- The UTF-16 units of a character: one, or a pair of surrogates outside the basic plane. -/
def utf16Char (c : Char) : List UInt16 :=
  if c.val < 0x10000 then [c.val.toUInt16]
  else
    let rest := c.val - 0x10000
    [0xD800 + (rest / 0x400).toUInt16, 0xDC00 + (rest % 0x400).toUInt16]

/-- The UTF-16 units of a list of characters. -/
def utf16 (cs : List Char) : List UInt16 := cs.flatMap utf16Char

/-- The encoding has as many units as are counted. -/
@[simp] theorem length_utf16 (cs : List Char) : (utf16 cs).length = units16 cs := by
  induction cs with
  | nil => rfl
  | cons c cs ih =>
    rw [utf16, List.flatMap_cons, List.length_append, ← utf16, ih, units16_cons, charUnits, utf16Char]
    split <;> rfl

example : utf16 ['a', '😀'] = [0x61, 0xD83D, 0xDE00] := by decide

/-- The part of a text between two offsets. There is none unless both lie between characters, the
first one in front of the other. -/
def part? (start stop : Nat) (cs : List Char) : Option (List Char) :=
  if start ≤ stop ∧ byteLength (takeBytes start cs) = start ∧
      byteLength (takeBytes stop cs) = stop then some (slice start stop cs)
  else none

/-- The offsets behind the line feeds of a text that starts at an offset. -/
def feedEnds : Nat → List Char → List Nat
  | _, [] => []
  | offset, c :: cs =>
    if c = '\n' then (offset + 1) :: feedEnds (offset + c.utf8Size) cs
    else feedEnds (offset + c.utf8Size) cs

/-- How many elements a predicate holds for, found by bisection in a list at the front of which they
all stand. -/
def partitionPoint {α : Type} (p : α → Bool) (l : List α) : Nat :=
  if h : 0 < l.length then
    if p l[l.length / 2] then
      l.length / 2 + 1 + partitionPoint p (l.drop (l.length / 2 + 1))
    else partitionPoint p (l.take (l.length / 2))
  else 0
termination_by l.length
decreasing_by all_goals simp; omega

/-- A text with the offsets at which its lines start. -/
structure LineIndex where
  source : List Char
  starts : List Nat
  starts_eq : starts = 0 :: feedEnds 0 source

namespace LineIndex

/-- The index of a text. -/
def of (source : List Char) : LineIndex := ⟨source, 0 :: feedEnds 0 source, rfl⟩

/-- How many lines start no later than an offset. -/
def line (ix : LineIndex) (offset : Nat) : Nat := partitionPoint (· ≤ offset) ix.starts

/-- The offset at which a line starts. -/
def lineStart (ix : LineIndex) (line : Nat) : Nat :=
  if line = 0 then 0 else ix.starts.getD (line - 1) 0

/-- The units between the start of the line and an offset. There are none where the offset lies
inside a character or past the end of the text. -/
def column (ix : LineIndex) (offset : Nat) : Nat :=
  (part? (ix.lineStart (ix.line offset)) offset ix.source).elim 0 fun text => (utf16 text).length

/-- The position of a byte offset. -/
def position (ix : LineIndex) (offset : Nat) : Position :=
  ⟨UInt32.ofNat (max (ix.line offset) 1), Int64.ofNat (ix.column offset)⟩

end LineIndex

end Coverage.Text
