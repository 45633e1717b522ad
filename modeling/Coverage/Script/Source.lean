/-!
# The text of a script

A script is read by the places between its characters, which are counted from zero. A place knows
the text behind it, its offset in bytes and the number of line feeds before it.
-/

namespace Coverage.Script

/-- A text with what belongs to its places. -/
structure Source where
  /-- The text behind each place. -/
  rests : Array (List Char)
  /-- The number of bytes before each place. -/
  offsets : Array Nat
  /-- The number of line feeds before each place. -/
  breaks : Array Nat
  deriving Inhabited

namespace Source

/-- Adds the places of a text behind a place. -/
def extend (s : Source) (offset breaks : Nat) : List Char → Source
  | [] => ⟨s.rests.push [], s.offsets.push offset, s.breaks.push breaks⟩
  | c :: cs =>
    extend ⟨s.rests.push (c :: cs), s.offsets.push offset, s.breaks.push breaks⟩
      (offset + c.utf8Size) (if c = '\n' then breaks + 1 else breaks) cs

/-- The places of a text. -/
def ofText (cs : List Char) : Source := extend ⟨#[], #[], #[]⟩ 0 0 cs

/-- The place behind the text. -/
def length (s : Source) : Nat := s.rests.size - 1

/-- The text behind a place. -/
def rest (s : Source) (place : Nat) : List Char := s.rests.getD place []

/-- The offset of a place in bytes. -/
def offset (s : Source) (place : Nat) : Nat := s.offsets.getD place 0

/-- The number of bytes between two places. -/
def bytes (s : Source) (start stop : Nat) : Nat := s.offset stop - s.offset start

/-- The number of line feeds between two places. -/
def lineFeeds (s : Source) (start stop : Nat) : Nat :=
  s.breaks.getD stop 0 - s.breaks.getD start 0

end Source

end Coverage.Script
