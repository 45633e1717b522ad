import Coverage.Instrument.Counter
import Coverage.Instrument.Edits

/-!
# What is put into a program

Counters go into a program as statements in front of other statements, as the first halves of
pairs whose second halves are expressions of the program, and as parts of blocks that the program
did not have.
-/

namespace Coverage.Instrument

/-- Something put into a program. The offsets are those of the program as it was. -/
inductive Mark where
  /-- A counter as a statement. -/
  | count (offset : Nat) (counter : Counter)
  /-- A counter as a statement behind directives, the last of which may lack its semicolon. -/
  | entry (offset : Nat) (semicolon : Bool) (counter : Counter)
  /-- A counter that an expression is evaluated behind. -/
  | pair (start stop : Nat) (counter : Counter)
  /-- A block around a single statement. -/
  | block (start stop : Nat)
  /-- A function body with a block around the expression that it was. -/
  | body (start stop : Nat) (function statement : Counter)
  /-- A counter as the alternative of an `if` without one. -/
  | alternative (offset : Nat) (counter : Counter)
  deriving DecidableEq, Inhabited, Repr

namespace Mark

/-- The counters of a mark. -/
def counters : Mark → List Counter
  | count _ c | entry _ _ c | pair _ _ c | alternative _ c => [c]
  | block _ _ => []
  | body _ _ f s => [f, s]

/-- Adds the edits that a mark stands for. -/
def addTo (accessor : String) (es : Edits) : Mark → Edits
  | count offset c => es.openAt offset (c.text accessor ++ ";")
  | entry offset semicolon c =>
    es.openAt offset ((if semicolon then ";" else "") ++ c.text accessor ++ ";")
  | pair start stop c => es.pairUp start stop (c.text accessor)
  | block start stop => (es.openAt start "\x7b").closeAt stop "\x7d"
  | body start stop f s =>
    let counters := f.text accessor ++ ";" ++ s.text accessor
    (es.openAt start ("\x7b" ++ counters ++ ";return ")).closeAt stop "\x7d"
  | alternative offset c => es.closeAt offset (" else \x7b" ++ c.text accessor ++ ";\x7d")

/-- The edits of a list of marks. -/
def edits (accessor : String) (marks : List Mark) : Edits :=
  marks.foldl (addTo accessor) .empty

end Mark

end Coverage.Instrument
