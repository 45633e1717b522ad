import Coverage.Decimal.Shortest

/-!
# Totals and percentages

A tally counts what there is to cover, what of it is covered, and what an ignore hint left out.
Its percentage is cut to hundredths in whole numbers, so that it reads 100 only where everything
is covered, and it is always made from the counts, so that the order of adding never shows.
-/

namespace Coverage

open Coverage.Decimal (Binary64)

/-- The covered share in hundredths of a percent, cut to a whole number; all of nothing is
covered. -/
def hundredths (covered total : UInt64) : Nat :=
  if total.toNat = 0 then 10000 else covered.toNat * 10000 / total.toNat

/-- The covered share in percent, with two decimal places. -/
def percent (covered total : UInt64) : Binary64 :=
  ((Binary64.ofNat (hundredths covered total)).div? (Binary64.ofNat 100)).getD .zero

/-- The counts of one group: lines, statements, functions or branches. -/
structure Tally where
  total : UInt64
  covered : UInt64
  skipped : UInt64
  deriving DecidableEq, Inhabited, Repr

namespace Tally

/-- The tally of nothing. -/
def zero : Tally := ⟨0, 0, 0⟩

/-- The counts of two tallies together. -/
def add (a b : Tally) : Tally :=
  ⟨a.total + b.total, a.covered + b.covered, a.skipped + b.skipped⟩

instance : Add Tally := ⟨add⟩

/-- The covered share in percent. -/
def percent (t : Tally) : Binary64 := Coverage.percent t.covered t.total

/-- The text `percent% (covered/total)`. -/
def text (t : Tally) : String :=
  t.percent.plainText ++ "% (" ++ toString t.covered.toNat ++ "/" ++ toString t.total.toNat ++ ")"

/-- The tally with one thing more to cover, which has so many hits or is skipped. -/
def count (t : Tally) (hits : UInt64) (skip : Bool) : Tally :=
  if skip then { t with skipped := t.skipped + 1 }
  else { t with total := t.total + 1, covered := if 0 < hits then t.covered + 1 else t.covered }

/-- The tally of a list of hits, each with whether it is skipped. -/
def ofHits (entries : List (UInt64 × Bool)) : Tally :=
  entries.foldl (fun t e => t.count e.1 e.2) zero

end Tally

/-- The four tallies of a file or of a group of files. -/
structure Summary where
  lines : Tally
  statements : Tally
  functions : Tally
  branches : Tally
  deriving DecidableEq, Inhabited, Repr

namespace Summary

/-- The summary of no files. -/
def zero : Summary := ⟨.zero, .zero, .zero, .zero⟩

/-- The summary of two groups of files together. -/
def add (a b : Summary) : Summary :=
  ⟨a.lines + b.lines, a.statements + b.statements, a.functions + b.functions,
    a.branches + b.branches⟩

instance : Add Summary := ⟨add⟩

/-- The summary of several groups of files together. -/
def sum (l : List Summary) : Summary := l.foldl (· + ·) zero

/-- Whether there is no line to cover. -/
def isEmpty (s : Summary) : Bool := s.lines.total = 0

end Summary

end Coverage
