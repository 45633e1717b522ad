/-!
# Ranges of uncovered lines

Uncovered lines are listed as ranges. Two neighbours share a range when at most two lines separate
them and no statement starts on any of these.
-/

namespace Coverage.Report

/-- The greatest number of lines without a statement that a range may bridge. -/
def maxBridge : UInt32 := 2

/-- The lines strictly between `last` and a line that lies `gap + 1` lines behind it. -/
def linesBetween (last gap : UInt32) : List UInt32 :=
  (List.range gap.toNat).map fun i => last + 1 + UInt32.ofNat i

/-- Whether a range that ends at `last` may go on to `line`; `instrumentable` are the lines on
which a statement starts. -/
def bridges (instrumentable : List UInt32) (last line : UInt32) : Bool :=
  let gap := line - last - 1
  gap ≤ maxBridge && (linesBetween last gap).all fun l => !instrumentable.contains l

/-- Splits lines into ranges, the first of which began at `first` and has reached `last`. -/
def rangesFrom (instrumentable : List UInt32) (first last : UInt32) :
    List UInt32 → List (UInt32 × UInt32)
  | [] => [(first, last)]
  | line :: rest =>
    if bridges instrumentable last line then rangesFrom instrumentable first line rest
    else (first, last) :: rangesFrom instrumentable line line rest

/-- The ranges of an increasing list of lines. -/
def lineRanges (lines instrumentable : List UInt32) : List (UInt32 × UInt32) :=
  match lines with
  | [] => []
  | first :: rest => rangesFrom instrumentable first first rest

/-- The text of a range. -/
def rangeText (range : UInt32 × UInt32) : String :=
  if range.1 = range.2 then toString range.1.toNat
  else toString range.1.toNat ++ "-" ++ toString range.2.toNat

/-- The text of the ranges of an increasing list of lines, such as `1, 3-5, 8`. -/
def lineRangesText (lines instrumentable : List UInt32) : String :=
  ", ".intercalate ((lineRanges lines instrumentable).map rangeText)

end Coverage.Report
