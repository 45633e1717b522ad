/-!
# Positions and ranges in a source text

Lines count from one and columns from zero. A column is a 64-bit number whose greatest value
stands for "to the end of the line".
-/

namespace Coverage

/-- The column that stands for the end of a line, however long it is. -/
def unboundedColumn : Int64 := Int64.maxValue

/-- A place in a source text. -/
structure Position where
  /-- Counts from one. -/
  line : UInt32
  /-- Counts from zero. -/
  column : Int64
  deriving DecidableEq, Inhabited, Repr

namespace Position

/-- A position can be looked up when its line exists and its column is not negative. -/
def isValid (p : Position) : Bool := 0 < p.line && 0 ≤ p.column

/-- Positions are ordered by line, then by column. -/
def le (p q : Position) : Bool := p.line < q.line || (p.line == q.line && p.column ≤ q.column)

/-- The text of a column. -/
def columnText (column : Int64) : String :=
  if column = unboundedColumn then "Infinity" else toString column.toInt

/-- The text `line:column`. -/
def text (p : Position) : String := toString p.line.toNat ++ ":" ++ columnText p.column

end Position

/-- A range of a source text. -/
structure Location where
  start : Position
  stop : Position
  /-- Set when an ignore hint excludes the range from the totals. -/
  skip : Bool
  deriving DecidableEq, Inhabited, Repr

namespace Location

/-- A range that counts. -/
def between (start stop : Position) : Location := ⟨start, stop, false⟩

/-- The same range, excluded from the totals. -/
def skipped (l : Location) : Location := { l with skip := true }

/-- The two ends, which identify a range whether it is skipped or not. -/
def range (l : Location) : Position × Position := (l.start, l.stop)

/-- The text `start-end`. -/
def text (l : Location) : String := l.start.text ++ "-" ++ l.stop.text

@[simp] theorem range_skipped (l : Location) : l.skipped.range = l.range := rfl

end Location

end Coverage
