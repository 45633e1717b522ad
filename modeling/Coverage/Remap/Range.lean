import Coverage.FilePath
import Coverage.SourceMap.Index

/-!
# Following a range to its source

The start of a range goes to the place that the segment at or before it names. Its end goes to
where the next token of the source starts, behind the one that holds the last character of the
range; where there is no next token on that line the range runs to the end of the line.
-/

namespace Coverage.Remap

open Coverage.SourceMap (Consumer)

/-- A range in a named source. -/
structure SourceRange where
  source : String
  range : Location
  deriving DecidableEq, Inhabited, Repr

/-- The column before `c`, where there is one below it. -/
def columnBefore (c : Int64) : Int64 := if c = Int64.minValue then c else c - 1

/-- The column behind `c`; nothing lies behind the end of a line. -/
def columnAfter (c : Int64) : Int64 := if c = unboundedColumn then c else c + 1

/-- Where a position comes from: by the segment at or before it, or else by the next one on its
line. -/
def nearestPlace? (m : Consumer) (p : Position) : Option (String × Position) :=
  (m.place? p .down).or (m.place? p .up)

/-- Where the source of the last character before `stop` ends. -/
def placeEnd? (m : Consumer) (stop : Position) : Option (String × Position) := do
  let (source, last) ← nearestPlace? m ⟨stop.line, columnBefore stop.column⟩
  let lineEnd := (source, (⟨last.line, unboundedColumn⟩ : Position))
  match m.generated? source ⟨last.line, columnAfter last.column⟩ .up with
  | none => return lineEnd
  | some next =>
    match m.place? next .down with
    | some (s, p) => return if p.line = last.line then (s, p) else lineEnd
    | none => return lineEnd

/-- The end of a range that came out empty at `start`: one column short of where the segment at
or behind its end goes to, if that is not before the start. -/
def widenedEnd? (m : Consumer) (source : String) (start stop : Position) : Option Position := do
  let (s, p) ← m.place? stop .up
  let p : Position := ⟨p.line, p.column - 1⟩
  if s = source ∧ start.le p then some p else none

/-- The range of a source that a range of the generated file `file` comes from. Both ends have to
come from one source. -/
def sourceRange? (m : Consumer) (file : String) (range : Location) : Option SourceRange := do
  if !range.start.isValid || !range.stop.isValid then none
  let (source, start) ← nearestPlace? m range.start
  let (endSource, stop) ← placeEnd? m range.stop
  if source ≠ endSource then none
  let stop := if start = stop then (widenedEnd? m source start range.stop).getD stop else stop
  return ⟨FilePath.resolve source file, ⟨start, stop, range.skip⟩⟩

end Coverage.Remap
