import Coverage.Location
import Coverage.SourceMap.Vlq
import Coverage.Text.Split

/-!
# The segments of a source map

The mappings of a source map are lines of the generated file with segments in them. Every field of
a segment is the difference to the same field of the segment before it; the generated column starts
anew on every line, the place in the sources does not.
-/

namespace Coverage.SourceMap

/-- A place in one of the sources of a map. -/
structure SourcePlace where
  /-- Which source, counted from zero. -/
  source : Nat
  position : Position
  deriving DecidableEq, Inhabited, Repr

/-- A place in the generated file and where it comes from, if that is known. -/
structure Segment where
  generated : Position
  place : Option SourcePlace
  deriving DecidableEq, Inhabited, Repr

/-- The place in the sources that the next segment starts from. The line counts from zero. -/
structure Running where
  source : Int
  line : Int
  column : Int
  deriving DecidableEq, Inhabited, Repr

/-- The place before the first segment. -/
def Running.start : Running := ⟨0, 0, 0⟩

/-- A running number moved on by a field; it has to stay a number of 64 bits. -/
def moved (value : Int) (delta : Int64) : Except Error Int :=
  let sum := value + delta.toInt
  if Int64.minValue.toInt ≤ sum ∧ sum ≤ Int64.maxValue.toInt then .ok sum
  else .error .positionOverflow

/-- The place that a running place stands for, with so many sources to choose from. -/
def Running.place (sourceCount : Nat) (r : Running) : Except Error SourcePlace := do
  if r.source < 0 ∨ (sourceCount : Int) ≤ r.source then throw (.missingSource r.source)
  if r.line + 1 < 0 ∨ (UInt32.size : Int) ≤ r.line + 1 then throw (.lineOutOfRange r.line)
  return ⟨r.source.toNat, ⟨UInt32.ofNat (r.line + 1).toNat, Int64.ofInt r.column⟩⟩

/-- Reads a segment on line `line` of the generated file. -/
def readSegment (sourceCount line : Nat) (running : Running) (column : Int)
    (segment : List Char) : Except Error (Segment × Running × Int) := do
  let (column, running, place) ← match ← fields segment with
    | [] => throw (.fieldCount 0)
    | first :: rest =>
      let column ← moved column first
      match rest with
      | [] => pure (column, running, none)
      | [source, line, place] | [source, line, place, _] =>
        let running : Running :=
          ⟨← moved running.source source, ← moved running.line line,
            ← moved running.column place⟩
        pure (column, running, some (← running.place sourceCount))
      | _ => throw (.fieldCount (rest.length + 1))
  if column < 0 ∨ running.line < 0 ∨ running.column < 0 then throw .negativePosition
  return (⟨⟨UInt32.ofNat line, Int64.ofInt column⟩, place⟩, running, column)

/-- Reads the segments of a line. -/
def readLine (sourceCount line : Nat) (running : Running) (column : Int) :
    List (List Char) → Except Error (List Segment × Running)
  | [] => .ok ([], running)
  | s :: rest => do
    let (segment, running, column) ← readSegment sourceCount line running column s
    let (segments, running) ← readLine sourceCount line running column rest
    return (segment :: segments, running)

/-- Reads the lines from line `line` of the generated file on. -/
def readLines (sourceCount line : Nat) (running : Running) :
    List (List Char) → Except Error (List Segment)
  | [] => .ok []
  | l :: rest => do
    let written := (Text.splitWhere (· = ',') l).filter fun s => !s.isEmpty
    let (segments, running) ← readLine sourceCount line running 0 written
    return segments ++ (← readLines sourceCount (line + 1) running rest)

/-- The segments of a list of mappings, in the order in which they are written. -/
def readMappings (sourceCount : Nat) (mappings : String) : Except Error (List Segment) :=
  readLines sourceCount 1 .start (Text.splitWhere (· = ';') mappings.toList)

end Coverage.SourceMap
