import Coverage.Json.Decode
import Coverage.SourceMap.Segment

/-!
# Looking up positions in a source map

An index keeps the segments of a map in two orders, by their place in the generated file and by
their place in the sources. A look-up asks for the nearest segment before or after a position.
What follows ranges to their sources needs these look-ups only, and takes them as a `Consumer`.
-/

namespace Coverage.SourceMap

open Coverage.Json (Decoder Value)
open Coverage.Json.Decoder (Record once require)

/-- A source map as its document has it. -/
structure Document where
  version : UInt32
  sourceRoot : Option String
  sources : List (Option String)
  mappings : String
  deriving DecidableEq, Inhabited, Repr

namespace Document

/-- The fields of a source map that have been read. -/
structure Fields where
  version : Option UInt32 := none
  file : Option (Option String) := none
  sourceRoot : Option (Option String) := none
  sources : Option (List (Option String)) := none
  names : Option (List String) := none
  mappings : Option String := none

/-- How a source map is read. -/
def record : Record Fields where
  name := "RawSourceMap"
  fieldNames :=
    [("version", true), ("file", false), ("sourceRoot", false), ("sources", true),
      ("names", false), ("mappings", true)]
  read
    | "version" => some fun c d s => do
      return { s with version := ← once "version" s.version Decoder.word32 c d }
    | "file" => some fun c d s => do
      return { s with file := ← once "file" s.file (Decoder.option Decoder.string) c d }
    | "sourceRoot" => some fun c d s => do
      return { s with
        sourceRoot := ← once "sourceRoot" s.sourceRoot (Decoder.option Decoder.string) c d }
    | "sources" => some fun c d s => do
      return { s with
        sources := ←
          once "sources" s.sources (Decoder.list (Decoder.option Decoder.string)) c d }
    | "names" => some fun c d s => do
      return { s with names := ← once "names" s.names (Decoder.list Decoder.string) c d }
    | "mappings" => some fun c d s => do
      return { s with mappings := ← once "mappings" s.mappings Decoder.string c d }
    | _ => none

/-- Reads a source map. -/
def decode : Decoder Document := fun c d => do
  let s ← record.decode {} c d
  return {
    version := ← require "version" s.version
    sourceRoot := s.sourceRoot.join
    sources := ← require "sources" s.sources
    mappings := ← require "mappings" s.mappings }

end Document

/-- Whether a source stands below the root of a map: it is neither absolute nor a URL. -/
def isBelowRoot (source : String) : Bool :=
  !("/".toList.isPrefixOf source.toList) && !Text.occurs "://".toList source.toList

/-- The name of a source, with the root of the map in front of it where there is one. -/
def joinRoot (root : Option String) (source : String) : String :=
  match root with
  | none => source
  | some root =>
    if root.isEmpty || !isBelowRoot source then source
    else
      let trimmed := (root.toList.reverse.dropWhile (· = '/')).reverse
      String.ofList trimmed ++ "/" ++ source

/-- Which way a look-up goes when no segment fits exactly. -/
inductive Bias where
  /-- To the nearest segment before the position. -/
  | down
  /-- To the nearest segment behind the position. -/
  | up
  deriving DecidableEq, Inhabited, Repr

/-- Places in the sources are ordered by source, then by position. -/
def SourcePlace.le (a b : SourcePlace) : Bool :=
  a.source < b.source || (a.source == b.source && a.position.le b.position)

/-- The first of the items whose key is the greatest that is not beyond `needle`, in a list in
the order of the keys. -/
def nearestBelow {α κ : Type} [DecidableEq κ] (le : κ → κ → Bool) (key : α → κ) (needle : κ)
    (l : List α) : Option α :=
  match (l.takeWhile fun a => le (key a) needle).getLast? with
  | none => none
  | some last => l.find? fun a => key a = key last

/-- The first of the items whose key is the smallest that is not before `needle`, in a list in
the order of the keys. -/
def nearestAbove {α κ : Type} (le : κ → κ → Bool) (key : α → κ) (needle : κ) (l : List α) :
    Option α :=
  l.find? fun a => le needle (key a)

/-- The nearest item on the side that `bias` names, in a list in the order of the keys. -/
def nearest {α κ : Type} [DecidableEq κ] (bias : Bias) (le : κ → κ → Bool) (key : α → κ)
    (needle : κ) (l : List α) : Option α :=
  match bias with
  | .down => nearestBelow le key needle l
  | .up => nearestAbove le key needle l

/-- A source map that can be asked for positions. -/
structure Index where
  /-- The names of the sources. -/
  sources : List String
  /-- All segments in the order of their places in the generated file. -/
  byGenerated : List Segment
  /-- The segments with a place in the sources, in the order of those places. -/
  byPlace : List (SourcePlace × Position)
  deriving Inhabited

namespace Index

/-- The index of a list of segments. -/
def ofSegments (sources : List String) (segments : List Segment) : Index :=
  let byGenerated := segments.mergeSort fun a b => a.generated.le b.generated
  let placed := byGenerated.filterMap fun s => s.place.map fun p => (p, s.generated)
  ⟨sources, byGenerated, placed.mergeSort fun a b => a.1.le b.1⟩

/-- The index of a source map. -/
def ofMap (m : Document) : Except Error Index := do
  if m.version ≠ 3 then throw (.unsupportedVersion m.version)
  let sources := m.sources.map fun s => joinRoot m.sourceRoot (s.getD "")
  return ofSegments sources (← readMappings sources.length m.mappings)

/-- Reads a source map from a value. -/
def ofValue (v : Value) : Except Error Index := do
  ofMap (← (Decoder.ofValue Document.decode v).mapError .malformed)

/-- Reads a source map from a text. -/
def ofText (text : String) : Except Error Index := do
  ofMap (← (Decoder.ofText Document.decode text).mapError .malformed)

/-- Where a position of the generated file comes from: the name of the source and the position in
it. Only segments of the same line count. -/
def place? (m : Index) (p : Position) (bias : Bias) : Option (String × Position) :=
  if !p.isValid then none
  else do
    let s ← nearest bias Position.le Segment.generated p m.byGenerated
    if s.generated.line ≠ p.line then none
    let place ← s.place
    let source ← m.sources[place.source]?
    return (source, place.position)

/-- Where a position of a source went in the generated file. Only segments of the same source
count. -/
def generated? (m : Index) (source : String) (p : Position) (bias : Bias) : Option Position :=
  if !p.isValid then none
  else do
    let i ← m.sources.idxOf? source
    let s ← nearest bias SourcePlace.le Prod.fst ⟨i, p⟩ m.byPlace
    if s.1.source ≠ i then none
    return s.2

end Index

/-- Anything that can be asked for positions like a source map. -/
structure Consumer where
  /-- Where a position of the generated file comes from. -/
  place? : Position → Bias → Option (String × Position)
  /-- Where a position of a source went in the generated file. -/
  generated? : String → Position → Bias → Option Position

/-- The look-ups in an index. -/
def Index.consumer (m : Index) : Consumer := ⟨m.place?, m.generated?⟩

instance : Coe Index Consumer := ⟨Index.consumer⟩

end Coverage.SourceMap
