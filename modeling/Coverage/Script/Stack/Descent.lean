import Coverage.Script.Stack.Cell

/-!
# Ways down the stack

The phrases on top of the stack are found on the ways down from its top cell, of which there are
several where readings have joined. All ways are followed at once, link by link, up to a limit.
-/

namespace Coverage.Script

/-- A way down the stack. -/
structure Way where
  /-- The cell that the way has come to. -/
  cell : Nat
  /-- The phrases on the way, in the order of the text. -/
  phrases : List Phrase
  /-- How many of them may not stand anywhere; the start of a fault counts too. -/
  depth : Nat
  deriving Inhabited

namespace Way

/-- The way behind another link. -/
def along (w : Way) (l : Link) : Way :=
  match l.phrase with
  | some p => ⟨l.cell, p :: w.phrases, w.depth + if p.extra then 0 else 1⟩
  | none => ⟨l.cell, w.phrases, w.depth + 1⟩

end Way

/-- The ways down that came to a cell. -/
structure Arrival where
  cell : Nat
  /-- The phrases on each of the ways. -/
  paths : List (List Phrase)
  deriving Inhabited

/-- What is done with a way. -/
structure Verdict where
  /-- Whether the way is one that is looked for. -/
  arrives : Bool
  /-- Whether it is not followed any further. -/
  stops : Bool
  deriving Inhabited

/-- The most ways that are followed at once. -/
def mostWays : Nat := 64

/-- Adds a way to those that came to its cell. -/
def addArrival (arrivals : Array Arrival) (w : Way) : Array Arrival :=
  match arrivals.findIdx? (·.cell = w.cell) with
  | some i => arrivals.modify i fun a => { a with paths := a.paths ++ [w.phrases] }
  | none => arrivals.push ⟨w.cell, [w.phrases]⟩

/-- The ways that are followed, with what was learned on them. -/
structure Descent (σ : Type) where
  memory : σ
  arrivals : Array Arrival
  /-- The ways that go on. -/
  ongoing : Array Way
  /-- The ways that branched off. -/
  branches : Array Way

namespace Descent

variable {σ : Type}

/-- Follows one way along the links of its cell, where `others` more ways wait. The first link
carries the way on and the others branch off, as long as there are not too many. -/
def follow (cells : Cells) (others : Nat) (d : Descent σ) (w : Way) : Descent σ :=
  match (cells.cell w.cell).links with
  | [] => d
  | first :: rest =>
    let d := rest.foldl (fun d l =>
      if d.ongoing.size + 1 + others + d.branches.size < mostWays then
        { d with branches := d.branches.push (w.along l) }
      else d) d
    { d with ongoing := d.ongoing.push (w.along first) }

/-- Judges each way once and follows those that go on. -/
def round (cells : Cells) (judge : σ → Way → σ × Verdict) (d : Descent σ) :
    List Way → Descent σ
  | [] => d
  | w :: ws =>
    let (memory, verdict) := judge d.memory w
    let d := { d with
      memory
      arrivals := if verdict.arrives then addArrival d.arrivals w else d.arrivals }
    round cells judge (if verdict.stops then d else d.follow cells ws.length w) ws

/-- Follows ways for at most `fuel` rounds. -/
def run (cells : Cells) (judge : σ → Way → σ × Verdict) :
    Nat → σ → Array Arrival → List Way → σ × Array Arrival
  | 0, memory, arrivals, _ => (memory, arrivals)
  | _, memory, arrivals, [] => (memory, arrivals)
  | fuel + 1, memory, arrivals, ways =>
    let d := round cells judge ⟨memory, arrivals, #[], #[]⟩ ways
    run cells judge fuel d.memory d.arrivals (d.ongoing ++ d.branches).toList

end Descent

namespace Cells

variable {σ : Type}

/-- Follows all ways down from a cell. -/
def descend (cells : Cells) (id : Nat) (judge : σ → Way → σ × Verdict) (memory : σ) :
    σ × Array Arrival :=
  Descent.run cells judge (cells.size + 1) memory #[] [⟨id, [], 0⟩]

/-- The ways down past a number of phrases that may not stand anywhere. -/
def past (cells : Cells) (id count : Nat) : Array Arrival :=
  (cells.descend id (fun _ w => ((), ⟨w.depth = count, w.depth = count⟩)) ()).2

/-- The ways down to the bottom. -/
def pastAll (cells : Cells) (id : Nat) : Array Arrival :=
  (cells.descend id (fun _ w => ((), ⟨(cells.cell w.cell).links.isEmpty, false⟩)) ()).2

/-- The way down past one fault, if there is one on top. -/
def pastFault (cells : Cells) (id : Nat) : Array Arrival :=
  (cells.descend id (fun found w =>
    match w.phrases with
    | p :: _ =>
      if !found && p.symbol = Symbol.fault then (true, ⟨true, true⟩)
      else (found, ⟨false, true⟩)
    | [] => (found, ⟨false, false⟩)) false).2

end Cells

end Coverage.Script
