import Coverage.Script.Automaton.Basic
import Coverage.Script.Phrase

/-!
# The stack of a reading that branches

Where the grammar leaves open how a text is to be read, its readings are followed side by side. They
share the part of the stack below where they part, and join again where they come to the same state
at the same place: the stack is a graph of cells, each of which is linked to the cells below it.
-/

namespace Coverage.Script

/-- A link to a cell below. -/
structure Link where
  /-- The number of the cell. -/
  cell : Nat
  /-- The phrase between the two cells; none where a fault starts. -/
  phrase : Option Phrase
  deriving Inhabited

/-- A cell of the stack. -/
structure Cell where
  state : State
  links : List Link
  /-- The place in the text that has been reached. -/
  place : Nat
  /-- What the faults below cost. -/
  cost : Nat
  /-- The greatest sum of precedences of the readings below. -/
  precedence : Int
  /-- The greatest number of nodes of the readings below. -/
  nodes : Nat
  deriving Inhabited

/-- The cells of a stack, by their numbers; a cell is linked to cells with lower numbers. -/
abbrev Cells := Array Cell

/-- The most links that a cell has. -/
def mostLinks : Nat := 8

namespace Cell

/-- The cell below all others. -/
def bottom : Cell := ⟨Automaton.startState, [], 0, 0, 0, 0⟩

/-- The cell above another one, behind a phrase. -/
def above (id : Nat) (below : Cell) (phrase : Option Phrase) (state : State) : Cell :=
  let links := [⟨id, phrase⟩]
  match phrase with
  | none => { below with state, links }
  | some p =>
    { state, links
      place := p.stop
      cost := below.cost + p.cost
      precedence := below.precedence + p.precedence
      nodes := below.nodes + p.size }

/-- Whether two cells stand for the same state of affairs. -/
def isLike (a b : Cell) : Bool := a.state = b.state && a.place = b.place && a.cost = b.cost

end Cell

namespace Cells

/-- The cell with a number. -/
def cell (cells : Cells) (id : Nat) : Cell := cells.getD id default

/-- Whether two links hold phrases that can stand for each other. -/
def haveLikePhrases (a b : Link) : Bool :=
  match a.phrase, b.phrase with
  | some p, some q => p.isLike q
  | none, none => true
  | _, _ => false

/-- Whether a new link adds nothing to a link but its precedence, or what lies below it. -/
def canJoin (cells : Cells) (old new : Link) : Bool :=
  haveLikePhrases old new &&
    (old.cell = new.cell || (cells.cell old.cell).isLike (cells.cell new.cell))

/-- The precedence of a link's phrase. -/
def linkPrecedence (l : Link) : Int := (l.phrase.map (·.precedence)).getD 0

/-- Adds a link to a cell: a like link is joined with it, as are the links below, at most `fuel`
cells deep. -/
def addLink : Nat → Cells → Nat → Link → Cells
  | 0, cells, _, _ => cells
  | fuel + 1, cells, id, new =>
    if new.cell = id then cells
    else
      let cell := cells.cell id
      let below := cells.cell new.cell
      let precedence := below.precedence + linkPrecedence new
      match cell.links.findIdx? (canJoin cells · new) with
      | some i =>
        let old := cell.links.getD i default
        if old.cell = new.cell then
          if linkPrecedence old < linkPrecedence new then
            cells.modify id fun c =>
              { c with precedence, links := c.links.set i { old with phrase := new.phrase } }
          else cells
        else
          let cells := below.links.foldl (fun cells l => addLink fuel cells old.cell l) cells
          cells.modify id fun c => { c with precedence := max c.precedence precedence }
      | none =>
        if mostLinks ≤ cell.links.length then cells
        else
          let nodes := below.nodes + ((new.phrase.map Phrase.size).getD 0)
          cells.modify id fun c =>
            { c with
              links := c.links ++ [new]
              nodes := max c.nodes nodes
              precedence := max c.precedence precedence }

end Cells

end Coverage.Script
