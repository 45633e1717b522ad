import Coverage.Script.Shape
import Coverage.Script.Source
import Coverage.Script.Symbol

/-!
# Phrases

A phrase is a token, or what a rule of the grammar makes of its parts. It is read with a cost, which
is zero unless something is wrong in it: characters that are left out cost something, and so do
tokens that are added. Among readings of one text the cheaper one is taken, and among readings that
cost nothing the one that the precedences of its rules prefer.
-/

namespace Coverage.Script

/-- What is known of a phrase besides its parts. -/
structure Extent where
  symbol : Symbol
  shape : Shape
  /-- The place behind the phrase before, in front of blanks. -/
  lead : Nat
  /-- The place in front of the first character. -/
  start : Nat
  /-- The place behind the last character. -/
  stop : Nat
  /-- Whether the phrase may stand anywhere, as a comment does. -/
  extra : Bool
  /-- Whether the phrase is a token that the text lacks. -/
  missing : Bool
  cost : Nat
  /-- The sum of the precedences of the rules. -/
  precedence : Int
  /-- How many nodes stand directly below the node of the phrase. -/
  parts : Nat
  /-- How many nodes stand anywhere below the node of the phrase. -/
  nodes : Nat
  deriving Inhabited

/-- A phrase of a script. -/
structure Phrase extends Extent where
  children : List Phrase
  deriving Inhabited

/-- What is paid for faults. -/
structure Tariff where
  /-- For each fault. -/
  fault : Nat
  /-- For each token that is added. -/
  addition : Nat
  /-- For each phrase that is left out. -/
  phrase : Nat
  /-- For each line that is left out. -/
  line : Nat
  /-- For each byte that is left out. -/
  byte : Nat
  deriving Inhabited

/-- What is paid for faults in scripts. -/
def tariff : Tariff := ⟨500, 110, 100, 30, 1⟩

/-- What it costs to leave out the text between two places. -/
def Source.omission (s : Source) (start stop : Nat) : Nat :=
  tariff.byte * s.bytes start stop + tariff.line * s.lineFeeds start stop

namespace Phrase

/-- Whether a phrase is a node of its own. -/
def isVisible (p : Phrase) : Bool := p.symbol.isVisible

/-- How many nodes a phrase consists of. What is skipped counts for one. -/
def size (p : Phrase) : Nat :=
  p.nodes + (if p.isVisible then 1 else 0) + if p.symbol = Symbol.skipped then 1 else 0

/-- A token between two places. The end of the text may stand anywhere. -/
def token (symbol : Symbol) (lead start stop : Nat) : Phrase :=
  { symbol, lead, start, stop
    shape := []
    extra := symbol = Symbol.endOfText
    missing := false
    cost := 0
    precedence := 0
    parts := 0
    nodes := 0
    children := [] }

/-- A token that the text lacks at a place. -/
def absent (symbol : Symbol) (place : Nat) : Phrase :=
  { token symbol place place place with missing := true, cost := tariff.addition + tariff.fault }

/-- Characters between two places that start no token. -/
def unreadable (s : Source) (lead start stop : Nat) : Phrase :=
  { token Symbol.fault lead start stop with cost := tariff.fault + s.omission start stop }

/-- What it costs to leave out a phrase with the parts of a fault, besides its text. -/
def omissionCost (p : Phrase) : Nat :=
  if p.extra || (p.symbol = Symbol.fault && p.children.isEmpty) then 0
  else if p.isVisible then tariff.phrase
  else tariff.phrase * p.parts

/-- Adds a part to what is known of a phrase. A part with another name is always a node. -/
def addPart (whole : Extent) (alias? : Option Kind) (p : Phrase) : Extent :=
  let own := alias?.isSome || p.isVisible
  { whole with
    stop := p.stop
    cost := whole.cost + (if p.symbol = Symbol.skipped then 0 else p.cost) +
      if whole.symbol.isFaulty then p.omissionCost else 0
    precedence := whole.precedence + p.precedence
    parts := whole.parts + if own then 1 else p.parts
    nodes := whole.nodes + p.nodes + if own then 1 else 0 }

/-- Adds parts in order; the shape is that of the parts that may not stand anywhere. -/
def addParts (whole : Extent) : Shape → List Phrase → Extent
  | _, [] => whole
  | shape, p :: ps =>
    if p.extra then addParts (addPart whole none p) shape ps
    else addParts (addPart whole (shape.head?.bind (·.alias?)) p) shape.tail ps

/-- The phrase of given parts. One without parts lies at `place`. -/
def ofParts (s : Source) (symbol : Symbol) (shape : Shape) (place : Nat)
    (children : List Phrase) : Phrase :=
  let (lead, start) := match children with
    | p :: _ => (p.lead, p.start)
    | [] => (place, place)
  let whole := addParts { (token symbol lead start start).toExtent with shape } shape children
  let cost := if symbol.isFaulty then tariff.fault + s.omission start whole.stop else 0
  { whole with cost := whole.cost + cost, children }

/-- A phrase that may stand anywhere. -/
def asExtra (p : Phrase) : Phrase := { p with extra := true }

/-! ## Which reading is taken -/

mutual

/-- Compares two readings part by part: by their symbols, and then by the number of parts. -/
def order : Phrase → Phrase → Ordering
  | ⟨e, ps⟩, ⟨f, qs⟩ =>
    (compare e.symbol f.symbol).then ((compare ps.length qs.length).then (orderAll ps qs))

/-- Compares the parts of two readings. -/
def orderAll : List Phrase → List Phrase → Ordering
  | p :: ps, q :: qs => (order p q).then (orderAll ps qs)
  | _, _ => .eq

end

/-- Whether the second of two readings of one text is taken. -/
def givesWayTo (p q : Phrase) : Bool :=
  if q.cost ≠ p.cost then q.cost < p.cost
  else if p.precedence ≠ q.precedence then p.precedence < q.precedence
  else 0 < p.cost || order p q = .gt

/-- Whether two phrases that end at one place can stand for each other. -/
def isLike (p q : Phrase) : Bool :=
  p.symbol = q.symbol &&
    ((0 < p.cost && 0 < q.cost) ||
      (p.lead = q.lead && p.start = q.start && p.children.length = q.children.length &&
        p.extra = q.extra))

end Phrase

end Coverage.Script
