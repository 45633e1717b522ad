import Coverage.Script.Stack.Descent

/-!
# The readings that are followed

A reading is a way to read the text up to a place. Each has a top cell in the stack that they share.
A reading is paused where its state has no use for the next token, and halted where it is given up
or complete.
-/

namespace Coverage.Script

/-- Whether a reading goes on. -/
inductive Standing where
  | active
  /-- The reading has no use for the next token. -/
  | paused (lookahead : Phrase)
  | halted
  deriving Inhabited

/-- A state that a reading can go back to. -/
structure Resumption where
  place : Nat
  /-- How many phrases have to be left out. -/
  depth : Nat
  state : State
  deriving DecidableEq, Inhabited, Repr

/-- A reading. -/
structure Reading where
  /-- The top cell. -/
  cell : Nat
  /-- The number of nodes at the last fault. -/
  nodesAtFault : Nat
  standing : Standing
  /-- The states that the reading can go back to from a fault. -/
  resumptions : List Resumption
  deriving Inhabited

/-- The readings of a text, with the stack that they share. -/
structure Reader where
  source : Source
  cells : Cells
  readings : Array Reading
  /-- The best complete reading. -/
  finished : Option Phrase
  /-- The number of complete readings. -/
  accepted : Nat
  deriving Inhabited

/-- The most readings that are followed. -/
def mostReadings : Nat := 6

/-- The most readings that there are between two tokens. -/
def mostVersions : Nat := 10

namespace Standing

/-- Whether a reading goes on. -/
def isActive : Standing → Bool
  | active => true
  | _ => false

/-- Whether a reading waits because its state has no use for the next token. -/
def isPaused : Standing → Bool
  | paused _ => true
  | _ => false

/-- Whether a reading has come to its end. -/
def isHalted : Standing → Bool
  | halted => true
  | _ => false

end Standing

namespace Reader

/-- The readers of a text before anything is read. -/
def start (source : Source) : Reader :=
  ⟨source, #[Cell.bottom], #[⟨0, 0, .active, []⟩], none, 0⟩

/-- The reading with a number. -/
def reading (r : Reader) (v : Nat) : Reading := r.readings.getD v default

/-- The top cell of a reading. -/
def top (r : Reader) (v : Nat) : Cell := r.cells.cell (r.reading v).cell

/-- The state of a reading. -/
def state (r : Reader) (v : Nat) : State := (r.top v).state

/-- The place that a reading has come to. -/
def place (r : Reader) (v : Nat) : Nat := (r.top v).place

/-- Changes a reading. -/
def update (r : Reader) (v : Nat) (f : Reading → Reading) : Reader :=
  { r with readings := r.readings.modify v f }

/-- Stops a reading. -/
def halt (r : Reader) (v : Nat) : Reader := r.update v fun h => { h with standing := .halted }

/-- Takes a reading out. -/
def remove (r : Reader) (v : Nat) : Reader :=
  { r with readings := r.readings.eraseIdxIfInBounds v }

/-- Puts a reading in the place of an earlier one, which it takes the resumptions of if it has
none. -/
def replace (r : Reader) (later earlier : Nat) : Reader :=
  if later = earlier then r
  else
    let h := r.reading later
    let old := (r.reading earlier).resumptions
    let h := if h.resumptions.isEmpty then { h with resumptions := old } else h
    (r.update earlier fun _ => h).remove later

/-- Puts a phrase on top of a reading. Without a phrase a fault starts. -/
def push (r : Reader) (v : Nat) (phrase : Option Phrase) (state : State) : Reader :=
  let id := (r.reading v).cell
  let cell := Cell.above id (r.cells.cell id) phrase state
  let next := r.cells.size
  let r := { r with cells := r.cells.push cell }
  r.update v fun h =>
    { h with
      cell := next
      nodesAtFault := if phrase.isNone then cell.nodes else h.nodesAtFault }

/-- Puts phrases on top of a reading that do not change its state. -/
def pushAll (r : Reader) (v : Nat) (phrases : List Phrase) (state : State) : Reader :=
  phrases.foldl (fun r p => r.push v (some p) state) r

/-! ## Joining readings -/

/-- Whether two readings have come to the same. -/
def canMerge (r : Reader) (v w : Nat) : Bool :=
  (r.reading v).standing.isActive && (r.reading w).standing.isActive &&
    (r.top v).isLike (r.top w)

/-- Joins a reading with an earlier one that has come to the same. -/
def merge (r : Reader) (v w : Nat) : Reader :=
  let id := (r.reading v).cell
  let links := (r.top w).links
  let fuel := r.cells.size
  let r := { r with cells := links.foldl (fun cells l => cells.addLink fuel id l) r.cells }
  let cell := r.cells.cell id
  let r := if cell.state = Automaton.faultState then
      r.update v fun h => { h with nodesAtFault := cell.nodes }
    else r
  r.remove w

/-- Joins a reading with the first of the readings before `limit` that has come to the same, unless
that is the one to spare. -/
def mergeInto (r : Reader) (w limit : Nat) (spared : Option Nat) : Option Reader :=
  ((List.range limit).find? fun v => some v ≠ spared && r.canMerge v w).map fun v => r.merge v w

/-! ## Comparing readings -/

/-- Notes that a reading has gone back behind its last fault. -/
def settle (r : Reader) (v : Nat) : Reader :=
  let nodes := (r.top v).nodes
  if nodes < (r.reading v).nodesAtFault then r.update v fun h => { h with nodesAtFault := nodes }
  else r

/-- The number of nodes that a reading has found since its last fault. -/
def nodesSinceFault (r : Reader) (v : Nat) : Nat := (r.top v).nodes - (r.reading v).nodesAtFault

/-- What the faults of a reading cost. -/
def cost (r : Reader) (v : Nat) : Nat :=
  let cell := r.top v
  let inFault := (r.reading v).standing.isPaused ||
    (cell.state = Automaton.faultState &&
      match cell.links with
      | l :: _ => l.phrase.isNone
      | [] => true)
  cell.cost + if inFault then tariff.fault else 0

/-- What readings are compared by. -/
structure Merit where
  cost : Nat
  /-- The number of nodes since the last fault. -/
  nodes : Nat
  precedence : Int
  inFault : Bool
  deriving DecidableEq, Inhabited, Repr

/-- How two readings compare. -/
inductive Preference where
  /-- The first is so much better that the second is given up. -/
  | takesFirst
  | prefersFirst
  | equal
  | prefersSecond
  /-- The second is so much better that the first is given up. -/
  | takesSecond
  deriving DecidableEq, Inhabited, Repr

/-- How much cheaper a reading has to be to displace another, times the nodes that it has found. -/
def decisiveCost : Nat := 1800

namespace Merit

/-- Compares two readings. The cheaper one is better, and displaces the other where that is in a
fault and it is not, or where it has found much since its last fault. -/
def compare (a b : Merit) : Preference :=
  if !a.inFault && b.inFault then
    if a.cost < b.cost then .takesFirst else .prefersFirst
  else if a.inFault && !b.inFault then
    if b.cost < a.cost then .takesSecond else .prefersSecond
  else if a.cost < b.cost then
    if decisiveCost < (b.cost - a.cost) * (1 + a.nodes) then .takesFirst else .prefersFirst
  else if b.cost < a.cost then
    if decisiveCost < (a.cost - b.cost) * (1 + b.nodes) then .takesSecond else .prefersSecond
  else if b.precedence < a.precedence then .prefersFirst
  else if a.precedence < b.precedence then .prefersSecond
  else .equal

end Merit

/-- What a settled reading is compared by. -/
def merit (r : Reader) (v : Nat) : Merit :=
  let paused := (r.reading v).standing.isPaused
  { cost := r.cost v + if paused then tariff.phrase else 0
    nodes := r.nodesSinceFault v
    precedence := (r.top v).precedence
    inFault := paused || r.state v = Automaton.faultState }

/-- Whether one of the readings with numbers `vs` makes it useless to go on with a reading at a
cost. -/
def isOutdoneBy (v : Nat) (merit : Merit) : List Nat → Reader → Bool × Reader
  | [], r => (false, r)
  | w :: ws, r =>
    if w = v || !(r.reading w).standing.isActive || r.place w < r.place v then
      isOutdoneBy v merit ws r
    else
      let r := r.settle w
      match merit.compare (r.merit w) with
      | .takesSecond => (true, r)
      | .prefersSecond => if r.canMerge w v then (true, r) else isOutdoneBy v merit ws r
      | _ => isOutdoneBy v merit ws r

/-- Whether it is useless to go on with a reading at a cost. -/
def isOutdone (r : Reader) (v cost : Nat) : Bool × Reader :=
  if r.finished.any fun p => p.cost ≤ cost then (true, r)
  else
    let r := r.settle v
    isOutdoneBy v ⟨cost, r.nodesSinceFault v, (r.top v).precedence, false⟩
      (List.range r.readings.size) r

end Reader

end Coverage.Script
