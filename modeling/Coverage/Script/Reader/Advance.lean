import Coverage.Script.Reader.Recovery

/-!
# Reading on

A reading goes on by one token: it makes phrases of their parts until its state puts the token on
the stack. When all readings have come as far, those that have come to the same are joined, those
that are much worse than others are given up, and the first paused one goes on from its fault if no
other reading goes on. The text has been read when the best complete reading costs less than what
the others have cost so far.
-/

namespace Coverage.Script

namespace Reader

/-- What the actions of a state with a token lead to. -/
inductive Turn where
  /-- The token was dealt with. -/
  | done (r : Reader)
  /-- Phrases were made, which led to new readings from a number on, if to any. -/
  | made (r : Reader) (first : Option Nat)

/-- Does what a state does with a token. -/
def perform (v : Nat) (lookahead : Phrase) (state : State) :
    List Action → Option Nat → Reader → Turn
  | [], first, r => .made r first
  | a :: as, first, r =>
    match a with
    | .shift target => .done (r.push v (some lookahead) target)
    | .shiftOn _ => perform v lookahead state as first r
    | .extra => .done (r.push v (some lookahead.asExtra) state)
    | .reduce rule =>
      let next := r.readings.size
      let r := r.reduce v rule
      perform v lookahead state as (if next < r.readings.size then some next else first) r
    | .accept => .done (r.complete v lookahead)
    | .recover => .done (r.recover v lookahead)

/-- Deals with a token, in at most `fuel` turns. -/
def take (v : Nat) : Nat → Phrase → Reader → Reader
  | 0, _, r => r.halt v
  | fuel + 1, lookahead, r =>
    let state := r.state v
    match perform v lookahead state (Automaton.actions state lookahead.symbol) none r with
    | .done r => r
    | .made r (some first) => take v fuel lookahead (r.replace first v)
    | .made r none =>
      if lookahead.isKeyword && !(Automaton.actions state Symbol.identifier).isEmpty then
        take v fuel { lookahead with symbol := Symbol.identifier } r
      else if state = Automaton.faultState then r.recover v lookahead
      else r.update v fun h => { h with standing := .paused lookahead }

/-- Reads on by one token. -/
def advance (r : Reader) (v : Nat) : Reader :=
  take v (64 * (r.cells.size + 64)) (r.lookahead v) r

/-- Reads on until a reading stops or passes `place`, in at most `fuel` steps; the readings behind
the first may also stop there. The result has the place that was passed. -/
def advancePast (v : Nat) : Nat → Nat → Reader → Nat × Reader
  | 0, place, r => (place, r)
  | fuel + 1, place, r =>
    if !(r.reading v).standing.isActive then (place, r)
    else
      let r := r.advance v
      let reached := r.place v
      if place < reached || (0 < v && reached = place) then (reached, r)
      else advancePast v fuel place r

/-- Reads on with the readings from `v` on, of which there may be `fuel`. -/
def advanceAll (steps : Nat) : Nat → (v : Nat) → (place : Nat) → Reader → Nat × Reader
  | 0, _, place, r => (place, r)
  | fuel + 1, v, place, r =>
    if r.readings.size ≤ v then (place, r)
    else
      let (place, r) := advancePast v steps place r
      advanceAll steps fuel (v + 1) place r

/-! ## Choosing readings -/

/-- Compares the reading `v` with those from `w` on before it. The result tells whether it is still
there, and how many readings before it are. -/
def contest (merit : Merit) : Nat → (v w : Nat) → Reader → (Bool × Nat) × Reader
  | 0, v, _, r => ((true, v), r)
  | fuel + 1, v, w, r =>
    if v ≤ w then ((true, v), r)
    else
      let r := r.settle w
      match (r.merit w).compare merit with
      | .takesFirst => ((false, v), r.remove v)
      | .takesSecond => contest merit fuel (v - 1) w (r.remove w)
      | preference =>
        if r.canMerge w v then ((false, v), r.merge w v)
        else
          let r := if preference = .prefersSecond then
              { r with readings := r.readings.swapIfInBounds w v }
            else r
          contest merit fuel v (w + 1) r

/-- Lets the readings from `v` on contest, of which there may be `fuel`. The result has the least
cost of a reading outside of faults. -/
def contestAll : Nat → (v : Nat) → (least : Option Nat) → Reader → Option Nat × Reader
  | 0, _, least, r => (least, r)
  | fuel + 1, v, least, r =>
    if r.readings.size ≤ v then (least, r)
    else if (r.reading v).standing.isHalted then contestAll fuel v least (r.remove v)
    else
      let r := r.settle v
      let merit := r.merit v
      let least := if merit.inFault then least else some (min merit.cost (least.getD merit.cost))
      let ((stays, before), r) := contest merit (v + 1) v 0 r
      contestAll fuel (if stays then before + 1 else before) least r

/-- Goes through the readings from `v` to before `stop`: the first one that is paused goes on from
its fault if none before it goes on, and the others that are paused are given up. -/
def wake : Nat → (v stop : Nat) → (awake : Bool) → (least : Option Nat) → Reader →
    Option Nat × Reader
  | 0, _, _, _, least, r => (least, r)
  | fuel + 1, v, stop, awake, least, r =>
    if stop ≤ v then (least, r)
    else match (r.reading v).standing with
      | .paused lookahead =>
        if !awake && r.accepted < mostReadings then
          let least := some (r.cost v)
          let r := r.update v fun h => { h with standing := .active }
          wake fuel (v + 1) stop true least (r.enterFault v lookahead)
        else wake fuel v (stop - 1) awake least (r.remove v)
      | _ => wake fuel (v + 1) stop true least r

/-- Joins and gives up readings. The result has the least cost that the remaining ones have. -/
def condense (r : Reader) : Option Nat × Reader :=
  let count := r.readings.size
  let (least, r) := contestAll count 0 none r
  let r := { r with readings := r.readings.take mostReadings }
  wake count 0 r.readings.size false least r

/-- Reads the text, in at most `fuel` rounds. -/
def run (steps : Nat) : Nat → (place : Nat) → Reader → Option Phrase
  | 0, _, r => r.finished
  | fuel + 1, place, r =>
    let (place, r) := advanceAll steps steps 0 place r
    let idle := r.readings.isEmpty
    let (least, r) := r.condense
    let decided := match r.finished with
      | some p => least.all fun cost => p.cost < cost
      | none => false
    if decided || idle then r.finished else run steps fuel place r

end Reader

/-- The best reading of a text. -/
def Phrase.ofSource (s : Source) : Option Phrase :=
  let steps := 64 * (s.length + 64)
  Reader.run steps steps 0 (.start s)

end Coverage.Script
