import Coverage.Script.Reader.Reduction

/-!
# Going on behind a fault

Where a reading has no use for the next token, a token may be missing or something may be too much.
All rules that could be complete are tried first; then a token is added, if one helps; and then the
reading goes back to an earlier state that has a use for the token, leaving out what stands between,
or leaves out the token itself. All of them are followed as long as their costs are worth it.
-/

namespace Coverage.Script

/-- The most phrases that are left out to go back to an earlier state. -/
def mostLeftOut : Nat := 16

/-- Whether a state goes on with one of some tokens, and the rules that it completes on them. -/
def prospects (state : State) (tokens : List Symbol) : Bool × List Rule :=
  (tokens.flatMap (Automaton.actions state)).foldl (fun (shifts, rules) a =>
    match a with
    | .shift _ | .recover => (true, rules)
    | .reduce rule =>
      if rules.any fun q => q.symbol = rule.symbol && q.parts = rule.parts then (shifts, rules)
      else (shifts, rules ++ [rule])
    | _ => (shifts, rules)) (false, [])

namespace Reader

/-- Makes phrases of their parts in all ways that could go on with one of some tokens, from the
reading `v` on, in at most `fuel` steps. The readings from `first` on are joined where they come
to the same; those that cannot go on are taken out if `strict` is set. The result tells whether one
can. -/
def reduceAll (first start : Nat) (tokens : List Symbol) (strict : Bool) :
    Nat → (step v : Nat) → (goesOn : Bool) → Reader → Bool × Reader
  | 0, _, _, goesOn, r => (goesOn, r)
  | fuel + 1, step, v, goesOn, r =>
    let count := r.readings.size
    if count ≤ v then (goesOn, r)
    else match (List.range v).find? fun w => first ≤ w && r.canMerge w v with
      | some w => reduceAll first start tokens strict fuel (step + 1) v goesOn (r.merge w v)
      | none =>
        let (shifts, rules) := prospects (r.state v) tokens
        let (made, r) := rules.foldl (fun (_, r) rule =>
          let next := r.readings.size
          let r := r.reduce v rule
          (if next < r.readings.size then some next else none, r)) (none, r)
        let following := if v = start then count else v + 1
        if shifts then reduceAll first start tokens strict fuel (step + 1) following true r
        else match made with
          | some w =>
            if step < mostReadings then
              reduceAll first start tokens strict fuel (step + 1) v goesOn (r.replace w v)
            else reduceAll first start tokens strict fuel (step + 1) following goesOn
              (if strict then r.remove v else r)
          | none => reduceAll first start tokens strict fuel (step + 1) following goesOn
              (if strict then r.remove v else r)

/-- Makes phrases of their parts in all ways that could go on with one of some tokens. -/
def reduceFrom (r : Reader) (v : Nat) (tokens : List Symbol) (strict : Bool) : Bool × Reader :=
  reduceAll r.readings.size v tokens strict (64 * (r.cells.size + 64)) 0 v false r

/-- All tokens but the end of the text. -/
def allTokens : List Symbol := (List.range Symbol.tokenCount).drop 1

/-- Makes phrases of their parts in all ways that could go on with the next token. The end of the
text leaves open how the text could go on. -/
def reduceBefore (r : Reader) (v : Nat) (lookahead : Symbol) : Bool × Reader :=
  if lookahead = Symbol.endOfText then r.reduceFrom v allTokens false
  else r.reduceFrom v [lookahead] true

/-- Adds a token to a reading behind which the next token can stand, as a reading of its own. -/
def addToken (r : Reader) (v : Nat) (lookahead : Symbol) : List Symbol → Bool × Reader
  | [] => (false, r)
  | token :: tokens =>
    let state := r.state v
    let target := Automaton.target state token
    let completes := (Automaton.actions target lookahead).any fun a =>
      match a with
      | .reduce _ => true
      | _ => false
    if target ≠ Automaton.faultState && target ≠ state && completes then
      let h := r.reading v
      let w := r.readings.size
      let place := r.place v
      let r := { r with readings := r.readings.push ⟨h.cell, h.nodesAtFault, .active, []⟩ }
      let r := r.push w (some (.absent token place)) target
      match r.reduceBefore w lookahead with
      | (true, r) => (true, r)
      | (false, r) => addToken r v lookahead tokens
    else addToken r v lookahead tokens

/-- Starts a fault in readings, the first of which may get a token added. -/
def startFaults (lookahead : Symbol) : List Nat → Bool → Reader → Reader
  | [], _, r => r
  | v :: vs, added, r =>
    let (added, r) := if added then (true, r) else r.addToken v lookahead allTokens
    startFaults lookahead vs added (r.push v none Automaton.faultState)

/-- Notes the states that a way down has come to, the last first. -/
def noteResumption (cells : Cells) (noted : List Resumption) (w : Way) :
    List Resumption × Verdict :=
  let cell := cells.cell w.cell
  if mostLeftOut < w.depth then (noted, ⟨false, true⟩)
  else if (noted.takeWhile fun e => w.depth ≤ e.depth).any fun e =>
      e.depth = w.depth && e.state = cell.state then (noted, ⟨false, false⟩)
  else (⟨cell.place, w.depth, cell.state⟩ :: noted, ⟨false, false⟩)

/-- The states that a reading can go back to. -/
def resumptionsOf (r : Reader) (v : Nat) : List Resumption :=
  (r.cells.descend (r.reading v).cell (noteResumption r.cells) []).1.reverse

/-- Leaves out the phrases on top of a cell and goes on in its state. A fault that stands below is
joined with them. -/
def resumeAbove (v : Nat) (state : State) (r : Reader) (a : Arrival) : Reader :=
  match a.paths with
  | [] => r
  | path :: _ =>
    if (r.cells.cell a.cell).state ≠ state then r
    else
      let (cell, path) := match (r.cells.pastFault a.cell).toList with
        | ⟨below, (p :: _) :: _⟩ :: _ => (below, p.children ++ path)
        | _ => (a.cell, path)
      let (parts, extras) := splitExtras path
      let w := r.readings.size
      let nodesAtFault := (r.reading v).nodesAtFault
      let r := { r with readings := r.readings.push ⟨cell, nodesAtFault, .active, []⟩ }
      let r := if parts.isEmpty then r
        else
          let fault := Phrase.ofParts r.source Symbol.fault [] (r.place w) parts
          r.push w (some fault.asExtra) state
      r.pushAll w extras state

/-- Goes back to the first of some states that has a use for the next token. -/
def resume (v : Nat) (lookahead : Phrase) (first cost nodes : Nat) :
    List Resumption → Reader → Bool × Reader
  | [], r => (false, r)
  | e :: es, r =>
    let place := r.place v
    let taken := (List.range first).any fun w => r.state w = e.state && r.place w = place
    if e.state = Automaton.faultState || e.place = place || taken then
      resume v lookahead first cost nodes es r
    else
      let omitted := tariff.phrase * e.depth + r.source.omission e.place place
      match r.isOutdone v (cost + omitted) with
      | (true, r) => (false, r)
      | (false, r) =>
        if (Automaton.actions e.state lookahead.symbol).isEmpty then
          resume v lookahead first cost nodes es r
        else
          let depth := e.depth + if 0 < nodes then 1 else 0
          let count := r.readings.size
          let r := (r.cells.past (r.reading v).cell depth).foldl (resumeAbove v e.state) r
          if count < r.readings.size then (true, r)
          else resume v lookahead first cost nodes es r

/-- Leaves the next token out. -/
def leaveOut (r : Reader) (v : Nat) (lookahead : Phrase) (nodes : Nat) : Reader :=
  let anywhere := (Automaton.actions Automaton.startState lookahead.symbol).getLast? = some .extra
  let lookahead := if anywhere then lookahead.asExtra else lookahead
  let skip := fun ps => Phrase.ofParts r.source Symbol.skipped [] lookahead.lead ps
  let skipped := skip [lookahead]
  if 0 < nodes then
    match (r.cells.past (r.reading v).cell 1).toList with
    | ⟨cell, path :: _⟩ :: _ =>
      let whole := skip (path ++ [skipped])
      (r.update v fun h => { h with cell }).push v (some whole) Automaton.faultState
    | _ => r.push v (some skipped) Automaton.faultState
  else r.push v (some skipped) Automaton.faultState

/-- Goes on from a fault with the next token. -/
def recover (r : Reader) (v : Nat) (lookahead : Phrase) : Reader :=
  let first := r.readings.size
  let r := r.settle v
  let nodes := r.nodesSinceFault v
  let cost := r.cost v
  let (resumed, r) := if lookahead.symbol = Symbol.fault then (false, r)
    else resume v lookahead first cost nodes (r.reading v).resumptions r
  if lookahead.symbol = Symbol.endOfText then
    let fault := Phrase.ofParts r.source Symbol.fault [] (r.place v) []
    (r.push v (some fault) Automaton.startState).complete v lookahead
  else if resumed && mostReadings < r.readings.size then r.halt v
  else
    let omitted := tariff.phrase + r.source.omission lookahead.lead lookahead.stop
    match r.isOutdone v (cost + omitted) with
    | (true, r) => r.halt v
    | (false, r) => r.leaveOut v lookahead nodes

/-- Starts a fault in a reading that has no use for the next token, and goes on from it. -/
def enterFault (r : Reader) (v : Nat) (lookahead : Phrase) : Reader :=
  let first := r.readings.size
  let (_, r) := r.reduceFrom v allTokens false
  let count := r.readings.size
  let r := startFaults lookahead.symbol (v :: (List.range count).drop first) false r
  let r := (List.range (count - first)).foldl (fun r _ => r.merge v first) r
  let resumptions := r.resumptionsOf v
  (r.update v fun h => { h with resumptions }).recover v lookahead

end Reader

end Coverage.Script
