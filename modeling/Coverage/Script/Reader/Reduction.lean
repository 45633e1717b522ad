import Coverage.Script.Reader.Lookahead

/-!
# Making phrases of their parts

A rule that is complete takes its parts off the stack. Where there are several ways down, each way
that leads to another cell makes a reading of its own, and among those that lead to one cell the
best reading is taken. Comments behind the last part go back on the stack.
-/

namespace Coverage.Script

/-- Splits the phrases that may stand anywhere off the end of a list. -/
def splitExtras (ps : List Phrase) : List Phrase × List Phrase :=
  let back := ps.reverse
  ((back.dropWhile (·.extra)).reverse, (back.takeWhile (·.extra)).reverse)

/-- The phrase that a rule makes of the best of several lists of parts, with the phrases that stand
behind it. -/
def Rule.best (rule : Rule) (s : Source) (place : Nat) :
    Phrase × List Phrase → List (List Phrase) → Phrase × List Phrase
  | chosen, [] => chosen
  | chosen, path :: paths =>
    let (parts, extras) := splitExtras path
    let bare := Phrase.ofParts s rule.symbol [] place parts
    if chosen.1.givesWayTo bare then
      best rule s place (Phrase.ofParts s rule.symbol rule.shape place parts, extras) paths
    else best rule s place chosen paths

namespace Reader

/-- Makes a phrase on top of the cell that ways down have come to. -/
def reduceAbove (v : Nat) (rule : Rule) (r : Reader) (a : Arrival) : Reader :=
  let w := r.readings.size
  match a.paths with
  | [] => r
  | path :: paths =>
    if mostVersions < w then r
    else
      let below := r.cells.cell a.cell
      let (parts, extras) := splitExtras path
      let first := Phrase.ofParts r.source rule.symbol rule.shape below.place parts
      let (phrase, extras) := rule.best r.source below.place (first, extras) paths
      let phrase := { phrase with precedence := phrase.precedence + rule.precedence }
      let state := Automaton.target below.state rule.symbol
      let nodesAtFault := (r.reading v).nodesAtFault
      let r := { r with readings := r.readings.push ⟨a.cell, nodesAtFault, .active, []⟩ }
      let r := (r.push w (some phrase) state).pushAll w extras state
      (r.mergeInto w w (some v)).getD r

/-- Makes a phrase of the parts of a rule. What comes of it are new readings behind the others. -/
def reduce (r : Reader) (v : Nat) (rule : Rule) : Reader :=
  let arrivals := r.cells.past (r.reading v).cell rule.parts
  arrivals.foldl (reduceAbove v rule) r

/-- The whole text that phrases make up: the last of them that may not stand anywhere takes the
others in. -/
def wholeOf (s : Source) (ps : List Phrase) : Option Phrase :=
  let (front, extras) := splitExtras ps
  match front.reverse with
  | [] => none
  | p :: before =>
    some (Phrase.ofParts s p.symbol p.shape p.lead (before.reverse ++ p.children ++ extras))

/-- Completes a reading with the end of the text. -/
def complete (r : Reader) (v : Nat) (lookahead : Phrase) : Reader :=
  let r := r.push v (some lookahead) Automaton.startState
  let paths := (r.cells.pastAll (r.reading v).cell).toList.flatMap (·.paths)
  let r := paths.foldl (fun r path =>
    match wholeOf r.source path with
    | some whole =>
      { r with
        accepted := r.accepted + 1
        finished :=
          match r.finished with
          | some p => if p.givesWayTo whole then some whole else some p
          | none => some whole }
    | none => r) r
  r.halt v

end Reader

end Coverage.Script
