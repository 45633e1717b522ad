import Coverage.Script.Reader.Basic

/-!
# The next token

The state of a reading tells which tokens are looked for. Where none of them follows, all tokens
are, and where none of those does either the characters up to the next token are taken together as
unreadable.
-/

namespace Coverage.Script

/-- The mark of byte order, which may stand in front of a text. -/
def byteOrderMark : Char := '\ufeff'

/-- The place where the look for a token starts. -/
def Source.lookFrom (s : Source) (place : Nat) : Nat :=
  if place = 0 && (s.rest 0).head? = some byteOrderMark then 1 else place

/-- A token that was found in a look from a place. -/
def Found.phrase (f : Found) (lead place : Nat) : Phrase :=
  Phrase.token f.symbol lead (place + f.start) (place + f.stop)

/-- A name that is a keyword where the state has a use for that keyword. -/
def withKeyword (s : Source) (state : State) (p : Phrase) : Phrase :=
  if p.symbol = Symbol.identifier then
    let text := (s.rest p.start).take (p.stop - p.start)
    match Lexeme.keywords.find? fun k => k.1 = text with
    | some (_, symbol) =>
      if (Automaton.actions state symbol).isEmpty then p else { p with symbol }
    | none => p
  else p

/-- Whether a token is a keyword. -/
def Phrase.isKeyword (p : Phrase) : Bool := Lexeme.keywords.any fun k => k.2 = p.symbol

/-- A token by its form. -/
def scanAt (s : Source) (m : Mode) (state : State) (lead : Nat) : Option Phrase :=
  let place := s.lookFrom lead
  (m.scan (s.rest place)).found.map fun f => withKeyword s state (f.phrase lead place)

/-- The place before the next token, where none starts at `stop` and the look for one was given up
at `reached`. -/
def endOfUnreadable (s : Source) (m : Mode) : Nat → (stop reached : Nat) → Nat
  | 0, stop, _ => stop
  | fuel + 1, stop, reached =>
    if reached = stop && s.length ≤ reached then stop
    else
      let stop := if reached = stop then reached + 1 else reached
      let scan := m.scan (s.rest stop)
      if scan.found.isSome then stop else endOfUnreadable s m fuel stop (stop + scan.reached)

/-- The next token, whatever it is, or the characters before it. -/
def anyToken (s : Source) (state : State) (lead : Nat) : Phrase :=
  let m := (Automaton.entry Automaton.faultState).mode
  match scanAt s m state lead with
  | some p => p
  | none =>
    let place := s.lookFrom lead
    let scan := m.scan (s.rest place)
    let start := place + scan.start
    Phrase.unreadable s lead start
      (endOfUnreadable s m (s.length + 1) start (place + scan.reached))

namespace Reader

/-- Whether a reading has passed anything since its last fault, looking at `fuel` phrases. -/
def hasAdvanced (r : Reader) (v : Nat) : Bool :=
  let cell := r.top v
  cell.cost = 0 || go r.cells.size cell
where
  /-- Looks for a phrase with text behind the last fault. -/
  go : Nat → Cell → Bool
  | 0, _ => false
  | fuel + 1, cell =>
    match cell.links with
    | ⟨below, some p⟩ :: _ =>
      if p.lead < p.stop then true
      else if (r.reading v).nodesAtFault < cell.nodes && p.cost = 0 then
        go fuel (r.cells.cell below)
      else false
    | _ => false

/-- A token that depends on the context. An empty one counts only where the reading has advanced
and it leads to another state. -/
def contextToken? (r : Reader) (v : Nat) (state : State) (lead : Nat) : Option Phrase :=
  let place := r.source.lookFrom lead
  match (Automaton.entry state).context.find? (r.source.length + 1) (r.source.rest place) with
  | some f =>
    if place + f.stop ≤ lead &&
        (!r.hasAdvanced v || Automaton.target state f.symbol = state) then none
    else some (f.phrase lead place)
  | none => none

/-- The next token of a reading. -/
def lookahead (r : Reader) (v : Nat) : Phrase :=
  let state := r.state v
  let lead := r.place v
  if state = Automaton.faultState then anyToken r.source state lead
  else match r.contextToken? v state lead with
    | some p => p
    | none => (scanAt r.source (Automaton.entry state).mode state lead).getD
        (anyToken r.source state lead)

end Reader

end Coverage.Script
