import Coverage.Script.Automaton.ActionRows
import Coverage.Script.Automaton.States
import Coverage.Script.Automaton.SymbolSets
import Coverage.Script.Automaton.TargetRows
import Coverage.Script.Context
import Coverage.Script.Shape
import Coverage.Text.Packed

/-!
# The automaton that reads scripts

A script is read from left to right with a stack of states. What the state on top of the stack does
with the next token is in a table of actions; where several actions are possible all of them are
tried side by side. A rule that is complete takes its parts from the stack and puts the phrase that
it makes there, which leads to another state by a table of targets.
-/

namespace Coverage.Script

/-- A rule of the grammar. -/
structure Rule where
  /-- What the rule makes. -/
  symbol : Symbol
  /-- The number of its parts. -/
  parts : Nat
  /-- Which of two readings of one text is taken. -/
  precedence : Int
  shape : Shape
  deriving DecidableEq, Inhabited, Repr

/-- A state of the automaton, by its number. -/
abbrev State := Nat

/-- What a state does with a token. -/
inductive Action where
  /-- Puts the token on the stack. -/
  | shift (target : State)
  /-- Puts the token on the stack where a repetition is read part by part; the rule that joins the
  parts is preferred. -/
  | shiftOn (target : State)
  /-- Makes a phrase of the parts of a rule. -/
  | reduce (rule : Rule)
  /-- Puts the token on the stack without a change of state. -/
  | extra
  /-- The text is complete. -/
  | accept
  /-- The token belongs to a fault. -/
  | recover
  deriving DecidableEq, Inhabited, Repr

namespace Automaton

open Text (runningSums unpack)

/-- The state that stands for a fault. -/
def faultState : State := 0

/-- The state in which a text starts. -/
def startState : State := 1

/-- The sets of symbols that the tables are put together from. -/
def symbolSets : Array (List Symbol) := (unpack packedSets).map (runningSums 0)

/-- The set with a number. -/
def symbolSet (n : Nat) : List Symbol := symbolSets.getD n []

/-- The rules of the grammar. -/
def rules : Array Rule :=
  (unpack packedRules).map fun
    | [symbol, parts, precedence, shape] =>
      ⟨Symbol.tokenCount + symbol, parts, Int.ofNat precedence - 1, shapes.getD shape []⟩
    | _ => default

/-- The action with a number. -/
def actionOf (n : Nat) : Action :=
  let argument := n / 6
  match n % 6 with
  | 0 => .shift argument
  | 1 => .shiftOn argument
  | 2 => .reduce (rules.getD argument default)
  | 3 => .extra
  | 4 => .accept
  | _ => .recover

/-- The lists of actions that occur. -/
def choices : Array (List Action) := (unpack packedChoices).map (·.map actionOf)

/-- Gives all symbols of a set one value in a row. -/
def fill {α : Type} (value : α) (row : Array α) (symbols : List Symbol) : Array α :=
  symbols.foldl (fun row s => row.setIfInBounds s value) row

/-- Puts a row of actions together from pairs of a set and a list of actions. -/
def actionRow (row : Array (List Action)) : List Nat → Array (List Action)
  | set :: choice :: rest => actionRow (fill (choices.getD choice []) row (symbolSet set)) rest
  | _ => row

/-- The rows of the table of actions. -/
def actionRows : Array (Array (List Action)) :=
  (unpack packedActionRows).map (actionRow (Array.replicate Symbol.tokenCount []))

/-- The state that each phrase leads to as a rule. -/
def homes : Array State := ((unpack packedHomes).getD 0 []).toArray

/-- Puts the targets that differ from the rule into a row. -/
def exceptions (row : Array State) : List Nat → Array State
  | phrase :: target :: rest => exceptions (row.setIfInBounds phrase target) rest
  | _ => row

/-- Puts a row of targets together. -/
def targetRow : List Nat → Array State
  | set :: rest =>
    let row := (symbolSet set).foldl (fun row s =>
      let phrase := s - Symbol.tokenCount
      row.setIfInBounds phrase (homes.getD phrase 0)) (Array.replicate homes.size 0)
    exceptions row rest
  | [] => #[]

/-- The rows of the table of targets. -/
def targetRows : Array (Array State) := (unpack packedTargetRows).map targetRow

/-- The modes of the lexer. -/
def modes : Array Mode :=
  (unpack packedModes).map fun set => Mode.ofSymbols (symbolSet (set.headD 0))

end Automaton

/-- What belongs to a state. -/
structure StateEntry where
  actions : Array (List Action)
  targets : Array State
  mode : Mode
  context : Context
  deriving Inhabited

namespace Automaton

open Text (unpack)

/-- The states. -/
def states : Array StateEntry :=
  (unpack packedStates).map fun
    | [actions, targets, mode, context] =>
      ⟨actionRows.getD actions #[], targetRows.getD targets #[], modes.getD mode default,
        contexts.getD context .nothing⟩
    | _ => default

/-- What belongs to a state. -/
def entry (s : State) : StateEntry := states.getD s default

/-- What a state does with a token. -/
def actions (s : State) (token : Symbol) : List Action := (entry s).actions.getD token []

/-- The state that a symbol leads to; the fault state where it leads nowhere. -/
def target (s : State) (symbol : Symbol) : State :=
  if symbol < Symbol.tokenCount then
    match (actions s symbol).getLast? with
    | some .extra => s
    | some (.shift t) | some (.shiftOn t) => t
    | _ => faultState
  else (entry s).targets.getD (symbol - Symbol.tokenCount) faultState

end Automaton

end Coverage.Script
