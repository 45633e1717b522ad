import Coverage.Pattern.Reading

/-!
# How large patterns may become

Patterns are looked for all at once by an automaton that reads octets, either from the front or from
the back. Its states are counted here by how much room they take, and patterns whose automaton would
take too much are refused. A character of a set is a sequence of octets; from the front, sequences
share their starts and equal ends, and from the back only what they start with.
-/

namespace Coverage.Pattern

/-- The room of a state. -/
def stateSize : Nat := 32

/-- The room of a state with ways to several others. -/
def forkSize (ways : Nat) : Nat := stateSize + 4 * ways

/-- The room of a state that tells apart several ranges of octets. -/
def branchSize (ranges : Nat) : Nat := stateSize + 8 * ranges

/-- The room that automata may take. -/
def maxSize : Nat := 10 * 1024 * 1024

/-- The sum of some sizes. -/
def total (sizes : List Nat) : Nat := sizes.foldl (· + ·) 0

/-! ## Sequences of octets -/

/-- A sequence of ranges of octets. -/
abbrev OctetRow := List (UInt8 × UInt8)

/-- Where a range of code points is cut so that each part is a single sequence of ranges: where the
number of octets changes, around the surrogates, and where an octet but the last does not go through
all its values. -/
def cut? (low high : Nat) : Option Nat :=
  ([0x80, 0x800, 0xD800, 0xE000, 0x10000].find? fun m => low < m && m ≤ high).or <|
    [64, 4096, 262144].findSome? fun m =>
      if low < 128 || low / m = high / m then none
      else if low % m ≠ 0 then some ((low / m + 1) * m)
      else if high % m ≠ m - 1 then some (high / m * m)
      else none

/-- The sequences of octets of a range of code points, but for the surrogates. -/
def octetRows : Nat → Nat → Nat → List OctetRow
  | 0, _, _ => []
  | fuel + 1, low, high =>
    match cut? low high with
    | some m => octetRows fuel low (m - 1) ++ octetRows fuel m high
    | none =>
      if 0xD800 ≤ low && low < 0xE000 then []
      else
        [(String.utf8EncodeChar (Char.ofNat low)).zip (String.utf8EncodeChar (Char.ofNat high))]

/-- The sequences of octets of a set. -/
def octetRowsOf (set : Text.Ranges) : List OctetRow :=
  set.flatMap fun (low, high) => octetRows 64 low high

/-- The sequences that start with the same range, by the ranges that they start with. -/
def byStart (rows : List OctetRow) : List (List OctetRow) :=
  rows.splitBy fun a b => a.head? == b.head?

/-- What sequences go on with, at every place on the way through them. -/
def continuations : Nat → List OctetRow → List (List OctetRow)
  | 0, _ => []
  | depth + 1, rows =>
    match rows with
    | [] | [] :: _ => []
    | _ => rows :: (byStart rows).flatMap fun group => continuations depth (group.map List.tail)

/-- The room of the states for a set that is read from the front: places from which all goes on
alike are one state. -/
def forwardSize (rows : List OctetRow) : Nat :=
  stateSize +
    total ((continuations 4 rows).eraseDups.map fun rows => branchSize (byStart rows).length)

/-- The room of the states for a set that is read from the back: each step from a place is a
state. -/
def backwardSize (rows : List OctetRow) : Nat :=
  forkSize rows.length + stateSize +
    stateSize * total ((continuations 4 rows).map fun rows => (byStart rows).length)

/-! ## Patterns -/

/-- The direction in which a text is read. -/
inductive Direction where
  | forward
  | backward
  deriving DecidableEq, Inhabited, Repr

/-- The room of the states for a set. A single character is a row of octets, and sets in ASCII need
a single state in either direction. -/
def setSize (d : Direction) (set : Text.Ranges) : Nat :=
  let rows := octetRowsOf set
  match set with
  | [] => stateSize
  | (low, high) :: rest =>
    if rest.isEmpty && low = high then stateSize * (rows.headD []).length
    else if set.all fun r => r.2 < 128 then stateSize + branchSize set.length
    else match d with
      | .forward => forwardSize rows
      | .backward => backwardSize rows

/-- Whether a pattern describes the stretch without characters, when it describes any. -/
def mayBeEmpty : Pattern → Bool
  | empty | anchor _ => true
  | one _ => false
  | seq p q => p.mayBeEmpty && q.mayBeEmpty
  | either p q => p.mayBeEmpty || q.mayBeEmpty
  | repeated p least _ => p.mayBeEmpty || least = 0

/-- The room of the states for a pattern. -/
def size (d : Direction) : Pattern → Nat
  | empty | anchor _ => stateSize
  | one set => setSize d set
  | seq p q => p.size d + q.size d
  | either p q => p.size d + q.size d + forkSize 2 + stateSize
  | repeated p least most =>
    let n := p.size d
    match most with
    | none =>
      if least = 0 && p.mayBeEmpty then n + 2 * forkSize 2 + stateSize
      else max least 1 * n + forkSize 2
    | some most =>
      if most = least then least * n
      else least * n + (most - least) * (n + forkSize 2) + stateSize

/-- Whether automata for some patterns take no more room than they may. -/
def fit (ps : List Pattern) : Bool :=
  [Direction.forward, .backward].all fun d => total (ps.map (size d)) ≤ maxSize

/-- The patterns that texts describe, unless one of them is not well formed or they are too large
together. -/
def ofTexts? (texts : List String) : Option (List Pattern) := do
  let ps ← texts.mapM ofText?
  if fit ps then return ps else failure

end Coverage.Pattern
