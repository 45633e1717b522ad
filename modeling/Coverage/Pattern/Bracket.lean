import Coverage.Pattern.Escape

/-!
# Classes in brackets

A class in brackets holds characters, ranges of characters, classes that have names, escapes and
other classes in brackets. Two ampersands, hyphens or tildes between such items stand for what is in
both, in the first only, or in just one.
-/

namespace Coverage.Pattern

/-- The set of the characters of some ranges. -/
def spans (rs : List (Char × Char)) : Text.Ranges :=
  Text.Ranges.ofOrdered (rs.map fun (low, high) => (low.toNat, high.toNat))

/-- The classes that have names. -/
def namedClass? (name : List Char) : Option Text.Ranges :=
  match String.ofList name with
  | "alnum" => some (spans [('0', '9'), ('A', 'Z'), ('a', 'z')])
  | "alpha" => some (spans [('A', 'Z'), ('a', 'z')])
  | "ascii" => some (spans [('\x00', '\x7f')])
  | "blank" => some (spans [('\t', '\t'), (' ', ' ')])
  | "cntrl" => some (spans [('\x00', '\x1f'), ('\x7f', '\x7f')])
  | "digit" => some (spans [('0', '9')])
  | "graph" => some (spans [('!', '~')])
  | "lower" => some (spans [('a', 'z')])
  | "print" => some (spans [(' ', '~')])
  | "punct" => some (spans [('!', '/'), (':', '@'), ('[', '\x60'), ('\x7b', '~')])
  | "space" => some (spans [('\t', '\r'), (' ', ' ')])
  | "upper" => some (spans [('A', 'Z')])
  | "word" => some (spans [('0', '9'), ('A', 'Z'), ('_', '_'), ('a', 'z')])
  | "xdigit" => some (spans [('0', '9'), ('A', 'F'), ('a', 'f')])
  | _ => none

/-- Reads a class with a name, of which the opening bracket has been read. -/
def readNamedClass (f : Flags) : List Char → Option (Text.Ranges × List Char)
  | ':' :: cs => do
    let (negated, cs) := match cs with
      | '^' :: rest => (true, rest)
      | _ => (false, cs)
    match cs.dropWhile (· ≠ ':') with
    | ':' :: ']' :: rest =>
      let set ← namedClass? (cs.takeWhile (· ≠ ':'))
      return (← f.finish? negated (f.fold set), rest)
    | _ => failure
  | _ => none

/-! ## Items -/

/-- Items of a class that are not parted by operators. -/
structure Items where
  set : Text.Ranges
  count : Nat
  /-- How deep the deepest of them is nested. -/
  depth : Nat
  deriving DecidableEq, Inhabited, Repr

namespace Items

/-- No items. -/
def none : Items := ⟨[], 0, 0⟩

/-- One item more. -/
def add (s : Items) (set : Text.Ranges) (depth : Nat) : Items :=
  ⟨s.set.union set, s.count + 1, max s.depth depth⟩

/-- How deep items are nested together. -/
def nesting (s : Items) : Nat := if s.count < 2 then s.depth else s.depth + 1

end Items

/-- How two sets in brackets are put together. -/
inductive SetOperator where
  | both
  | onlyFirst
  | onlyOne
  deriving DecidableEq, Inhabited, Repr

/-- The set that an operator makes of two. -/
def SetOperator.apply (s t : Text.Ranges) : SetOperator → Text.Ranges
  | both => s.inter t
  | onlyFirst => s.diff t
  | onlyOne => s.symmDiff t

/-- Reads an operator between sets. -/
def setOperator? : List Char → Option (SetOperator × List Char)
  | '&' :: '&' :: rest => some (.both, rest)
  | '-' :: '-' :: rest => some (.onlyFirst, rest)
  | '~' :: '~' :: rest => some (.onlyOne, rest)
  | _ => none

/-- An operator with what stands before it. -/
structure Pending where
  first : Text.Ranges
  depth : Nat
  operator : SetOperator
  deriving DecidableEq, Inhabited, Repr

/-- What an operator makes of what stands before it and the items behind it, and how deep it is
nested. -/
def Items.close (f : Flags) (s : Items) : Option Pending → Text.Ranges × Nat
  | some p => (p.operator.apply (f.fold p.first) (f.fold s.set), max p.depth s.nesting + 1)
  | .none => (s.set, s.nesting)

/-- Reads a character or an escape. -/
def readItem (f : Flags) : List Char → Option (Escaped × List Char)
  | '\\' :: rest => readEscape f rest
  | c :: rest => some (.char c false, rest)
  | [] => none

/-- The number of a character of a class; classes hold characters of ASCII only in ASCII mode. -/
def Escaped.code? (f : Flags) : Escaped → Option Nat
  | char c _ => if f.ascii && 128 ≤ c.toNat then none else some c.toNat
  | _ => none

/-- The set that an item of a class stands for. -/
def Escaped.set? (f : Flags) : Escaped → Option Text.Ranges
  | set s => some s
  | e => (e.code? f).map fun n => [(n, n)]

/-- Whether a hyphen stands for itself: before a closing bracket or another hyphen. What starts a
comment is passed over, and the comment is not. -/
def loneHyphen (f : Flags) (behind : List Char) : Bool :=
  let next :=
    if f.spaced then
      match behind.dropWhile Text.isBlank with
      | '#' :: more => (more.dropWhile Text.isBlank).head?
      | more => more.head?
    else behind.head?
  next = some ']' || next = some '-'

/-- Reads a range of characters or a single item. -/
def readRange (f : Flags) (cs : List Char) : Option (Text.Ranges × List Char) := do
  let (low, rest) ← readItem f cs
  let rest := f.skip rest
  match rest with
  | [] => failure
  | '-' :: more =>
    if loneHyphen f more then return (← low.set? f, rest)
    let (high, rest) ← readItem f (f.skip more)
    let (low, high) := (← low.code? f, ← high.code? f)
    if low ≤ high then return ([(low, high)], rest) else failure
  | _ => return (← low.set? f, rest)

/-- Reads hyphens, which stand for themselves at the start of a class. -/
def readHyphens (f : Flags) : Nat → Items → List Char → Items × List Char
  | fuel + 1, items, '-' :: rest =>
    readHyphens f fuel (items.add (spans [('-', '-')]) 0) (f.skip rest)
  | _, items, cs => (items, cs)

/-! ## Whole classes -/

mutual

/-- Reads a class of which the opening bracket has been read: its set, how deep it is nested, and
what is left. -/
def readClass (f : Flags) : Nat → List Char → Option (Text.Ranges × Nat × List Char)
  | 0, _ => none
  | fuel + 1, cs => do
    let cs := f.skip cs
    let (negated, cs) := match cs with
      | '^' :: rest => (true, f.skip rest)
      | _ => (false, cs)
    let (items, cs) := readHyphens f cs.length .none cs
    let (items, cs) := match cs with
      | ']' :: rest =>
        if items.count = 0 then (items.add (spans [(']', ']')]) 0, f.skip rest) else (items, cs)
      | _ => (items, cs)
    let (set, depth, rest) ← readItems f fuel none items cs
    return (← f.finish? negated (f.fold set), depth + 1, rest)

/-- Reads the items of a class up to the closing bracket. -/
def readItems (f : Flags) : Nat → Option Pending → Items → List Char →
    Option (Text.Ranges × Nat × List Char)
  | 0, _, _, _ => none
  | fuel + 1, pending, items, cs =>
    let cs := f.skip cs
    match setOperator? cs with
    | some (operator, rest) =>
      let (first, depth) := items.close f pending
      readItems f fuel (some { first, depth, operator }) .none rest
    | none =>
      match cs with
      | [] => none
      | ']' :: rest =>
        let (set, depth) := items.close f pending
        some (set, depth, rest)
      | '[' :: rest =>
        match readNamedClass f rest with
        | some (set, rest) => readItems f fuel pending (items.add set 0) rest
        | none => do
          let (set, depth, rest) ← readClass f fuel rest
          readItems f fuel pending (items.add set depth) rest
      | _ => do
        let (set, rest) ← readRange f cs
        readItems f fuel pending (items.add set 0) rest

end

end Coverage.Pattern
