import Coverage.Pattern.Bracket

/-!
# Reading patterns

Patterns are written as regular expressions: characters for themselves, classes in brackets, groups
in parentheses, repetitions behind what they repeat, alternatives between bars, and flags that hold
up to the end of their group. What a group is called, and whether a repetition prefers more or less,
has no bearing on whether a text matches.
-/

namespace Coverage.Pattern

/-- How deep the parts of a pattern may be nested. -/
def maxDepth : Nat := 250

/-- A part of a pattern. -/
structure Part where
  pattern : Pattern
  /-- How deep parts are nested in it. -/
  depth : Nat
  /-- Whether it may be repeated, as flags may not. -/
  repeatable : Bool
  deriving DecidableEq, Inhabited, Repr

namespace Part

/-- A part in which nothing is nested. -/
def flat (p : Pattern) : Part := ⟨p, 0, true⟩

/-- Flags, which describe nothing by themselves. -/
def flags : Part := ⟨empty, 0, false⟩

/-- A part around another one. -/
def around (p : Part) (pattern : Pattern) : Part := ⟨pattern, p.depth + 1, true⟩

/-- The greatest depth of some parts. -/
def depthOf (ps : List Part) : Nat := ps.foldl (fun n p => max n p.depth) 0

/-- Parts one behind the other. -/
def row : List Part → Part
  | [] => flat empty
  | [p] => p
  | p :: ps =>
    ⟨ps.foldl (fun q r => seq q r.pattern) p.pattern, depthOf (p :: ps) + 1, true⟩

/-- Parts one or the other of which is described. -/
def choice : List Part → Part
  | [] => flat empty
  | [p] => p
  | p :: ps =>
    ⟨ps.foldl (fun q r => either q r.pattern) p.pattern, depthOf (p :: ps) + 1, true⟩

end Part

/-! ## Repetitions -/

/-- Reads digits. -/
def countDigits (f : Flags) : Nat → List Char → List Char → List Char × List Char
  | 0, digits, cs => (digits.reverse, cs)
  | fuel + 1, digits, cs =>
    match cs with
    | c :: rest =>
      if c.isDigit then countDigits f fuel (c :: digits) (f.skip rest) else (digits.reverse, cs)
    | [] => (digits.reverse, [])

/-- Reads a number of 32 bits between blanks. -/
def readCount (f : Flags) (cs : List Char) : Option (Nat × List Char) :=
  let (digits, rest) := countDigits f cs.length [] (cs.dropWhile Text.isBlank)
  let n := digits.foldl (fun n c => n * 10 + (c.toNat - 48)) 0
  if digits.isEmpty || UInt32.size ≤ n then none else some (n, rest.dropWhile Text.isBlank)

/-- Reads how often something is repeated, of which the opening brace has been read. -/
def readBounds (f : Flags) (cs : List Char) : Option (Nat × Option Nat × List Char) := do
  let (least, rest) ← readCount f (f.skip cs)
  match rest with
  | '\x7d' :: rest => return (least, some least, rest)
  | ',' :: rest =>
    match f.skip rest with
    | '\x7d' :: rest => return (least, none, rest)
    | rest =>
      let (most, rest) ← readCount f rest
      match rest with
      | '\x7d' :: rest => if least ≤ most then return (least, some most, rest) else failure
      | _ => failure
  | _ => failure

/-- Drops the mark of a repetition that prefers less. -/
def dropLazy : List Char → List Char
  | '?' :: rest => rest
  | cs => cs

/-- Reads how often something is repeated, if that comes next. -/
def readRepetition (f : Flags) : List Char → Option (Nat × Option Nat × List Char)
  | '?' :: rest => some (0, some 1, dropLazy rest)
  | '*' :: rest => some (0, none, dropLazy rest)
  | '+' :: rest => some (1, none, dropLazy rest)
  | '\x7b' :: rest => do
    let (least, most, rest) ← readBounds f rest
    return (least, most, dropLazy (f.skip rest))
  | _ => none

/-- Whether a repetition starts with a character. -/
def startsRepetition (c : Char) : Bool := c = '?' || c = '*' || c = '+' || c = '\x7b'

/-! ## Groups -/

/-- The names that a group may have. -/
def isGroupName : List Char → Bool
  | [] => false
  | c :: cs =>
    (c = '_' || Text.Property.alphabetic.contains c.toNat) &&
      cs.all fun d => d = '_' || d = '.' || d = '[' || d = ']' ||
        Text.Property.alphanumeric.contains d.toNat

/-- The start of a group. -/
inductive Opening where
  | plain
  | named (name : List Char)
  /-- Flags for the group, or with `alone` for what follows them. -/
  | flagged (f : Flags) (alone : Bool)
  deriving DecidableEq, Inhabited, Repr

/-- Reads the start of a group behind the parenthesis. Groups that only look ahead or back are none,
and neither are flags that say nothing. -/
def readOpening (f : Flags) (cs : List Char) : Option (Opening × List Char) :=
  let name := fun (rest : List Char) =>
    match rest.takeWhile (· ≠ '>'), rest.dropWhile (· ≠ '>') with
    | name, _ :: rest => if isGroupName name then some (Opening.named name, rest) else none
    | _, [] => none
  match f.skip cs with
  | '?' :: '=' :: _ | '?' :: '!' :: _ | '?' :: '<' :: '=' :: _ | '?' :: '<' :: '!' :: _ => none
  | '?' :: 'P' :: '<' :: rest | '?' :: '<' :: rest => name rest
  | '?' :: rest =>
    match f.read [] rest with
    | some (g, seen, ')' :: rest) =>
      if seen.isEmpty then none else some (.flagged g true, rest)
    | some (g, _, _ :: rest) => some (.flagged g false, rest)
    | _ => none
  | rest => some (.plain, rest)

/-! ## Whole patterns -/

/-- Reads a part of a pattern other than a group. -/
def readSimple (f : Flags) : List Char → Option (Part × List Char)
  | [] => none
  | '[' :: rest => do
    let (set, depth, rest) ← readClass f (2 * rest.length + 2) rest
    return (⟨one set, depth, true⟩, rest)
  | '\\' :: rest => do
    let (escaped, rest) ← readEscape f rest
    match escaped with
    | .char c twoDigits => return (.flat (one (← f.literal? c twoDigits)), rest)
    | .set set => return (.flat (one set), rest)
    | .anchor a => return (.flat (anchor a), rest)
  | '.' :: rest =>
    if f.ascii then none
    else
      let breaks := if f.dotAll then [] else if f.returns then ['\n', '\r'] else ['\n']
      let set := (spans (breaks.map fun c => (c, c))).complement Text.Ranges.maxCode
      some (.flat (one set), rest)
  | '^' :: rest =>
    some (.flat (anchor (if f.lines then .lineStart f.returns else .textStart)), rest)
  | '$' :: rest =>
    some (.flat (anchor (if f.lines then .lineEnd f.returns else .textEnd)), rest)
  | c :: rest => do return (.flat (one (← f.literal? c false)), rest)

/-- Where a pattern is being read. -/
structure Cursor where
  rest : List Char
  flags : Flags
  /-- The names of the groups that have been opened. -/
  names : List (List Char)
  deriving DecidableEq, Inhabited, Repr

mutual

/-- Reads alternatives up to the end of the group. -/
def readChoice : Nat → Cursor → Option (List Part × Cursor)
  | 0, _ => none
  | fuel + 1, c => do
    let (part, c) ← readRow fuel [] c
    match c.rest with
    | '|' :: rest =>
      let (parts, c) ← readChoice fuel { c with rest }
      return (part :: parts, c)
    | _ => return ([part], c)

/-- Reads one alternative, of which some parts have been read, last first. -/
def readRow : Nat → List Part → Cursor → Option (Part × Cursor)
  | 0, _, _ => none
  | fuel + 1, parts, c =>
    let rest := c.flags.skip c.rest
    let c := { c with rest }
    match rest with
    | [] => some (.row parts.reverse, c)
    | d :: behind =>
      if d = '|' || d = ')' then some (.row parts.reverse, c)
      else if d = '(' then do
        let (part, c) ← readGroup fuel { c with rest := behind }
        readRow fuel (part :: parts) c
      else if startsRepetition d then
        match parts with
        | [] => none
        | last :: before => do
          let (least, most, rest) ← readRepetition c.flags rest
          if !last.repeatable then failure
          readRow fuel (last.around (last.pattern.times least most) :: before) { c with rest }
      else do
        let (part, rest) ← readSimple c.flags rest
        readRow fuel (part :: parts) { c with rest }

/-- Reads a group, of which the parenthesis has been read. The flags before it hold behind it. -/
def readGroup : Nat → Cursor → Option (Part × Cursor)
  | 0, _ => none
  | fuel + 1, c => do
    let (opening, rest) ← readOpening c.flags c.rest
    match opening with
    | .flagged flags true => return (.flags, { c with rest, flags })
    | .flagged flags false => readInside fuel c.flags { c with rest, flags }
    | .named name =>
      if c.names.contains name then failure
      readInside fuel c.flags { c with rest, names := name :: c.names }
    | .plain => readInside fuel c.flags { c with rest }

/-- Reads what is inside a group, and its end. -/
def readInside : Nat → Flags → Cursor → Option (Part × Cursor)
  | 0, _, _ => none
  | fuel + 1, flags, c => do
    let (parts, c) ← readChoice fuel c
    match c.rest with
    | ')' :: rest =>
      let part := Part.choice parts
      return (part.around part.pattern, { c with rest, flags })
    | _ => failure

end

/-- The pattern that a text describes, unless it is not well formed. -/
def ofText? (text : String) : Option Pattern := do
  let cs := text.toList
  let (parts, c) ← readChoice (4 * cs.length + 4) ⟨cs, .none, []⟩
  let part := Part.choice parts
  if c.rest.isEmpty && part.depth ≤ maxDepth then return part.pattern else failure

end Coverage.Pattern
