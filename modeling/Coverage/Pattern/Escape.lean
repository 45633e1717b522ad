import Coverage.Pattern.Basic
import Coverage.Pattern.Flags

/-!
# Escapes of patterns

Behind a backslash stands a character for itself, the number of a character, a class of characters,
or what is asked of a spot.
-/

namespace Coverage.Pattern

/-- What an escape stands for. -/
inductive Escaped where
  /-- A character, which may be written as a number of two digits. -/
  | char (c : Char) (twoDigits : Bool)
  | set (s : Text.Ranges)
  | anchor (a : Anchor)
  deriving DecidableEq, Inhabited, Repr

/-! ## Numbers of characters -/

/-- The value of a hexadecimal digit. -/
def hexValue? (c : Char) : Option Nat :=
  if '0' ≤ c ∧ c ≤ '9' then some (c.toNat - 48)
  else if 'a' ≤ c ∧ c ≤ 'f' then some (c.toNat - 87)
  else if 'A' ≤ c ∧ c ≤ 'F' then some (c.toNat - 55)
  else none

/-- The character that hexadecimal digits stand for. -/
def hexChar? (digits : List Char) : Option Char := do
  if digits.isEmpty then failure
  let n ← digits.foldlM (fun n c => do return n * 16 + (← hexValue? c)) 0
  if n.isValidChar then return Char.ofNat n else failure

/-- Reads digits up to a closing brace. -/
def bracedHex (f : Flags) : Nat → List Char → List Char → Option (List Char × List Char)
  | 0, _, _ => none
  | fuel + 1, digits, cs =>
    match f.skip cs with
    | [] => none
    | '\x7d' :: rest => some (digits.reverse, f.skip rest)
    | c :: rest => bracedHex f fuel (c :: digits) rest

/-- Reads so many digits. -/
def countedHex (f : Flags) : Nat → List Char → List Char → Option (List Char × List Char)
  | 0, digits, cs => some (digits.reverse, cs)
  | n + 1, digits, cs =>
    match cs with
    | c :: rest => countedHex f n (c :: digits) (f.skip rest)
    | [] => none

/-- Reads the number of a character: so many digits, or any in braces. -/
def readHex (f : Flags) (count : Nat) (cs : List Char) : Option (Escaped × List Char) := do
  match f.skip cs with
  | '\x7b' :: rest =>
    let (digits, rest) ← bracedHex f (rest.length + 1) [] rest
    return (.char (← hexChar? digits) false, rest)
  | cs =>
    let (digits, rest) ← countedHex f count [] cs
    return (.char (← hexChar? digits) (count = 2), rest)

/-! ## Properties -/

/-- Reads the name of a property up to a closing brace. -/
def bracedName (f : Flags) : Nat → List Char → List Char → Option (List Char × List Char)
  | 0, _, _ => none
  | fuel + 1, name, cs =>
    match f.skip cs with
    | [] => none
    | '\x7d' :: rest => some (name.reverse, rest)
    | c :: rest => bracedName f fuel (c :: name) rest

/-- Splits a text at the first place where another text stands. -/
def splitAt? (mark : List Char) (before : List Char) : List Char → Option (List Char × List Char)
  | [] => none
  | c :: cs =>
    if mark.isPrefixOf (c :: cs) then some (before.reverse, (c :: cs).drop mark.length)
    else splitAt? mark (c :: before) cs

/-- The characters that a name stands for, or a name with a value. -/
def propertySet? (text : List Char) : Option Text.Ranges :=
  let split := ((splitAt? ['!', '='] [] text).or (splitAt? [':'] [] text)).or
    (splitAt? ['='] [] text)
  match split with
  | some (name, value) => Text.Property.valued? name value
  | none => Text.Property.named? text

/-- Reads a property. -/
def readProperty (f : Flags) (negated : Bool) (cs : List Char) :
    Option (Escaped × List Char) := do
  if f.ascii then failure
  let (name, rest) ← match f.skip cs with
    | [] => none
    | '\x7b' :: rest => bracedName f (rest.length + 1) [] rest
    | c :: rest => if c = '\\' then none else some ([c], f.skip rest)
  return (.set (← f.finish? negated (f.fold (← propertySet? name))), rest)

/-! ## Classes and anchors -/

/-- The class that a letter behind a backslash stands for. -/
def letterClass? (f : Flags) (c : Char) : Option Text.Ranges :=
  match c.toLower with
  | 'd' => some (if f.ascii then [(48, 57)] else Text.Property.digits)
  | 's' => some (if f.ascii then [(9, 13), (32, 32)] else Text.Property.blanks)
  | 'w' =>
    some (if f.ascii then [(48, 57), (65, 90), (95, 95), (97, 122)] else Text.Property.words)
  | _ => none

/-- What a letter behind a backslash asks of a spot. -/
def letterAnchor? (f : Flags) (c : Char) : Option Anchor :=
  match c with
  | 'A' => some .textStart
  | 'z' => some .textEnd
  | 'b' => some (.word f.ascii .boundary)
  | 'B' => some (.word f.ascii .noBoundary)
  | '<' => some (.word f.ascii .start)
  | '>' => some (.word f.ascii .stop)
  | _ => none

/-- The character that a character behind a backslash stands for. A letter or a digit stands for
itself never, and any other character of ASCII always. -/
def escapedChar? (c : Char) : Option Char :=
  match c with
  | 'n' => some '\n'
  | 't' => some '\t'
  | 'r' => some '\r'
  | 'f' => some '\x0c'
  | 'v' => some '\x0b'
  | 'a' => some '\x07'
  | _ => if c.toNat < 128 ∧ !c.isAlphanum then some c else none

/-- What is asked of the words around a spot by its name. -/
def wordAnchor? (name : List Char) : Option WordAnchor :=
  match String.ofList name with
  | "start" => some .start
  | "end" => some .stop
  | "start-half" => some .startHalf
  | "end-half" => some .stopHalf
  | _ => none

/-- Reads the letters and hyphens of a name. -/
def anchorName (f : Flags) : Nat → List Char → List Char → List Char × List Char
  | 0, name, cs => (name.reverse, cs)
  | fuel + 1, name, cs =>
    match cs with
    | c :: rest =>
      if c.isAlpha || c = '-' then anchorName f fuel (c :: name) (f.skip rest)
      else (name.reverse, cs)
    | [] => (name.reverse, [])

/-- Reads the name in braces that a word boundary may have. Braces around something else are none
of its own. -/
def readBoundary (f : Flags) (cs : List Char) : Option (Escaped × List Char) :=
  let plain := Escaped.anchor (.word f.ascii .boundary)
  match cs with
  | '\x7b' :: rest =>
    match f.skip rest with
    | [] => none
    | c :: more =>
      if c.isAlpha || c = '-' then do
        let (name, rest) := anchorName f (more.length + 1) [] (c :: more)
        match rest with
        | '\x7d' :: rest => return (.anchor (.word f.ascii (← wordAnchor? name)), rest)
        | _ => failure
      else some (plain, cs)
  | _ => some (plain, cs)

/-- Reads what stands behind a backslash. -/
def readEscape (f : Flags) : List Char → Option (Escaped × List Char)
  | [] => none
  | c :: rest =>
    if c = 'x' then readHex f 2 rest
    else if c = 'u' then readHex f 4 rest
    else if c = 'U' then readHex f 8 rest
    else if c = 'p' || c = 'P' then readProperty f (c = 'P') rest
    else if c = 'b' then readBoundary f rest
    else match letterClass? f c, letterAnchor? f c with
      | some set, _ => do return (.set (← f.finish? c.isUpper set), rest)
      | none, some a => some (.anchor a, rest)
      | none, none => (escapedChar? c).map fun d => (.char d false, rest)

end Coverage.Pattern
