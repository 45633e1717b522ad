import Coverage.Text.Blank
import Coverage.Text.WordChar

/-!
# Flags of patterns

Flags at a place of a pattern change what its parts stand for. They hold up to the end of the group
that they are set in.
-/

namespace Coverage.Pattern

/-- The flags that hold at a place of a pattern. -/
structure Flags where
  /-- Letters stand for all letters that differ from them in case only. -/
  anyCase : Bool
  /-- Anchors hold at the ends of every line. -/
  lines : Bool
  /-- The dot stands for line breaks too. -/
  dotAll : Bool
  /-- Blanks and comments in the pattern are left out. -/
  spaced : Bool
  /-- Carriage returns end lines too. -/
  returns : Bool
  /-- Classes hold characters of ASCII only. -/
  ascii : Bool
  deriving DecidableEq, Inhabited, Repr

namespace Flags

/-- No flags. -/
def none : Flags := ⟨false, false, false, false, false, false⟩

/-- The flags with one of them set or cleared. -/
def put? (f : Flags) (value : Bool) : Char → Option Flags
  | 'i' => some { f with anyCase := value }
  | 'm' => some { f with lines := value }
  | 's' => some { f with dotAll := value }
  | 'x' => some { f with spaced := value }
  | 'R' => some { f with returns := value }
  | 'u' => some { f with ascii := !value }
  | 'U' => some f
  | _ => .none

/-- The letters of ASCII that differ from members of a set in case only, with the set. -/
def withAsciiCases (s : Text.Ranges) : Text.Ranges :=
  s.union (Text.Ranges.ofList ((List.range 26).flatMap fun n =>
    let (capital, small) := (65 + n, 97 + n)
    if s.contains capital || s.contains small then [capital, small] else []))

/-- A set as it is with flags. -/
def fold (f : Flags) (s : Text.Ranges) : Text.Ranges :=
  if !f.anyCase then s
  else if f.ascii then withAsciiCases s
  else Text.Property.withCases s

/-- A set or what is not in it. In ASCII mode the result has to be a set of characters of ASCII. -/
def finish? (f : Flags) (negated : Bool) (s : Text.Ranges) : Option Text.Ranges :=
  if f.ascii then
    let t := if negated then s.complement 255 else s
    if t.all fun r => r.2 < 128 then some t else .none
  else some (if negated then s.complement Text.Ranges.maxCode else s)

/-- A character by itself. Numbers of two digits beyond ASCII are no characters in ASCII mode. -/
def literal? (f : Flags) (c : Char) (twoDigits : Bool) : Option Text.Ranges :=
  let set : Text.Ranges := [(c.toNat, c.toNat)]
  if f.ascii then
    if c.toNat < 128 then some (f.fold set) else if twoDigits then .none else some set
  else some (f.fold set)

/-- Reads flags up to the colon or the parenthesis behind them, where `seen` have been read; none
may be read twice, and something has to follow the hyphen that clears flags. -/
def read (f : Flags) (seen : List Char) : List Char → Option (Flags × List Char × List Char)
  | [] => .none
  | c :: rest =>
    if c = ':' || c = ')' then
      if seen.head? = some '-' then .none else some (f, seen, c :: rest)
    else if seen.contains c then .none
    else if c = '-' then read f ('-' :: seen) rest
    else do read (← f.put? (!seen.contains '-') c) (c :: seen) rest

end Flags

/-! ## Blanks and comments -/

/-- Drops blanks and comments of a pattern. -/
def dropGaps (inComment : Bool) : List Char → List Char
  | [] => []
  | c :: cs =>
    if inComment then dropGaps (c ≠ '\n') cs
    else if Text.isBlank c then dropGaps false cs
    else if c = '#' then dropGaps true cs
    else c :: cs

/-- Drops blanks and comments of a pattern, if flags leave them out. -/
def Flags.skip (f : Flags) (cs : List Char) : List Char :=
  if f.spaced then dropGaps false cs else cs

end Coverage.Pattern
