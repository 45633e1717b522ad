import Coverage.Script.Lexeme.CharClass

/-!
# Where a statement may end without a semicolon

A statement ends without a semicolon at the end of the text, before a closing brace, and at a line
break before anything that could not go on with the statement. What lies between the statement and
the next token is looked through once; a comment that leaves the question open is read as a token
of its own, and the question is asked again behind it. A NUL counts as the end of the text.
-/

namespace Coverage.Script

/-- A place that a look ahead has come to. -/
structure Spot where
  /-- The text from there on. -/
  rest : List Char
  /-- The number of characters that were passed. -/
  passed : Nat
  deriving DecidableEq, Inhabited, Repr

namespace Spot

/-- The place some characters further on. -/
def skip (n : Nat) (s : Spot) : Spot := ⟨s.rest.drop n, s.passed + n⟩

/-- The place behind the characters that satisfy `p`. -/
def skipWhile (p : Char → Bool) (s : Spot) : Spot := s.skip (s.rest.takeWhile p).length

/-- The character at a place, up to the end of the text. -/
def next? (s : Spot) : Option Char :=
  match s.rest with
  | c :: _ => if c = '\x00' then none else some c
  | [] => none

end Spot

/-- What a look past blanks and comments met. -/
inductive Gap where
  /-- A slash that starts no comment. -/
  | slash
  /-- A comment on one line, with something other than a slash behind it. -/
  | sameLine
  /-- Something else, or a comment with a line break in it. -/
  | passed
  deriving DecidableEq, Inhabited, Repr

/-- The result of a look past blanks and comments. -/
structure GapEnd where
  gap : Gap
  spot : Spot
  /-- Whether a comment was passed. -/
  commented : Bool
  deriving Inhabited

/-- Looks past the rest of a comment that ends with a star and a slash: what lies behind it,
whether a line break was met, and whether the comment has an end. -/
def passBlockComment (lineBreak : Bool) (passed : Nat) : List Char → Spot × Bool × Bool
  | '*' :: '/' :: rest => (⟨rest, passed + 2⟩, lineBreak, true)
  | c :: cs =>
    if c = '\x00' then (⟨c :: cs, passed⟩, lineBreak, false)
    else passBlockComment (lineBreak || isLineEnd c) (passed + 1) cs
  | [] => (⟨[], passed⟩, lineBreak, false)

/-- Looks past blanks and at most `fuel` comments. Unless `thorough` is set, the look ends behind a
comment of the kind that can stand within a line. -/
def passGap (thorough : Bool) : Nat → Bool → Bool → Spot → GapEnd
  | 0, _, commented, s => ⟨.passed, s, commented⟩
  | fuel + 1, lineBreak, commented, s =>
    let s := s.skipWhile isPlainBlank
    match s.rest with
    | '/' :: '/' :: _ =>
      passGap thorough fuel lineBreak true
        ((s.skip 2).skipWhile fun c => !isLineEnd c && c ≠ '\x00')
    | '/' :: '*' :: rest =>
      let (s, lineBreak, closed) := passBlockComment lineBreak (s.passed + 2) rest
      if closed && !thorough && s.rest.head? ≠ some '/' then
        ⟨if lineBreak then .passed else .sameLine, s, true⟩
      else passGap thorough fuel lineBreak (commented || closed) s
    | '/' :: _ => ⟨.slash, s.skip 1, commented⟩
    | _ => ⟨.passed, s, commented⟩

/-- The answer of a look for the end of a statement. -/
inductive EndLook where
  | ends
  /-- The statement goes on; the look came to a place, perhaps past comments. -/
  | goesOn (spot : Spot) (commented : Bool)
  deriving DecidableEq, Inhabited, Repr

/-- The characters that always go on with the statement of the line before. -/
def continuing : List Char := "\x60,:;*%><=[(?^|&/".toList

/-- The length of the keyword at the start of a text that goes on with the statement of the line
before. -/
def continuingWord? (cs : List Char) : Option Nat :=
  let endsAt := fun n => !(match cs.drop n with | c :: _ => isAsciiLetter c | [] => false)
  if "in".toList.isPrefixOf cs && endsAt 2 then some 2
  else if "instanceof".toList.isPrefixOf cs && endsAt 10 then some 10
  else none

/-- How many characters of what stands on a new line show that it goes on with the statement of the
line before. -/
def continuation? : List Char → Option Nat
  | [] => none
  | c :: cs =>
    let digit := match cs with | d :: _ => isDigit d | [] => false
    if continuing.contains c then some 0
    else if c = '.' then if digit then none else some 1
    else if c = '+' || c = '-' then if cs.head? = some c then none else some 1
    else if c = '!' then if cs.head? = some '=' then some 1 else none
    else continuingWord? (c :: cs)

/-- Looks for the end of a statement behind a line break. -/
def lookBehindBreak (fuel : Nat) (commented : Bool) (s : Spot) : EndLook :=
  let g := passGap true fuel false commented s
  if g.gap = .slash then .goesOn g.spot g.commented
  else match continuation? g.spot.rest with
    | some n => .goesOn (g.spot.skip n) g.commented
    | none => .ends

/-- Looks for the end of a statement in at most `fuel` characters. Where no operand stands before, a
comment with a line break in it settles the question. -/
def lookForEnd (afterOperand : Bool) : Nat → Bool → Spot → EndLook
  | 0, commented, s => .goesOn s commented
  | fuel + 1, commented, s =>
    match s.next? with
    | none => .ends
    | some '/' =>
      let g := passGap false (fuel + 1) false commented s
      if g.gap = .slash then .goesOn g.spot g.commented
      else
        let next := g.spot.next?
        if g.gap = .passed && !afterOperand && next ≠ some ',' && next ≠ some '=' then .ends
        else behindComment fuel g.commented g.spot
    | some _ => behindComment fuel commented s
where
  /-- Goes on with the look at a character that starts no comment. -/
  behindComment (fuel : Nat) (commented : Bool) (s : Spot) : EndLook :=
    match s.next? with
    | none => .goesOn s commented
    | some c =>
      if c = '\x7d' then .ends
      else if isLineEnd c then lookBehindBreak (fuel + 1) commented (s.skip 1)
      else if isPlainBlank c then lookForEnd afterOperand fuel commented (s.skip 1)
      else .goesOn s commented

/-- Whether a text starts with a question mark that starts a choice of two values: not one of a
pair, and not one that makes a chain with the point behind it. -/
def startsChoice : List Char → Bool
  | '?' :: '?' :: _ => false
  | '?' :: '.' :: d :: _ => isDigit d
  | '?' :: '.' :: [] => false
  | '?' :: _ => true
  | _ => false

end Coverage.Script
