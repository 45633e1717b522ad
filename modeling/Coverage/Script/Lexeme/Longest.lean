import Coverage.Script.Lexeme.Table

/-!
# The longest lexeme

A mode of the lexer is a set of lexemes. All of them are matched at once, and the longest that ends
somewhere is taken; a lexeme that has ended is only given up for a longer one that is not weaker.
Blanks may stand before every lexeme that does not adjoin the token before.
-/

namespace Coverage.Script

/-- A lexeme of which a part has been read. -/
structure Candidate where
  lexeme : Lexeme
  /-- What is left of its form. -/
  form : Form
  deriving Inhabited

namespace Candidate

/-- The candidate behind another character, unless that rules it out. -/
def after (c : Char) (k : Candidate) : Option Candidate :=
  let form := k.form.after c
  if form.isNothing then none else some { k with form }

/-- Whether one lexeme is taken rather than another. -/
def goesBefore (a b : Lexeme) : Bool :=
  if a.strength ≠ b.strength then b.strength < a.strength
  else if a.rank ≠ b.rank then b.rank < a.rank
  else a.symbol < b.symbol

/-- The lexeme that ends here. -/
def ended (ks : List Candidate) : Option Lexeme :=
  ks.foldl (fun best k =>
    if k.form.matchesEmpty then
      match best with
      | some b => if goesBefore k.lexeme b then some k.lexeme else best
      | none => some k.lexeme
    else best) none

/-- Whether reading goes on behind the end of a lexeme: with these candidates, and with more blanks
if `blank` is set. Blanks could go on here if `fresh` is set. -/
def goesOn (lexeme : Lexeme) (next : List Candidate) (fresh blank : Bool) : Bool :=
  let strengths := next.map (·.lexeme.strength) ++ if blank then [0] else []
  match strengths.max? with
  | none => false
  | some strength =>
    if strength = lexeme.strength then
      !next.isEmpty && (!fresh || next.any fun k => k.lexeme.symbol = lexeme.symbol)
    else lexeme.strength < strength

end Candidate

/-- A set of lexemes that are looked for together. -/
structure Mode where
  /-- The lexemes that blanks may stand before. -/
  fresh : List Candidate
  /-- The lexemes that adjoin the token before. -/
  adjoining : List Candidate
  /-- Whether the end of the text is looked for. -/
  atEnd : Bool
  /-- What is left of the lexemes in `fresh` behind each character of ASCII. -/
  behindAscii : Array (List Candidate)
  deriving Inhabited

namespace Mode

/-- The mode that looks for a set of tokens. -/
def ofSymbols (symbols : List Symbol) : Mode :=
  let lexemes := symbols.filterMap Lexeme.ofSymbol?
  let fresh := (lexemes.filter fun l => !l.adjoins).map fun l => ⟨l, l.form⟩
  { fresh
    adjoining := (lexemes.filter fun l => l.adjoins).map fun l => ⟨l, l.form⟩
    atEnd := symbols.contains Symbol.endOfText
    behindAscii := (Array.range 128).map fun n => fresh.filterMap (Candidate.after (Char.ofNat n)) }

/-- The lexemes that start with a character behind blanks. -/
def startingWith (m : Mode) (c : Char) : List Candidate :=
  match m.behindAscii[c.toNat]? with
  | some ks => ks
  | none => m.fresh.filterMap (Candidate.after c)

end Mode

/-- A token in a text, with its place counted in characters from where the look for it started. -/
structure Found where
  symbol : Symbol
  start : Nat
  stop : Nat
  deriving DecidableEq, Inhabited, Repr

/-- The result of a look for a lexeme. -/
structure Scan where
  found : Option Found
  /-- The place behind the blanks. -/
  start : Nat
  /-- How far the text was read. -/
  reached : Nat
  deriving DecidableEq, Inhabited, Repr

/-- How far a look for a lexeme has come. -/
structure ScanState where
  /-- Whether a lexeme may still start behind more blanks. -/
  fresh : Bool
  /-- Whether nothing but blanks was read. -/
  blank : Bool
  candidates : List Candidate
  /-- The place behind the blanks. -/
  start : Nat
  place : Nat
  found : Option Found

/-- Goes on with a look for a lexeme. -/
def scanFrom (m : Mode) (s : ScanState) : List Char → Scan
  | [] =>
    let found := match Candidate.ended s.candidates with
      | some l => some ⟨l.symbol, s.start, s.place⟩
      | none => s.found
    if s.fresh && s.blank && m.atEnd then
      ⟨some ⟨Symbol.endOfText, s.place, s.place⟩, s.place, s.place⟩
    else ⟨found, s.start, s.place⟩
  | c :: cs =>
    let ended := Candidate.ended s.candidates
    let found := match ended with
      | some l => some ⟨l.symbol, s.start, s.place⟩
      | none => s.found
    let next := s.candidates.filterMap (Candidate.after c) ++
      if s.fresh then m.startingWith c else []
    let fresh := s.fresh && isBlank c
    let on := match ended with
      | some l => Candidate.goesOn l next s.fresh fresh
      | none => fresh || !next.isEmpty
    if on && c ≠ '\x00' then
      scanFrom m
        { fresh
          blank := s.blank && next.isEmpty
          candidates := next
          start := if next.isEmpty then s.place + 1 else s.start
          place := s.place + 1
          found }
        cs
    else ⟨found, s.start, s.place⟩

/-- Looks for the longest lexeme at the start of a text. -/
def Mode.scan (m : Mode) (cs : List Char) : Scan :=
  scanFrom m ⟨!m.fresh.isEmpty, true, m.adjoining, 0, 0, none⟩ cs

end Coverage.Script
