import Coverage.Text.WordChar

/-!
# Patterns of texts

A pattern describes stretches of a text; a text matches where the pattern describes a stretch of it
anywhere. A spot is a place between characters, and a set of spots is a number with a bit for each
of them. A pattern is run on a whole set of spots at once: it leads from the spots where described
stretches may start to those where they may end.

The main statement is `Pattern.matchesText_empty`: the empty pattern matches every text.
-/

namespace Coverage

/-- What can be asked of the words around a spot. -/
inductive WordAnchor where
  | boundary
  | noBoundary
  | start
  | stop
  /-- No word goes on before the spot. -/
  | startHalf
  /-- No word goes on behind the spot. -/
  | stopHalf
  deriving DecidableEq, Inhabited, Repr

/-- What a pattern can ask of a spot. -/
inductive Anchor where
  | textStart
  | textEnd
  /-- The start of a line; with `returns`, carriage returns end lines too. -/
  | lineStart (returns : Bool)
  /-- The end of a line; with `returns`, carriage returns end lines too. -/
  | lineEnd (returns : Bool)
  /-- Something of words, or with `ascii` of words in ASCII only. -/
  | word (ascii : Bool) (a : WordAnchor)
  deriving DecidableEq, Inhabited, Repr

/-- A description of stretches of a text. -/
inductive Pattern where
  | empty
  /-- A character of a set. -/
  | one (set : Text.Ranges)
  | anchor (a : Anchor)
  | seq (p q : Pattern)
  | either (p q : Pattern)
  /-- So many stretches, one behind the other. -/
  | repeated (p : Pattern) (least : Nat) (most : Option Nat)
  deriving DecidableEq, Inhabited, Repr

/-! ## Spots -/

/-- A set of spots of a text. -/
abbrev Spots := Nat

namespace Spots

/-- The spots that satisfy `p`, which is asked with the character before a spot and with the text
behind it. -/
def filter (p : Option Char → List Char → Bool) : Option Char → List Char → Spots
  | before, [] => if p before [] then 1 else 0
  | before, c :: cs => 2 * filter p (some c) cs + if p before (c :: cs) then 1 else 0

/-- All spots of a text. -/
def all (text : List Char) : Spots := filter (fun _ _ => true) none text

end Spots

/-- Whether there is a character of a word. -/
def inWord (ascii : Bool) : Option Char → Bool
  | some c => Text.isWordChar c && (!ascii || c.toNat < 128)
  | none => false

/-- Whether the words before and behind a spot are what an anchor asks for. -/
def WordAnchor.holds (before behind : Bool) : WordAnchor → Bool
  | boundary => before != behind
  | noBoundary => before == behind
  | start => !before && behind
  | stop => before && !behind
  | startHalf => !before
  | stopHalf => !behind

/-- Whether a spot is what an anchor asks for. -/
def Anchor.holds (before : Option Char) (rest : List Char) : Anchor → Bool
  | textStart => before.isNone
  | textEnd => rest.isEmpty
  | lineStart returns =>
    before.isNone || before = some '\n' ||
      (returns && before = some '\r' && rest.head? ≠ some '\n')
  | lineEnd returns =>
    rest.isEmpty ||
      if returns then
        rest.head? = some '\r' || (rest.head? = some '\n' && before ≠ some '\r')
      else rest.head? = some '\n'
  | word ascii a => a.holds (inWord ascii before) (inWord ascii rest.head?)

/-! ## Running a pattern -/

/-- A pattern with the spots of a text where its parts can hold. -/
inductive Located where
  /-- Stays at spots of a set. -/
  | stay (spots : Spots)
  /-- Moves over the character behind spots of a set. -/
  | step (spots : Spots)
  | seq (p q : Located)
  | either (p q : Located)
  | repeated (p : Located) (least most : Nat)
  deriving Inhabited

/-- Applies a function so many times, or until it changes nothing. -/
def applyTimes (f : Spots → Spots) : Nat → Spots → Spots
  | 0, s => s
  | n + 1, s =>
    let t := f s
    if t = s then s else applyTimes f n t

namespace Located

/-- Where stretches that start at spots of a set may end. -/
def ends : Located → Spots → Spots
  | stay spots, s => s &&& spots
  | step spots, s => (s &&& spots) <<< 1
  | seq p q, s => q.ends (p.ends s)
  | either p q, s => p.ends s ||| q.ends s
  | repeated p least most, s =>
    applyTimes (fun t => t ||| p.ends t) (most - least) (applyTimes p.ends least s)

end Located

namespace Pattern

/-- Whether the character behind a spot is in a set. -/
def startsIn (set : Text.Ranges) (rest : List Char) : Bool :=
  match rest with
  | c :: _ => set.contains c.toNat
  | [] => false

/-- A pattern with the spots of a text where its parts can hold. Stretches one behind the other
lead to new spots for no longer than the text is. -/
def locate (text : List Char) : Pattern → Located
  | empty => .stay (Spots.all text)
  | one set => .step (Spots.filter (fun _ rest => startsIn set rest) none text)
  | anchor a => .stay (Spots.filter (fun before rest => a.holds before rest) none text)
  | seq p q => .seq (p.locate text) (q.locate text)
  | either p q => .either (p.locate text) (q.locate text)
  | repeated p least most =>
    .repeated (p.locate text) least (most.getD (least + text.length + 1))

/-- Whether a text matches a pattern. -/
def matchesText (p : Pattern) (text : String) : Bool :=
  let cs := text.toList
  (p.locate cs).ends (Spots.all cs) ≠ 0

/-- The empty pattern matches every text. -/
@[simp] theorem matchesText_empty (text : String) : empty.matchesText text = true := by
  unfold matchesText
  have : Spots.all text.toList ≠ 0 := by
    cases text.toList <;> simp [Spots.all, Spots.filter]
  simp [locate, Located.ends, this]

/-- Whether a pattern describes stretches without characters only. -/
def isBare : Pattern → Bool
  | empty | anchor _ => true
  | one _ => false
  | seq p q | either p q => p.isBare && q.isBare
  | repeated p _ most => p.isBare || most = some 0

/-- A pattern repeated; more than once makes no difference to one without characters. -/
def times (p : Pattern) (least : Nat) (most : Option Nat) : Pattern :=
  let (least, most) :=
    if p.isBare then (min least 1, some (min (most.getD 1) 1)) else (least, most)
  if most = some 0 then empty
  else if least = 1 && most = some 1 then p
  else repeated p least most

end Pattern

end Coverage
