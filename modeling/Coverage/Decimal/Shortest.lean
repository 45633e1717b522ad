import Coverage.Decimal.Binary64

/-!
# The shortest decimal that reads back

A binary64 value is written with the fewest digits that identify it: of all decimals in the
interval of reals that round to the value, one with the fewest digits, and of those the nearest.
The two texts that are needed differ only in where they place the point.
-/

namespace Coverage.Decimal

/-- Digits and a power of ten, for the value `digits * 10 ^ exponent`. -/
structure Scientific where
  digits : Nat
  exponent : Int
  deriving DecidableEq, Inhabited, Repr

/-- The reals that round to a binary64 value: a centre and the two ends, all as multiples of one
quotient, and whether the ends belong to it. -/
structure Interval where
  low : Nat
  centre : Nat
  high : Nat
  /-- The quotient, as numerator and denominator. -/
  unit : Nat × Nat
  closed : Bool

namespace Binary64

/-- The reals that round to a positive value. The gap below a power of two is half the gap above
it. -/
def interval (x : Binary64) : Interval :=
  let e := x.exponent - 2
  let unit := if 0 ≤ e then (Nat.pow 2 e.toNat, 1) else (1, Nat.pow 2 (-e).toNat)
  let below := if x.mantissa = Nat.pow 2 52 ∧ minExponent < x.exponent then 1 else 2
  { low := 4 * x.mantissa - below, centre := 4 * x.mantissa, high := 4 * x.mantissa + 2,
    unit, closed := x.mantissa % 2 = 0 }

end Binary64

/-- How many decimal places a quotient below one has before its first digit that is not zero. -/
def leadingPlaces : Nat → Nat → Nat → Nat
  | 0, _, _ => 0
  | fuel + 1, n, d => if d ≤ n then 0 else leadingPlaces fuel (10 * n) d + 1

/-- The power of ten just above a positive quotient: `10 ^ (p - 1) ≤ n / d < 10 ^ p`. -/
def decimalMagnitude (n d : Nat) : Int :=
  if d ≤ n then ((Nat.toDigits 10 (n / d)).length : Int)
  else 1 - (leadingPlaces 400 n d : Int)

namespace Interval

/-- The decimal `digits * 10 ^ k` and the multiple `x` of the unit, over one denominator. -/
def scaled (i : Interval) (digits : Nat) (k : Int) (x : Nat) : Nat × Nat :=
  if 0 ≤ k then (digits * Nat.pow 10 k.toNat * i.unit.2, x * i.unit.1)
  else (digits * i.unit.2, x * i.unit.1 * Nat.pow 10 (-k).toNat)

/-- Whether the decimal `digits * 10 ^ k` lies in the interval. -/
def holds (i : Interval) (k : Int) (digits : Nat) : Bool :=
  let (a, low) := i.scaled digits k i.low
  let (b, high) := i.scaled digits k i.high
  if i.closed then low ≤ a && b ≤ high else low < a && b < high

/-- The distance of the decimal `digits * 10 ^ k` from the centre, over a common denominator. -/
def distance (i : Interval) (k : Int) (digits : Nat) : Nat :=
  let (a, centre) := i.scaled digits k i.centre
  (a - centre) + (centre - a)

/-- The neighbour of the centre on the grid of multiples of `10 ^ k` that lies in the interval,
the nearer one where both do. -/
def onGrid (i : Interval) (k : Int) : Option Nat :=
  let (one, centre) := i.scaled 1 k i.centre
  let q := centre / one
  match i.holds k q, i.holds k (q + 1) with
  | true, true => if i.distance k (q + 1) < i.distance k q then some (q + 1) else some q
  | true, false => some q
  | false, true => some (q + 1)
  | false, false => none

/-- The first grid that has a decimal in the interval, from `count` digits on. -/
def firstGrid (i : Interval) (magnitude : Int) : Nat → Nat → Scientific
  | 0, count => ⟨i.centre, magnitude - count⟩
  | fuel + 1, count =>
    match i.onGrid (magnitude - count) with
    | some digits => ⟨digits, magnitude - count⟩
    | none => firstGrid i magnitude fuel (count + 1)

end Interval

/-- Moves trailing zeros of the digits into the power of ten. -/
def stripZeros : Nat → Scientific → Scientific
  | 0, s => s
  | fuel + 1, s =>
    if s.digits ≠ 0 ∧ s.digits % 10 = 0 then stripZeros fuel ⟨s.digits / 10, s.exponent + 1⟩ else s

/-- The shortest decimal of a positive value. -/
def Binary64.shortest (x : Binary64) : Scientific :=
  let (n, d) := x.ratio
  stripZeros 20 (x.interval.firstGrid (decimalMagnitude n d) 17 1)

/-- A run of zeros. -/
def zeros (n : Nat) : String := String.ofList (List.replicate n '0')

/-- Digits with a point so many places from the left; a point past the digits is reached with
zeros, and what follows it is `whole` then. -/
def pointAt (digits : String) (place : Int) (whole : String) : String :=
  let n := digits.length
  if (n : Int) ≤ place then digits ++ zeros (place.toNat - n) ++ whole
  else if 0 < place then
    String.ofList (digits.toList.take place.toNat) ++ "." ++
      String.ofList (digits.toList.drop place.toNat)
  else "0." ++ zeros (-place).toNat ++ digits

/-- The text of a value in positional notation; a whole number has no point. -/
def Binary64.plainText (x : Binary64) : String :=
  let sign := if x.negative then "-" else ""
  if x.mantissa = 0 then sign ++ "0"
  else
    let s := x.shortest
    let digits := toString s.digits
    sign ++ pointAt digits ((digits.length : Int) + s.exponent) ""

/-- The text of a value in a document: positional with the point between the fifth place after
it and the sixteenth before it, with an exponent otherwise. A whole number ends in `.0`. -/
def Binary64.documentText (x : Binary64) : String :=
  let sign := if x.negative then "-" else ""
  if x.mantissa = 0 then sign ++ "0.0"
  else
    let s := x.shortest
    let digits := toString s.digits
    let place := (digits.length : Int) + s.exponent
    if -5 < place ∧ place ≤ 16 then sign ++ pointAt digits place ".0"
    else
      let head := String.ofList (digits.toList.take 1)
      let tail := String.ofList (digits.toList.drop 1)
      sign ++ (if tail.isEmpty then head else head ++ "." ++ tail) ++ "e" ++ toString (place - 1)

end Coverage.Decimal
