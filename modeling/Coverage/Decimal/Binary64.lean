/-!
# Binary floating point in exact arithmetic

Percentages and JSON numbers with a fraction are binary64 values. They are kept as a sign, a
mantissa of at most 53 bits and a power of two, and every operation rounds an exact quotient of
natural numbers to the nearest such value, a tie going to the even mantissa. Nothing here rests
on the machine's own floating point, so each result can be computed and reasoned about.

Only finite values occur: an operation whose result is too large has none.
-/

namespace Coverage.Decimal

/-- The quotient `n / d` rounded to the nearest natural number, a tie to the even one. -/
def roundDiv (n d : Nat) : Nat :=
  let q := n / d
  let r := n % d
  if 2 * r < d then q else if d < 2 * r then q + 1 else q + q % 2

theorem roundDiv_mul (k d : Nat) (h : 0 < d) : roundDiv (k * d) d = k := by
  simp [roundDiv, Nat.mul_div_cancel _ h, h]

/-- A finite binary64 value, `mantissa * 2 ^ exponent` with a sign. -/
structure Binary64 where
  negative : Bool
  mantissa : Nat
  exponent : Int
  deriving DecidableEq, Inhabited, Repr

namespace Binary64

/-- The least exponent of a binary64 value. -/
def minExponent : Int := -1074

/-- The greatest exponent of a binary64 value. -/
def maxExponent : Int := 971

/-- Zero without a sign. -/
def zero : Binary64 := ⟨false, 0, minExponent⟩

/-- The magnitude of a value as a quotient of natural numbers. -/
def ratio (x : Binary64) : Nat × Nat :=
  if 0 ≤ x.exponent then (x.mantissa * Nat.pow 2 x.exponent.toNat, 1)
  else (x.mantissa, Nat.pow 2 (-x.exponent).toNat)

/-- The quotient `n / (d * 2 ^ e)`, rounded. -/
def scaledRound (n d : Nat) (e : Int) : Nat :=
  if 0 ≤ e then roundDiv n (d * Nat.pow 2 e.toNat) else roundDiv (n * Nat.pow 2 (-e).toNat) d

/-- Whether `n / d` is less than `2 ^ e`. -/
def ratioBelow (n d : Nat) (e : Int) : Bool :=
  if 0 ≤ e then n < d * Nat.pow 2 e.toNat else n * Nat.pow 2 (-e).toNat < d

/-- The binary64 value nearest to `n / d`, unless that is out of range. -/
def ofRatio? (n d : Nat) : Option Binary64 :=
  if n = 0 then some zero
  else
    let guess : Int := (Nat.log2 n : Int) - (Nat.log2 d : Int) - 52
    let fitted := if ratioBelow n d (guess + 52) then guess - 1 else guess
    let e := max minExponent fitted
    let m := scaledRound n d e
    let (m, e) := if m = Nat.pow 2 53 then (Nat.pow 2 52, e + 1) else (m, e)
    if maxExponent < e then none else some ⟨false, m, e⟩

/-- The binary64 value nearest to a natural number, zero where that is out of range. -/
def ofNat (n : Nat) : Binary64 := (ofRatio? n 1).getD zero

/-- The value with the other sign. -/
def negate (x : Binary64) : Binary64 := { x with negative := !x.negative }

/-- The rounded product of two magnitudes. -/
def mul? (x y : Binary64) : Option Binary64 :=
  let (n, d) := x.ratio
  let (n', d') := y.ratio
  ofRatio? (n * n') (d * d')

/-- The rounded quotient of two magnitudes; a zero divisor has none. -/
def div? (x y : Binary64) : Option Binary64 :=
  let (n, d) := x.ratio
  let (n', d') := y.ratio
  if n' = 0 then none else ofRatio? (n * d') (d * n')

/-- Whether a value is a whole number. -/
def isWhole (x : Binary64) : Bool := x.ratio.1 % x.ratio.2 = 0

/-- A value cut off to a whole number, toward zero. -/
def truncate (x : Binary64) : Int :=
  let n : Int := (x.ratio.1 / x.ratio.2 : Nat)
  if x.negative then -n else n

/-- The value nearest to a power of ten with exponent at most 308. -/
def powerOfTen (k : Nat) : Binary64 := ofNat (Nat.pow 10 k)

/-- Scales a magnitude by `10 ^ exponent`, dividing by the greatest power of ten that has a value
as often as the exponent calls for it. A result out of range has none. -/
def scaleByTen? : Nat → Binary64 → Int → Option Binary64
  | 0, x, _ => some x
  | fuel + 1, x, exponent =>
    if exponent.natAbs ≤ 308 then
      if 0 ≤ exponent then x.mul? (powerOfTen exponent.toNat)
      else x.div? (powerOfTen exponent.natAbs)
    else if x.mantissa = 0 then some x
    else if 0 ≤ exponent then none
    else do scaleByTen? fuel (← x.div? (powerOfTen 308)) (exponent + 308)

/-- The value of `significand * 10 ^ exponent`, rounded once to read the significand and once per
scaling step. -/
def ofDecimal? (significand : Nat) (exponent : Int) : Option Binary64 :=
  scaleByTen? (exponent.natAbs / 308 + 1) (ofNat significand) exponent

end Binary64

end Coverage.Decimal
