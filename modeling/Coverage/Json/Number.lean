import Coverage.Json.Error

/-!
# Reading numbers

A number is scanned into the pieces of its text first and given a value afterwards, because a
reader that skips a number never asks for its value. A whole number that fits 64 bits is kept as
it is. Any other is read as a binary64 value from as many leading digits as fit 64 bits and a
power of ten.
-/

namespace Coverage.Json

open Coverage.Decimal (Binary64)

/-- What is wrong at one place of a document: for a reader that wants the value there, and for
one that skips it. -/
structure Fault where
  wanted : Error
  skipped : Error
  deriving DecidableEq, Inhabited, Repr

/-- The same fault for every reader. -/
def Fault.both (e : Error) : Fault := ⟨e, e⟩

/-- The pieces of a number's text. -/
structure NumberText where
  negative : Bool
  whole : List Char
  /-- The digits behind the point, where there is one. -/
  fraction : Option (List Char)
  /-- The exponent's sign (true for minus) and digits, where there is one. -/
  exponent : Option (Bool × List Char)
  deriving DecidableEq, Inhabited, Repr

namespace NumberText

/-- Digits of an exponent and what follows them. -/
def scanExponent (cs : List Char) : Except Fault (Option (Bool × List Char) × List Char) :=
  let (negative, cs) := match cs with
    | '+' :: rest => (false, rest)
    | '-' :: rest => (true, rest)
    | _ => (false, cs)
  match cs with
  | [] => .error ⟨.endInValue, .invalidNumber⟩
  | c :: _ =>
    if c.isDigit then .ok (some (negative, cs.takeWhile Char.isDigit), cs.dropWhile Char.isDigit)
    else .error (.both .invalidNumber)

/-- An exponent, if one follows. -/
def scanExponent? (cs : List Char) : Except Fault (Option (Bool × List Char) × List Char) :=
  match cs with
  | 'e' :: rest | 'E' :: rest => scanExponent rest
  | _ => .ok (none, cs)

/-- A point and digits, if they follow. -/
def scanFraction? (cs : List Char) : Except Fault (Option (List Char) × List Char) :=
  match cs with
  | '.' :: rest =>
    match rest with
    | [] => .error ⟨.endInValue, .invalidNumber⟩
    | c :: _ =>
      if c.isDigit then .ok (some (rest.takeWhile Char.isDigit), rest.dropWhile Char.isDigit)
      else .error (.both .invalidNumber)
  | _ => .ok (none, cs)

/-- The digits before the point: a single zero, or digits that do not start with one. -/
def scanWhole (cs : List Char) : Except Fault (List Char × List Char) :=
  match cs with
  | [] => .error ⟨.endInValue, .invalidNumber⟩
  | '0' :: rest =>
    match rest with
    | c :: _ => if c.isDigit then .error (.both .invalidNumber) else .ok (['0'], rest)
    | [] => .ok (['0'], [])
  | c :: _ =>
    if c.isDigit then .ok (cs.takeWhile Char.isDigit, cs.dropWhile Char.isDigit)
    else .error (.both .invalidNumber)

/-- The pieces of the number at the start of `cs` and what follows it. -/
def scan (cs : List Char) : Except Fault (NumberText × List Char) := do
  let (negative, cs) := match cs with
    | '-' :: rest => (true, rest)
    | _ => (false, cs)
  let (whole, cs) ← scanWhole cs
  let (fraction, cs) ← scanFraction? cs
  let (exponent, cs) ← scanExponent? cs
  return (⟨negative, whole, fraction, exponent⟩, cs)

/-- The value of a decimal digit. -/
def digit (c : Char) : Nat := c.toNat - 48

/-- Appends digits to a number while it fits in 64 bits; the digits left over come back. -/
def accumulate (n : Nat) : List Char → Nat × List Char
  | [] => (n, [])
  | c :: cs =>
    if 10 * n + digit c < UInt64.size then accumulate (10 * n + digit c) cs else (n, c :: cs)

/-- The greatest exponent that is still counted out. -/
def exponentLimit : Nat := 2147483647

/-- The value of a significand and a power of ten. -/
def realOf (negative : Bool) (significand : Nat) (exponent : Int) : Except Error Number :=
  match Binary64.ofDecimal? significand exponent with
  | some x => .ok (.real (if negative then x.negate else x))
  | none => .error .numberOutOfRange

/-- The value of a significand and a power of ten that the written exponent shifts further. -/
def withExponent (t : NumberText) (significand : Nat) (exponent : Int) : Except Error Number :=
  match t.exponent with
  | none => realOf t.negative significand exponent
  | some (below, digits) =>
    let e := Nat.ofDigitChars 10 digits 0
    if exponentLimit < e then
      if significand ≠ 0 ∧ !below then .error .numberOutOfRange
      else .ok (.real (if t.negative then Binary64.zero.negate else Binary64.zero))
    else realOf t.negative significand (if below then exponent - e else exponent + e)

/-- The value of a number. -/
def value (t : NumberText) : Except Error Number :=
  let (n, long) := accumulate 0 t.whole
  match t.fraction with
  | some digits =>
    let (m, unused) := accumulate n digits
    t.withExponent m ((long.length : Int) - ((digits.length - unused.length : Nat) : Int))
  | none =>
    if t.exponent.isSome || !long.isEmpty then t.withExponent n long.length
    else if !t.negative then .ok (.natural (UInt64.ofNat n))
    else if n = 0 || Int64.minValue.toInt.natAbs < n then .ok (.real (Binary64.ofNat n).negate)
    else .ok (.negative (Int64.ofInt (-(n : Int))))

end NumberText

end Coverage.Json
