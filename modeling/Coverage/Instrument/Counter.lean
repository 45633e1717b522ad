import Coverage.Digest.Sha256
import Coverage.Table
import Coverage.Text.Utf8

/-!
# Counters

An instrumented program counts through a function of its own that gives its coverage object. The
name of the function is made from the path of the file, so that the programs of different files
can be put together.
-/

namespace Coverage.Instrument

/-- What a counter counts. -/
inductive Counter where
  | statement (id : Id)
  | function (id : Id)
  | outcome (branch : Id) (index : Nat)
  deriving DecidableEq, Inhabited, Repr

/-- The expression that counts, by way of the function called `accessor`. -/
def Counter.text (accessor : String) : Counter → String
  | .statement id => accessor ++ "().s[" ++ toString id.toNat ++ "]++"
  | .function id => accessor ++ "().f[" ++ toString id.toNat ++ "]++"
  | .outcome branch index =>
    accessor ++ "().b[" ++ toString branch.toNat ++ "][" ++ toString index ++ "]++"

/-- A digit in base 36. -/
def digit36 (n : Nat) : Char := if n < 10 then Char.ofNat (48 + n) else Char.ofNat (87 + n)

/-- The digits of a number in base 36, in front of `tail`. -/
def digits36 (n : Nat) (tail : List Char) : List Char :=
  if n < 36 then digit36 n :: tail
  else digits36 (n / 36) (digit36 (n % 36) :: tail)
termination_by n
decreasing_by omega

/-- The number that a list of bytes stands for, the highest byte first. -/
def numberOf (bytes : List UInt8) : Nat := bytes.foldl (fun n b => n * 256 + b.toNat) 0

/-- The name of the function that gives the coverage object of a file: a number of 48 bits that is
made from the path. -/
def accessorName (path : String) : String :=
  "cov_" ++ String.ofList (digits36
    (numberOf ((Digest.sha256 (Text.encodeUtf8 path)).take 6)) [])

end Coverage.Instrument
