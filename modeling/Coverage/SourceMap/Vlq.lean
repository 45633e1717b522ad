import Coverage.Digest.Base64
import Coverage.SourceMap.Error
import Coverage.Text.Utf8

/-!
# The fields of a segment

A segment of a source map writes its fields one after the other in digits of base 64. A digit
carries five bits of its field, lowest bits first, and a sixth bit that is set when another digit
follows; the lowest bit of a field is its sign. A field has at most thirteen digits, and its bits
are collected in a 64-bit word.
-/

namespace Coverage.SourceMap

/-- The greatest number of bits that may lie below those of a digit. -/
def maxShift : Nat := 60

/-- The word `value` with the five low bits of `digit` added `shift` bits up. -/
def addDigit (value : Int64) (digit shift : Nat) : Int64 :=
  value + (Int64.ofNat (digit % 32) <<< Int64.ofNat shift)

/-- The number that the bits of a field stand for. -/
def signed (value : Int64) : Int64 :=
  let magnitude := value >>> 1
  if value &&& 1 = 1 then -magnitude else magnitude

/-- What a message calls a character that is no digit: its first byte. -/
def firstByte (c : Char) : Char :=
  match Text.encodeUtf8 (String.singleton c) with
  | b :: _ => Char.ofNat b.toNat
  | [] => c

/-- The fields of the rest of a segment, of whose first field `shift` bits are read into
`value`. -/
def fieldsFrom (segment : List Char) (value : Int64) (shift : Nat) :
    List Char → Except Error (List Int64)
  | [] => if shift = 0 then .ok [] else .error (.truncatedSegment (String.ofList segment))
  | c :: cs =>
    match Digest.base64Digit? c with
    | none => .error (.badDigit (firstByte c))
    | some digit =>
      if maxShift < shift then .error .digitOverflow
      else
        let value := addDigit value digit shift
        if 32 ≤ digit then fieldsFrom segment value (shift + 5) cs
        else do return signed value :: (← fieldsFrom segment 0 0 cs)

/-- The fields of a segment. -/
def fields (segment : List Char) : Except Error (List Int64) := fieldsFrom segment 0 0 segment

end Coverage.SourceMap
