import Coverage.Json.Error

/-!
# What can be wrong with a source map
-/

namespace Coverage.SourceMap

/-- What can be wrong with a source map. -/
inductive Error where
  | malformed (cause : Json.Error)
  | unsupportedVersion (version : UInt32)
  | badDigit (c : Char)
  | digitOverflow
  | truncatedSegment (segment : String)
  | positionOverflow
  | missingSource (index : Int)
  | lineOutOfRange (line : Int)
  | fieldCount (count : Nat)
  | negativePosition
  deriving DecidableEq, Inhabited, Repr

/-- The message of an error. -/
def Error.message : Error → String
  | .malformed cause => "malformed source map: " ++ cause.message
  | .unsupportedVersion v => "unsupported source map version " ++ toString v.toNat
  | .badDigit c => "invalid base64 character " ++ Text.quotedChar c
  | .digitOverflow => "VLQ value overflows"
  | .truncatedSegment s => "truncated VLQ segment " ++ Text.quoted s
  | .positionOverflow => "mapping position overflows"
  | .missingSource i => "mapping refers to missing source " ++ toString i
  | .lineOutOfRange l => "original line " ++ toString l ++ " out of range"
  | .fieldCount n => "mapping segment with " ++ toString n ++ " fields"
  | .negativePosition => "mapping has a negative position"

end Coverage.SourceMap
