/-!
# Letters of either case

Names that are plain ASCII are compared with texts in letters of either case. Besides the capital
letters of ASCII one other character has an ASCII letter as its small form, the sign for kelvin.
-/

namespace Coverage.Text

/-- The small form of a character, as far as it is an ASCII letter. -/
def asciiLowerChar (c : Char) : Char := if c = '\u212A' then 'k' else c.toLower

/-- A text in small letters, as far as these are ASCII letters. -/
def asciiLower (s : String) : String := String.ofList (s.toList.map asciiLowerChar)

end Coverage.Text
