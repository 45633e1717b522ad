/-!
# Characters of scripts

The classes of characters that the lexemes of a script are made of, and those that the look for the
end of a statement goes by. A character outside of ASCII is part of a name unless it is a blank.
-/

namespace Coverage.Script

/-- The blanks outside of ASCII, in ranges. -/
def wideBlanks : List (Char × Char) :=
  [('\u00a0', '\u00a0'), ('\u1680', '\u1680'), ('\u2000', '\u200b'), ('\u2028', '\u2029'),
    ('\u202f', '\u202f'), ('\u205f', '\u2060'), ('\u3000', '\u3000'), ('\ufeff', '\ufeff')]

/-- The blanks of ASCII. -/
def isPlainBlank (c : Char) : Bool := c = ' ' || ('\t' ≤ c && c ≤ '\r')

/-- The characters that separate tokens. -/
def isBlank (c : Char) : Bool :=
  isPlainBlank c || ('\x7f' < c && wideBlanks.any fun r => r.1 ≤ c && c ≤ r.2)

/-- The characters that end a line for the end of a statement. -/
def isLineEnd (c : Char) : Bool := c = '\n' || c = '\u2028' || c = '\u2029'

/-- Whether a character is one of the letters of ASCII. -/
def isAsciiLetter (c : Char) : Bool := ('a' ≤ c && c ≤ 'z') || ('A' ≤ c && c ≤ 'Z')

/-- Whether a character is a decimal digit. -/
def isDigit (c : Char) : Bool := '0' ≤ c && c ≤ '9'

/-- Whether a character is an octal digit. -/
def isOctalDigit (c : Char) : Bool := '0' ≤ c && c ≤ '7'

/-- Whether a character is a binary digit. -/
def isBinaryDigit (c : Char) : Bool := c = '0' || c = '1'

/-- Whether a character is a hexadecimal digit. -/
def isHexDigit (c : Char) : Bool :=
  isDigit c || ('a' ≤ c && c ≤ 'f') || ('A' ≤ c && c ≤ 'F')

/-- The punctuation of ASCII that no name contains. -/
def namePunctuation : List Char := ":;\x60\"'@#.,|^&<=>+-*/\\%?!~()[]\x7b\x7d".toList

/-- Whether a name may contain a character. -/
def isNamePart (c : Char) : Bool :=
  isAsciiLetter c || (' ' < c && !isBlank c && !namePunctuation.contains c)

/-- Whether a name may start with a character. -/
def isNameStart (c : Char) : Bool := isNamePart c && !isDigit c

end Coverage.Script
