import Coverage.Text.Hidden

/-!
# Quoting in messages

Messages show a text or a character between quotes with the characters that would not show
escaped: the common controls by a letter, the rest by their number in braces.
-/

namespace Coverage.Text

/-- A number in small hexadecimal digits. -/
def hex (n : Nat) : String := String.ofList (Nat.toDigits 16 n)

/-- A character as a message shows it between quotes of the kind `mark`. -/
def shown (mark c : Char) : String :=
  if c = '\t' then "\\t"
  else if c = '\n' then "\\n"
  else if c = '\r' then "\\r"
  else if c = '\x00' then "\\0"
  else if c = '\\' then "\\\\"
  else if c = mark then String.ofList ['\\', c]
  else if isHidden c then "\\u\x7b" ++ hex c.toNat ++ "\x7d"
  else String.singleton c

/-- A text between double quotes. -/
def quoted (s : String) : String :=
  "\"" ++ String.join (s.toList.map (shown '"')) ++ "\""

/-- A character between single quotes. -/
def quotedChar (c : Char) : String := "'" ++ shown '\'' c ++ "'"

end Coverage.Text
