import Coverage.Text.Property.Basic

/-!
# Characters of words

Letters, marks, decimal digits and connectors of all scripts.
-/

namespace Coverage.Text

/-- Whether a character is one of those that words consist of. -/
def isWordChar (c : Char) : Bool :=
  if c.toNat < 128 then c.isAlphanum || c = '_' else Property.words.contains c.toNat

end Coverage.Text
