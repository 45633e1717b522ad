/-!
# Byte offsets and UTF-16 units of a text

Edits and syntax trees speak of byte offsets in the UTF-8 form of a source, coverage columns
count UTF-16 units, and all of them are functions of the list of characters.

The main statements are the `append` laws of the two lengths and `takeBytes_append_dropBytes`:
cutting a text at an offset loses nothing.
-/

namespace Coverage.Text

/-- The number of bytes a list of characters takes in UTF-8. -/
def byteLength : List Char → Nat
  | [] => 0
  | c :: cs => c.utf8Size + byteLength cs

@[simp] theorem byteLength_nil : byteLength [] = 0 := rfl

@[simp] theorem byteLength_cons (c : Char) (cs : List Char) :
    byteLength (c :: cs) = c.utf8Size + byteLength cs := rfl

@[simp] theorem byteLength_append (a b : List Char) :
    byteLength (a ++ b) = byteLength a + byteLength b := by
  induction a with
  | nil => simp
  | cons c cs ih => simp [ih, Nat.add_assoc]

/-- The number of UTF-16 units of one character: two outside the basic plane. -/
def charUnits (c : Char) : Nat := if c.val < 0x10000 then 1 else 2

theorem charUnits_pos (c : Char) : 0 < charUnits c := by
  unfold charUnits; split <;> decide

/-- The number of UTF-16 units of a list of characters. -/
def units16 : List Char → Nat
  | [] => 0
  | c :: cs => charUnits c + units16 cs

@[simp] theorem units16_nil : units16 [] = 0 := rfl

@[simp] theorem units16_cons (c : Char) (cs : List Char) :
    units16 (c :: cs) = charUnits c + units16 cs := rfl

@[simp] theorem units16_append (a b : List Char) :
    units16 (a ++ b) = units16 a + units16 b := by
  induction a with
  | nil => simp
  | cons c cs ih => simp [ih, Nat.add_assoc]

/-- The characters that start before byte offset `n`. -/
def takeBytes : Nat → List Char → List Char
  | 0, _ => []
  | _ + 1, [] => []
  | n + 1, c :: cs => c :: takeBytes (n + 1 - c.utf8Size) cs

/-- The characters that start at byte offset `n` or later. -/
def dropBytes : Nat → List Char → List Char
  | 0, cs => cs
  | _ + 1, [] => []
  | n + 1, c :: cs => dropBytes (n + 1 - c.utf8Size) cs

@[simp] theorem takeBytes_append_dropBytes (n : Nat) (cs : List Char) :
    takeBytes n cs ++ dropBytes n cs = cs := by
  induction cs generalizing n with
  | nil => cases n <;> rfl
  | cons c cs ih => cases n <;> simp [takeBytes, dropBytes, ih]

/-- The characters between two byte offsets. -/
def slice (start stop : Nat) (cs : List Char) : List Char :=
  takeBytes (stop - start) (dropBytes start cs)

end Coverage.Text
