/-!
# Decoding UTF-8

A source file is a list of bytes before it is a text. Decoding stops at the first byte that
cannot belong to a text and says how many bytes it had taken for the start of a character.
-/

namespace Coverage.Text

/-- Why a list of bytes is no text. -/
inductive Utf8Error where
  /-- `size` bytes from `index` on start no character. -/
  | invalid (size index : Nat)
  /-- The bytes end within the character that starts at `index`. -/
  | incomplete (index : Nat)
  deriving DecidableEq, Inhabited, Repr

/-- The message of an error. -/
def Utf8Error.message : Utf8Error → String
  | .invalid size index =>
    "invalid utf-8 sequence of " ++ toString size ++ " bytes from index " ++ toString index
  | .incomplete index => "incomplete utf-8 byte sequence from index " ++ toString index

/-- What a first byte announces: how many bytes follow, the range of the first of them, and the
bits that the byte itself contributes. -/
structure Lead where
  count : Nat
  low : Nat
  high : Nat
  bits : Nat

/-- What a first byte announces, unless no character starts with it. -/
def Lead.of? (b : Nat) : Option Lead :=
  if b < 0x80 then some ⟨0, 0x80, 0xBF, b⟩
  else if b < 0xC2 then none
  else if b < 0xE0 then some ⟨1, 0x80, 0xBF, b - 0xC0⟩
  else if b = 0xE0 then some ⟨2, 0xA0, 0xBF, 0⟩
  else if b = 0xED then some ⟨2, 0x80, 0x9F, 13⟩
  else if b < 0xF0 then some ⟨2, 0x80, 0xBF, b - 0xE0⟩
  else if b = 0xF0 then some ⟨3, 0x90, 0xBF, 0⟩
  else if b < 0xF4 then some ⟨3, 0x80, 0xBF, b - 0xF0⟩
  else if b = 0xF4 then some ⟨3, 0x80, 0x8F, 4⟩
  else none

/-- The start of a list of bytes: a character with its number of bytes, or a fault with the number
of bytes that were taken for the start of one. -/
inductive Utf8Step where
  | char (c : Char) (size : Nat)
  | invalid (size : Nat)
  | incomplete

/-- Takes the bytes that follow a first byte, `taken` of them being read already. -/
def followers : Nat → Nat → Nat → Nat → Nat → List UInt8 → Utf8Step
  | 0, _, _, bits, taken, _ => .char (Char.ofNat bits) taken
  | _ + 1, _, _, _, _, [] => .incomplete
  | n + 1, low, high, bits, taken, b :: rest =>
    if low ≤ b.toNat ∧ b.toNat ≤ high then
      followers n 0x80 0xBF (bits * 64 + b.toNat % 64) (taken + 1) rest
    else .invalid taken

/-- The first character of a list of bytes. -/
def utf8Step (b : UInt8) (rest : List UInt8) : Utf8Step :=
  match Lead.of? b.toNat with
  | none => .invalid 1
  | some lead => followers lead.count lead.low lead.high lead.bits 1 rest

/-- The characters of a list of bytes that starts at `index` of a file. -/
def decodeFrom : Nat → Nat → List UInt8 → Except Utf8Error (List Char)
  | 0, _, _ => .ok []
  | _, _, [] => .ok []
  | fuel + 1, index, b :: rest =>
    match utf8Step b rest with
    | .char c size => do return c :: (← decodeFrom fuel (index + size) (rest.drop (size - 1)))
    | .invalid size => .error (.invalid size index)
    | .incomplete => .error (.incomplete index)

/-- The text of a list of bytes. -/
def decodeUtf8 (bytes : List UInt8) : Except Utf8Error String :=
  String.ofList <$> decodeFrom bytes.length 0 bytes

/-- The characters of a list of bytes, with a mark for each byte that belongs to none. -/
def decodeMarked (mark : Char) : Nat → List UInt8 → List Char
  | 0, _ => []
  | _, [] => []
  | fuel + 1, b :: rest =>
    match utf8Step b rest with
    | .char c size => c :: decodeMarked mark fuel (rest.drop (size - 1))
    | _ => mark :: decodeMarked mark fuel rest

/-- The characters of a list of bytes, with a replacement character for what is no text. -/
def decodeLossy : Nat → List UInt8 → List Char
  | 0, _ => []
  | _, [] => []
  | fuel + 1, b :: rest =>
    match utf8Step b rest with
    | .char c size => c :: decodeLossy fuel (rest.drop (size - 1))
    | .invalid size => '\uFFFD' :: decodeLossy fuel (rest.drop (size - 1))
    | .incomplete => ['\uFFFD']

/-- The first of some characters that do not occur in a text. -/
def unusedFrom (cs : List Char) : Nat → Nat → Char
  | 0, n => Char.ofNat n
  | fuel + 1, n => if cs.contains (Char.ofNat n) then unusedFrom cs fuel (n + 1) else Char.ofNat n

/-- A character for private use that does not occur in a text. -/
def unusedChar (cs : List Char) : Char := unusedFrom cs cs.length 0xE000

/-- The bytes of a text. -/
def encodeUtf8 (text : String) : List UInt8 := text.toUTF8.data.toList

end Coverage.Text
