import Coverage.Json.Number
import Coverage.Text.Utf8

/-!
# Documents as they stand

A document is read into a tree that keeps what a value does not: the order and repetition of
fields, the spelling of keys, and where the text stops making sense. A fault ends the tree at its
place. A reader goes through the tree from left to right, so that of two things that are wrong it
reports the one that comes first, and what it skips is judged less strictly than what it wants.
-/

namespace Coverage.Json

/-- The key of a field. -/
structure Key where
  /-- The characters of the key: in a text as written, up to the quote that closes it or to the
  character that spoils it, and in a value without quotes. -/
  written : List Char
  text : Except Error String

instance : Inhabited Key := ⟨⟨[], .ok ""⟩⟩

/-- A document, or the part of it up to its first fault. -/
inductive Doc where
  | null
  | bool (b : Bool)
  | number (n : Except Error Number)
  | string (s : Except Error String)
  | array (items : List Doc) (fault : Option Fault)
  | object (fields : List (Key × Doc)) (fault : Option Fault)
  | broken (fault : Fault)
  deriving Inhabited

namespace Doc

/-- The blanks between the tokens of a document. -/
def isBlank (c : Char) : Bool := c = ' ' || c = '\n' || c = '\t' || c = '\r'

/-- The text from its first character that is no blank. -/
def skipBlanks (cs : List Char) : List Char := cs.dropWhile isBlank

/-! ## Strings -/

/-- The value of a hexadecimal digit. -/
def hexValue? (c : Char) : Option Nat :=
  if '0' ≤ c ∧ c ≤ '9' then some (c.toNat - 48)
  else if 'a' ≤ c ∧ c ≤ 'f' then some (c.toNat - 87)
  else if 'A' ≤ c ∧ c ≤ 'F' then some (c.toNat - 55)
  else none

/-- The number of bytes that characters stand for, where `mark` stands for one byte. -/
def bytesIn (mark : Option Char) (cs : List Char) : Nat :=
  cs.foldl (fun n c => n + if some c = mark then 1 else c.utf8Size) 0

/-- The four hexadecimal digits at the start of `cs`. -/
def hexEscape (mark : Option Char) (cs : List Char) : Except Error (Nat × List Char) :=
  if bytesIn mark (cs.take 4) < 4 then .error .endInString
  else match cs with
    | a :: b :: c :: d :: rest =>
      match hexValue? a, hexValue? b, hexValue? c, hexValue? d with
      | some a, some b, some c, some d => .ok (((a * 16 + b) * 16 + c) * 16 + d, rest)
      | _, _, _, _ => .error .invalidEscape
    | _ => .error .invalidEscape

/-- The character of an escape that is one letter long. -/
def shortEscape? (c : Char) : Option Char :=
  if c = '"' ∨ c = '\\' ∨ c = '/' then some c
  else if c = 'b' then some '\x08'
  else if c = 'f' then some '\x0c'
  else if c = 'n' then some '\n'
  else if c = 'r' then some '\r'
  else if c = 't' then some '\t'
  else none

/-- The character that follows `\u`: one unit, or two that pair up. -/
def unicodeEscape (mark : Option Char) (cs : List Char) : Except Error (Char × List Char) := do
  let (n, cs) ← hexEscape mark cs
  if 0xDC00 ≤ n ∧ n ≤ 0xDFFF then throw .loneSurrogate
  if n < 0xD800 ∨ 0xDBFF < n then return (Char.ofNat n, cs)
  match cs with
  | [] => throw .endInString
  | ['\\'] => throw .endInString
  | '\\' :: 'u' :: cs =>
    let (m, cs) ← hexEscape mark cs
    if m < 0xDC00 ∨ 0xDFFF < m then throw .loneSurrogate
    return (Char.ofNat (0x10000 + (n - 0xD800) * 0x400 + (m - 0xDC00)), cs)
  | _ => throw .endOfHexEscape

/-- The characters of a string up to its closing quote, every escape replaced. -/
def stringText (mark : Option Char) : Nat → List Char → Except Error (List Char)
  | 0, _ => .error .endInString
  | _, [] => .error .endInString
  | fuel + 1, c :: cs =>
    if c = '"' then .ok []
    else if c = '\\' then
      match cs with
      | [] => .error .endInString
      | e :: rest =>
        if e = 'u' then do
          let (u, rest) ← unicodeEscape mark rest
          return u :: (← stringText mark fuel rest)
        else match shortEscape? e with
          | some s => do return s :: (← stringText mark fuel rest)
          | none => .error .invalidEscape
    else if c.toNat < 32 then .error .controlInString
    else do return c :: (← stringText mark fuel cs)

/-- The characters of a string as written, up to the one that ends or spoils it, and what follows
its closing quote. An escape is judged by its form alone. -/
def stringExtent (mark : Option Char) : Nat → List Char → List Char × Except Error (List Char)
  | 0, _ => ([], .error .endInString)
  | _, [] => ([], .error .endInString)
  | fuel + 1, c :: cs =>
    if c = '"' then ([c], .ok cs)
    else if c = '\\' then
      match cs with
      | [] => ([c], .error .endInString)
      | e :: rest =>
        if e = 'u' then
          match hexEscape mark rest with
          | .ok (_, after) =>
            let (written, result) := stringExtent mark fuel after
            (c :: e :: rest.take 4 ++ written, result)
          | .error err => ([c, e], .error err)
        else match shortEscape? e with
          | some _ =>
            let (written, result) := stringExtent mark fuel rest
            (c :: e :: written, result)
          | none => ([c], .error .invalidEscape)
    else if c.toNat < 32 then ([c], .error .controlInString)
    else
      let (written, result) := stringExtent mark fuel cs
      (c :: written, result)

/-- A string behind its opening quote. A string in which `mark` stands for a byte has no text. -/
def readString (mark : Option Char) (cs : List Char) : Key × Except Error (List Char) :=
  let (written, rest) := stringExtent mark (cs.length + 1) cs
  let text := match stringText mark (cs.length + 1) cs with
    | .ok s =>
      if mark.any written.contains then .error .invalidCodePoint else .ok (String.ofList s)
    | .error e => .error e
  (⟨written, text⟩, rest)

/-! ## Values -/

/-- A document and the text behind it; no text is left behind a fault. -/
abbrev Reading := Doc × Option (List Char)

/-- The reading that ends in a fault. -/
def stop (fault : Fault) : Reading := (.broken fault, none)

/-- A literal word behind its first letter. -/
def word (doc : Doc) : List Char → List Char → Reading
  | [], cs => (doc, some cs)
  | _ :: _, [] => stop (.both .endInValue)
  | w :: ws, c :: cs => if w = c then word doc ws cs else stop (.both .expectedWord)

/-- A string behind its opening quote, as a document. -/
def stringDoc (mark : Option Char) (cs : List Char) : Reading :=
  match readString mark cs with
  | (key, .ok rest) => (.string key.text, some rest)
  | (key, .error skipped) =>
    stop ⟨match key.text with | .error e => e | .ok _ => skipped, skipped⟩

/-- A number, as a document. -/
def numberDoc (cs : List Char) : Reading :=
  match NumberText.scan cs with
  | .ok (t, rest) => (.number t.value, some rest)
  | .error fault => stop fault

/-- What is wrong where a key ought to follow a comma. -/
def keyFault (cs : List Char) : Fault :=
  match cs with
  | [] => ⟨.endInValue, .endInObject⟩
  | '}' :: _ => ⟨.trailingComma, .keyNotString⟩
  | _ => .both .keyNotString

mutual

/-- The value at the start of a text. -/
def read (mark : Option Char) : Nat → List Char → Reading
  | 0, _ => stop (.both .endInValue)
  | fuel + 1, cs =>
    match skipBlanks cs with
    | [] => stop (.both .endInValue)
    | c :: rest =>
      if c = 'n' then word .null "ull".toList rest
      else if c = 't' then word (.bool true) "rue".toList rest
      else if c = 'f' then word (.bool false) "alse".toList rest
      else if c = '-' ∨ c.isDigit then numberDoc (c :: rest)
      else if c = '"' then stringDoc mark rest
      else if c = '[' then
        let (items, fault, rest) := readItems mark fuel true rest
        (.array items fault, rest)
      else if c = '{' then
        let (fields, fault, rest) := readFields mark fuel true rest
        (.object fields fault, rest)
      else stop (.both .expectedValue)

/-- The items of an array behind its opening bracket or behind an item. -/
def readItems (mark : Option Char) : Nat → Bool → List Char →
    List Doc × Option Fault × Option (List Char)
  | 0, _, _ => ([], some (.both .endInList), none)
  | fuel + 1, first, cs =>
    match skipBlanks cs with
    | [] => ([], some (.both .endInList), none)
    | ']' :: rest => ([], none, some rest)
    | c :: rest =>
      if first then readItem mark fuel (c :: rest)
      else if c = ',' then
        match skipBlanks rest with
        | [] => ([], some (.both .endInValue), none)
        | ']' :: _ => ([], some ⟨.trailingComma, .expectedValue⟩, none)
        | rest => readItem mark fuel rest
      else ([], some (.both .expectedListCommaOrEnd), none)

/-- One item of an array and those behind it. -/
def readItem (mark : Option Char) : Nat → List Char →
    List Doc × Option Fault × Option (List Char)
  | 0, _ => ([], some (.both .endInList), none)
  | fuel + 1, cs =>
    match read mark fuel cs with
    | (item, none) => ([item], none, none)
    | (item, some rest) =>
      let (items, fault, rest) := readItems mark fuel false rest
      (item :: items, fault, rest)

/-- The fields of an object behind its opening brace or behind a field. -/
def readFields (mark : Option Char) : Nat → Bool → List Char →
    List (Key × Doc) × Option Fault × Option (List Char)
  | 0, _, _ => ([], some (.both .endInObject), none)
  | fuel + 1, first, cs =>
    match skipBlanks cs with
    | [] => ([], some (.both .endInObject), none)
    | '}' :: rest => ([], none, some rest)
    | c :: rest =>
      if first then
        if c = '"' then readField mark fuel rest else ([], some (.both .keyNotString), none)
      else if c = ',' then
        match skipBlanks rest with
        | '"' :: rest => readField mark fuel rest
        | rest => ([], some (keyFault rest), none)
      else ([], some (.both .expectedObjectCommaOrEnd), none)

/-- One field of an object, behind the quote that opens its key, and those behind it. -/
def readField (mark : Option Char) : Nat → List Char →
    List (Key × Doc) × Option Fault × Option (List Char)
  | 0, _ => ([], some (.both .endInObject), none)
  | fuel + 1, cs =>
    match readString mark cs with
    | (key, .error skipped) =>
      let wanted := match key.text with | .error e => e | .ok _ => skipped
      ([(key, .broken ⟨wanted, skipped⟩)], none, none)
    | (key, .ok rest) =>
      match skipBlanks rest with
      | [] => ([(key, .broken (.both .endInObject))], none, none)
      | ':' :: rest =>
        match read mark fuel rest with
        | (value, none) => ([(key, value)], none, none)
        | (value, some rest) =>
          let (fields, fault, rest) := readFields mark fuel false rest
          ((key, value) :: fields, fault, rest)
      | _ => ([(key, .broken (.both .expectedColon))], none, none)

end

/-- Steps enough to read any text: no level takes more than two steps per character. -/
def readFuel (cs : List Char) : Nat := 3 * cs.length + 3

/-- The document at the start of a text. -/
def ofText (cs : List Char) : Reading := read none (readFuel cs) cs

/-- The document at the start of a list of bytes. A character that does not occur otherwise stands
for each byte that belongs to no character. -/
def ofBytes (bytes : List UInt8) : Reading :=
  match Text.decodeFrom bytes.length 0 bytes with
  | .ok cs => ofText cs
  | .error _ =>
    let mark := Text.unusedChar (Text.decodeMarked '\x00' bytes.length bytes)
    let cs := Text.decodeMarked mark bytes.length bytes
    read (some mark) (readFuel cs) cs

/-! ## Values as documents, and skipping -/

mutual

/-- A value as a document without faults. -/
def ofValue : Value → Doc
  | .null => .null
  | .bool b => .bool b
  | .number n => .number (.ok n)
  | .string s => .string (.ok s)
  | .array items => .array (ofItems items) none
  | .object fields => .object (ofFields fields) none

/-- The items of an array as documents. -/
def ofItems : List Value → List Doc
  | [] => []
  | v :: rest => ofValue v :: ofItems rest

/-- The fields of an object as documents. -/
def ofFields : List (String × Value) → List (Key × Doc)
  | [] => []
  | (k, v) :: rest => (⟨k.toList, .ok k⟩, ofValue v) :: ofFields rest

end

mutual

/-- What a reader that skips the document meets. -/
def skipFault? : Doc → Option Error
  | .broken fault => some fault.skipped
  | .array items fault => (skipItems? items).or (fault.map (·.skipped))
  | .object fields fault => (skipFields? fields).or (fault.map (·.skipped))
  | _ => none

/-- What a reader that skips the items of an array meets. -/
def skipItems? : List Doc → Option Error
  | [] => none
  | d :: rest => (skipFault? d).or (skipItems? rest)

/-- What a reader that skips the fields of an object meets. -/
def skipFields? : List (Key × Doc) → Option Error
  | [] => none
  | (_, d) :: rest => (skipFault? d).or (skipFields? rest)

end

end Doc

end Coverage.Json
