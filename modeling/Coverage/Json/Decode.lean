import Coverage.Json.Document

/-!
# Reading typed values out of documents

A decoder takes a document to a value of the type it wants or says what is wrong with it. A
record is read from an object by name, unknown fields being skipped, or from an array by
position; a table is read from an object whose keys are numbers in quotes.

A document may come from a text or from a value that was read before. Texts are refused when they
nest too deeply, and the two differ in a few of the messages.
-/

namespace Coverage.Json

/-- Where a document comes from. -/
inductive Origin where
  | text
  | value
  deriving DecidableEq, Inhabited, Repr

/-- What a decoder knows of the place it reads at. -/
structure Context where
  origin : Origin
  /-- How many levels of arrays and objects may still be opened. -/
  depth : Nat
  deriving Inhabited

namespace Context

/-- The place at the top of a text. -/
def ofText : Context := ⟨.text, 127⟩

/-- The place at the top of a value. -/
def ofValue : Context := ⟨.value, 0⟩

/-- The place inside an array or an object. -/
def enter (c : Context) : Except Error Context :=
  match c.origin, c.depth with
  | .value, _ => .ok c
  | .text, 0 => .error .tooDeep
  | .text, depth + 1 => .ok ⟨.text, depth⟩

end Context

/-- Reads a value of type `α` from a document. -/
abbrev Decoder (α : Type) := Context → Doc → Except Error α

namespace Decoder

/-- What a document is, to a reader that wants something else. -/
def found : Doc → Except Error Found
  | .null => .ok .null
  | .bool b => .ok (.bool b)
  | .number n => n.map .number
  | .string s => s.map .string
  | .array _ _ => .ok .sequence
  | .object _ _ => .ok .map
  | .broken fault => .error fault.wanted

/-- Refuses a document because it is not of the type that is wanted. -/
def refuse {α : Type} (expected : String) (d : Doc) : Except Error α := do
  throw (.wrongType (← found d) expected)

/-- A truth value. -/
def bool : Decoder Bool
  | _, .bool b => .ok b
  | _, d => refuse "a boolean" d

/-- A text. -/
def string : Decoder String
  | _, .string s => s
  | _, d => refuse "a string" d

/-- A natural number below `bound`, which messages call `name`. -/
def below (bound : Nat) (name : String) : Number → Except Error Nat
  | .natural n =>
    if n.toNat < bound then .ok n.toNat
    else .error (.wrongValue (.number (.natural n)) name)
  | .negative n => .error (.wrongValue (.number (.negative n)) name)
  | n => .error (.wrongType (.number n) name)

/-- A natural number of 32 bits. -/
def word32 : Decoder UInt32
  | _, .number n => do return UInt32.ofNat (← below UInt32.size "u32" (← n))
  | _, d => refuse "u32" d

/-- A natural number of 64 bits. -/
def word64 : Decoder UInt64
  | _, .number n => do return UInt64.ofNat (← below UInt64.size "u64" (← n))
  | _, d => refuse "u64" d

/-- A number of any kind, as a binary64 value. -/
def real : Decoder Decimal.Binary64
  | _, .number n => do
    match ← n with
    | .natural n => return .ofNat n.toNat
    | .negative n => return (Decimal.Binary64.ofNat n.toInt.natAbs).negate
    | .real x => return x
  | _, d => refuse "f64" d

/-- A value or nothing, which is written `null`. -/
def option {α : Type} (item : Decoder α) : Decoder (Option α)
  | _, .null => .ok none
  | c, d => some <$> item c d

/-- The rest of a list of items. -/
def items {α : Type} (item : Decoder α) (c : Context) (fault : Option Fault) :
    List Doc → Except Error (List α)
  | [] => match fault with
    | none => .ok []
    | some f => .error f.wanted
  | d :: rest => do return (← item c d) :: (← items item c fault rest)

/-- A list. -/
def list {α : Type} (item : Decoder α) : Decoder (List α)
  | c, .array ds fault => do items item (← c.enter) fault ds
  | _, d => refuse "a sequence" d

/-- The rest of the fields of an object whose keys are read by `key`. -/
def fields {κ α : Type} (key : Key → Except Error κ) (item : Decoder α) (c : Context)
    (fault : Option Fault) : List (Key × Doc) → Except Error (List (κ × α))
  | [] => match fault with
    | none => .ok []
    | some f => .error f.wanted
  | (k, d) :: rest => do
    let k ← key k
    return (k, ← item c d) :: (← fields key item c fault rest)

/-- An object with texts as keys, in the order in which the fields stand. -/
def assoc {α : Type} (item : Decoder α) : Decoder (List (String × α))
  | c, .object fs fault => do fields (·.text) item (← c.enter) fault fs
  | _, d => refuse "a map" d

/-- A key that is a number of 32 bits. In a text the number ends at a quote, and in a value at the
end of the key. -/
def numericKey (origin : Origin) (k : Key) : Except Error UInt32 := do
  match k.written with
  | [] => throw .keyNotNumeric
  | c :: _ => if c ≠ '-' ∧ !c.isDigit then throw .keyNotNumeric
  match NumberText.scan k.written with
  | .error fault => throw fault.wanted
  | .ok (t, rest) =>
    let n ← below UInt32.size "u32" (← t.value)
    match origin with
    | .text => if rest.head? ≠ some '"' then throw .expectedQuote
    | .value => if rest ≠ [] then throw .keyNotNumeric
    return UInt32.ofNat n

/-- An object with numbers as keys, in the order in which the fields stand. -/
def numbered {α : Type} (item : Decoder α) : Decoder (List (UInt32 × α))
  | c, .object fs fault => do fields (numericKey c.origin) item (← c.enter) fault fs
  | _, d => refuse "a map" d

/-! ## Records -/

/-- How a record is read: its name, its fields in order, each with whether it must be there, and
what one field adds to the fields read so far. -/
structure Record (σ : Type) where
  name : String
  fieldNames : List (String × Bool)
  /-- Reads one field; an unknown name has no reader. -/
  read : String → Option (Context → Doc → σ → Except Error σ)

namespace Record

variable {σ : Type}

/-- How messages call a record that is read by position. -/
def sizeText (r : Record σ) : String :=
  "struct " ++ r.name ++ " with " ++ toString r.fieldNames.length ++ " elements"

/-- Reads the fields of an object into `s`. -/
def ofFields (r : Record σ) (c : Context) (fault : Option Fault) :
    List (Key × Doc) → σ → Except Error σ
  | [], s => match fault with
    | none => .ok s
    | some f => .error f.wanted
  | (k, d) :: rest, s => do
    match r.read (← k.text) with
    | some field => ofFields r c fault rest (← field c d s)
    | none =>
      if let some e := d.skipFault? then throw e
      ofFields r c fault rest s

/-- The first field from position `n` on that must be there. -/
def firstRequired? : Nat → List (String × Bool) → Option Nat
  | _, [] => none
  | n, (_, required) :: rest => if required then some n else firstRequired? (n + 1) rest

/-- Reads the items of an array into `s`, one field after the other. `total` is the number of all
items. -/
def ofItems (r : Record σ) (c : Context) (fault : Option Fault) (total : Nat) :
    Nat → List (String × Bool) → List Doc → σ → Except Error σ
  | n, names, [], s => do
    if let some f := fault then
      if names ≠ [] then throw f.wanted
    if let some k := firstRequired? n names then throw (.wrongLength k r.sizeText)
    if let some f := fault then throw f.wanted
    return s
  | _, [], _ :: _, _ =>
    .error (match c.origin with
      | .text => .trailingCharacters
      | .value => .wrongLength total "fewer elements in array")
  | n, (name, _) :: names, d :: rest, s => do
    match r.read name with
    | some field => ofItems r c fault total (n + 1) names rest (← field c d s)
    | none => ofItems r c fault total (n + 1) names rest s

/-- Reads a record into `s`. -/
def decode (r : Record σ) (s : σ) : Decoder σ
  | c, .object fs fault => do r.ofFields (← c.enter) fault fs s
  | c, .array ds fault => do r.ofItems (← c.enter) fault ds.length 0 r.fieldNames ds s
  | _, d => refuse ("struct " ++ r.name) d

end Record

/-- Reads a field that may stand once. -/
def once {α : Type} (name : String) (slot : Option α) (item : Decoder α) (c : Context) (d : Doc) :
    Except Error (Option α) :=
  match slot with
  | some _ => .error (.duplicateField name)
  | none => some <$> item c d

/-- The value of a field that must be there. -/
def require {α : Type} (name : String) : Option α → Except Error α
  | some a => .ok a
  | none => .error (.missingField name)

/-! ## Names of alternatives -/

/-- The alternative that a name stands for. -/
def variant {α : Type} (known : List (String × α)) (name : String) : Except Error α :=
  match known.lookup name with
  | some a => .ok a
  | none => .error (.unknownVariant name (known.map (·.1)))

/-- What stands beside the name of an alternative that carries nothing. -/
def unit : Decoder Unit
  | _, .null => .ok ()
  | _, d => refuse "unit" d

/-- What is wrong with an object without keys that stands for a name. -/
def emptyVariant : Option Fault → Error
  | none => .expectedValue
  | some f => if f.wanted = .endInObject then .endInValue else f.wanted

/-- What is wrong behind the only key of an object that stands for a name. -/
def variantTail : List (Key × Doc) → Option Fault → Option Error
  | [], none => none
  | [], some f => some (if f.wanted = .endInObject then .endInObject else .expectedValue)
  | _ :: _, _ => some .expectedValue

/-- One of several names, written as a text or as an object that has it as its only key. -/
def enumeration {α : Type} (known : List (String × α)) : Decoder α
  | _, .string s => do variant known (← s)
  | c, .object fs fault => do
    let c ← c.enter
    match c.origin, fs with
    | .value, [(k, d)] =>
      let a ← variant known (← k.text)
      unit c d
      return a
    | .value, _ => throw (.wrongValue .map "map with a single key")
    | .text, [] => throw (emptyVariant fault)
    | .text, (k, d) :: rest =>
      let a ← variant known (← k.text)
      unit c d
      match variantTail rest fault with
      | none => return a
      | some e => throw e
  | ⟨.text, _⟩, .broken fault => .error fault.wanted
  | ⟨.text, _⟩, _ => .error .expectedValue
  | ⟨.value, _⟩, d => refuse "string or map" d

/-! ## Values -/

mutual

/-- Any value, the fields of its objects in the order of their names. -/
def value : Context → Doc → Except Error Value
  | _, .null => .ok .null
  | _, .bool b => .ok (.bool b)
  | _, .number n => n.map .number
  | _, .string s => s.map .string
  | c, .array ds fault => do
    let items ← valueItems (← c.enter) ds
    if let some f := fault then throw f.wanted
    return .array items
  | c, .object fs fault => do
    let fields ← valueFields (← c.enter) fs []
    if let some f := fault then throw f.wanted
    return .object fields
  | _, .broken fault => .error fault.wanted

/-- The items of an array. -/
def valueItems : Context → List Doc → Except Error (List Value)
  | _, [] => .ok []
  | c, d :: rest => do return (← value c d) :: (← valueItems c rest)

/-- The fields of an object, put into `fields` in order. -/
def valueFields : Context → List (Key × Doc) → List (String × Value) →
    Except Error (List (String × Value))
  | _, [], fields => .ok fields
  | c, (k, d) :: rest, fields => do
    let name ← k.text
    let v ← value c d
    valueFields c rest (Value.putField name v fields)

end

/-! ## Whole documents -/

/-- Reads a document and refuses what follows it. -/
def run {α : Type} (item : Decoder α) (reading : Doc.Reading) : Except Error α := do
  let a ← item .ofText reading.1
  match reading.2 with
  | none => throw .endInValue
  | some rest => if Doc.skipBlanks rest ≠ [] then throw .trailingCharacters else return a

/-- Reads a text. -/
def ofText {α : Type} (item : Decoder α) (text : String) : Except Error α :=
  item.run (Doc.ofText text.toList)

/-- Reads a value. -/
def ofValue {α : Type} (item : Decoder α) (v : Value) : Except Error α :=
  item .ofValue (Doc.ofValue v)

end Decoder

/-- The value that a text stands for. -/
def Value.ofText (text : String) : Except Error Value := Decoder.ofText Decoder.value text

end Coverage.Json
