import Coverage.Decimal.Binary64

/-!
# JSON values

A value keeps the fields of an object in the order in which they stand. Numbers are told apart as
documents tell them apart: a natural number of 64 bits, a negative integer of 64 bits, and
everything else as a binary64 value.

The main statement is that equality of values is decidable.
-/

namespace Coverage.Json

open Coverage.Decimal (Binary64)

/-- A number of a document. -/
inductive Number where
  | natural (n : UInt64)
  | negative (n : Int64)
  | real (x : Binary64)
  deriving DecidableEq, Inhabited, Repr

/-- A JSON value. -/
inductive Value where
  | null
  | bool (b : Bool)
  | number (n : Number)
  | string (s : String)
  | array (items : List Value)
  | object (fields : List (String × Value))
  deriving Inhabited, Repr

namespace Value

mutual

/-- Whether two values are the same, field order included. -/
def same : Value → Value → Bool
  | .null, .null => true
  | .bool a, .bool b => a == b
  | .number a, .number b => a == b
  | .string a, .string b => a == b
  | .array a, .array b => sameItems a b
  | .object a, .object b => sameFields a b
  | _, _ => false

/-- Whether two lists of values are the same. -/
def sameItems : List Value → List Value → Bool
  | [], [] => true
  | a :: as, b :: bs => same a b && sameItems as bs
  | _, _ => false

/-- Whether two lists of fields are the same. -/
def sameFields : List (String × Value) → List (String × Value) → Bool
  | [], [] => true
  | (k, a) :: as, (l, b) :: bs => k == l && same a b && sameFields as bs
  | _, _ => false

end

mutual

theorem eq_of_same : ∀ a b : Value, same a b = true → a = b
  | .array as, .array bs => fun h => by
    simp only [same] at h
    rw [eq_of_sameItems as bs h]
  | .object as, .object bs => fun h => by
    simp only [same] at h
    rw [eq_of_sameFields as bs h]
  | .null, b => fun h => by cases b <;> simp_all [same]
  | .bool _, b => fun h => by cases b <;> simp_all [same]
  | .number _, b => fun h => by cases b <;> simp_all [same]
  | .string _, b => fun h => by cases b <;> simp_all [same]
  | .array _, .null | .array _, .bool _ | .array _, .number _ | .array _, .string _
  | .array _, .object _ => fun h => by simp [same] at h
  | .object _, .null | .object _, .bool _ | .object _, .number _ | .object _, .string _
  | .object _, .array _ => fun h => by simp [same] at h

theorem eq_of_sameItems : ∀ a b : List Value, sameItems a b = true → a = b
  | [], [] => fun _ => rfl
  | a :: as, b :: bs => fun h => by
    simp only [sameItems, Bool.and_eq_true] at h
    rw [eq_of_same a b h.1, eq_of_sameItems as bs h.2]
  | [], _ :: _ | _ :: _, [] => fun h => by simp [sameItems] at h

theorem eq_of_sameFields :
    ∀ a b : List (String × Value), sameFields a b = true → a = b
  | [], [] => fun _ => rfl
  | (k, a) :: as, (l, b) :: bs => fun h => by
    simp only [sameFields, Bool.and_eq_true, beq_iff_eq] at h
    rw [h.1.1, eq_of_same a b h.1.2, eq_of_sameFields as bs h.2]
  | [], _ :: _ | _ :: _, [] => fun h => by simp [sameFields] at h

end

mutual

theorem same_refl : ∀ a : Value, same a a = true
  | .null => rfl
  | .bool _ | .number _ | .string _ => by simp [same]
  | .array as => by simp [same, sameItems_refl as]
  | .object as => by simp [same, sameFields_refl as]

theorem sameItems_refl : ∀ a : List Value, sameItems a a = true
  | [] => rfl
  | a :: as => by simp [sameItems, same_refl a, sameItems_refl as]

theorem sameFields_refl : ∀ a : List (String × Value), sameFields a a = true
  | [] => rfl
  | (_, a) :: as => by simp [sameFields, same_refl a, sameFields_refl as]

end

instance : DecidableEq Value := fun a b =>
  decidable_of_iff (same a b = true) ⟨eq_of_same a b, fun h => h ▸ same_refl a⟩

/-- A natural number below `2 ^ 64`. -/
def ofNat (n : Nat) : Value := .number (.natural (UInt64.ofNat n))

/-- An integer of 64 bits. -/
def ofInt (n : Int) : Value :=
  if 0 ≤ n then ofNat n.toNat else .number (.negative (Int64.ofInt n))

/-- The value of a field of an object. -/
def field? (name : String) : Value → Option Value
  | .object fields => fields.lookup name
  | _ => none

/-- Puts a field into an ordered list of fields, replacing one of the same name. -/
def putField (name : String) (v : Value) : List (String × Value) → List (String × Value)
  | [] => [(name, v)]
  | (k, w) :: rest =>
    if name < k then (name, v) :: (k, w) :: rest
    else if k < name then (k, w) :: putField name v rest
    else (name, v) :: rest

mutual

/-- The value with the fields of every object in the order of their names. -/
def sortFields : Value → Value
  | .array items => .array (sortFieldsItems items)
  | .object fields => .object ((sortFieldsFields fields).foldl (fun l e => putField e.1 e.2 l) [])
  | v => v

/-- `sortFields` on the items of an array. -/
def sortFieldsItems : List Value → List Value
  | [] => []
  | v :: rest => sortFields v :: sortFieldsItems rest

/-- `sortFields` on the values of an object. -/
def sortFieldsFields : List (String × Value) → List (String × Value)
  | [] => []
  | (k, v) :: rest => (k, sortFields v) :: sortFieldsFields rest

end

end Value

end Coverage.Json
