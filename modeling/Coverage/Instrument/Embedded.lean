import Coverage.Instrument.Registration
import Coverage.Script.Node

/-!
# Reading coverage out of an instrumented program

A program has been instrumented if one of its functions declares the coverage object that the
registration writes. The object is read back as the record that it was made from.
-/

namespace Coverage.Instrument

open Coverage.Json (Value)
open Coverage.Script (Node)

/-- A record that was found in a program, with its hash. -/
structure Embedded where
  record : FileRecord
  hash : String
  deriving DecidableEq, Inhabited

/-- The text of a field of an object. -/
def textField? (name : String) (v : Value) : Option String :=
  match v.field? name with
  | some (.string s) => some s
  | _ => none

/-- Reads the text of a coverage object. -/
def Embedded.ofText? (text : String) : Option Embedded := do
  let data ← (Value.ofText text).toOption
  if textField? schemaField data ≠ some schema then failure
  let hash ← textField? hashField data
  return ⟨← (FileRecord.ofValue data).toOption, hash⟩

/-- The value of a variable that may hold a coverage object. -/
def dataValue? (src : List Char) (declarator : Node) : Option Node := do
  let name ← declarator.child? .name
  let value ← declarator.child? .value
  if name.text src = "coverageData".toList ∧ value.kind = .object then return value else failure

/-- The coverage object that a function declares. -/
def embeddedIn? (src : List Char) (function : Node) : Option Embedded := do
  let body ← function.child? .body
  let declarations := body.namedChildren.filter fun n => n.kind = .variableDeclaration
  let value ← (declarations.flatMap Node.namedChildren).findSome? (dataValue? src)
  Embedded.ofText? (String.ofList (value.text src))

/-- The coverage object that a program registers. -/
def embedded? (src : List Char) (program : Node) : Option Embedded :=
  (program.namedChildren.filter fun n => n.kind = .functionDeclaration).findSome?
    (embeddedIn? src)

end Coverage.Instrument
