import Coverage.FileRecord.Json
import Coverage.Snapshot.Basic

/-!
# Snapshots as documents

A document lists the records of a snapshot under their paths, or is the record of a single file.
-/

namespace Coverage

open Coverage.Json (Value Decoder Doc)

namespace Snapshot

/-- Writes a snapshot. -/
def toJson (s : Snapshot) : Value := .object (s.files.map fun r => (r.path, r.toJson))

/-- The compact text of a snapshot. -/
def text (s : Snapshot) : String := s.toJson.compact

/-- Puts a record under its key: in place of the one that stands there, or at the end. -/
def putKeyed (key : String) (r : FileRecord) :
    List (String × FileRecord) → List (String × FileRecord)
  | [] => [(key, r)]
  | (k, old) :: rest => if k = key then (k, r) :: rest else (k, old) :: putKeyed key r rest

/-- The records of a document by key; of two records with one key the later counts, in the place
of the earlier. -/
def keyed (l : List (String × FileRecord)) : List (String × FileRecord) :=
  l.foldl (fun acc e => putKeyed e.1 e.2 acc) []

/-- The records of a document, each of which has to describe the path that it is listed under. -/
def ofKeyed (l : List (String × FileRecord)) : Except Error Snapshot :=
  match l.find? fun e => e.1 ≠ e.2.path with
  | some (key, r) => .error (.keyDiffers key r.path)
  | none => .ok (ofRecords (l.map (·.2)))

/-- Reads the text of a snapshot. -/
def ofText (text : String) : Except Error Snapshot := do
  let l ← (Decoder.ofText (Decoder.assoc FileRecord.decode) text).mapError Error.json
  ofKeyed (keyed l)

/-- Whether a document is the record of a single file. -/
def isSingleFile (v : Value) : Bool :=
  (v.field? "path").isSome && (v.field? "statementMap").isSome

/-- Reads the value of a document. A document that lists records is read in the order of its
keys. -/
def ofDocumentValue (v : Value) : Except Error Snapshot := do
  if isSingleFile v then return ofRecords [← FileRecord.ofValue v]
  else ofText v.compact

/-- Reads a document: the text of a snapshot or of the record of a single file. -/
def ofDocument (bytes : List UInt8) : Except Error Snapshot := do
  ofDocumentValue (← (Decoder.run Decoder.value (Doc.ofBytes bytes)).mapError Error.json)

end Snapshot

end Coverage
