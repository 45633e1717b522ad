import Coverage.Digest.Sha256
import Coverage.FileRecord.Json
import Coverage.Instrument.Options

/-!
# Registration of coverage at run time

An instrumented program starts with a function that registers the coverage object of its file
under a global variable, once, and in place of one of another hash. Then the function gives that
object without further ado. The object is written into the function together with a marker and the
hash of all the rest, so that a program which has been instrumented can be told and read back.
-/

namespace Coverage.Instrument

open Coverage.Json (Value quote)

/-- The marker of coverage objects that were written by this schema. -/
def schema : String := "d379c30504f5925fb6f84abe46f2bf7c7a402cc934e54b809eac658a6cb8e029"

/-- The name of the field that holds the marker. -/
def schemaField : String := "_coverageSchema"

/-- The name of the field that holds the hash. -/
def hashField : String := "hash"

/-- The fields of a coverage object without its hash, in the order of their names. -/
def dataFields (r : FileRecord) : List (String × Value) :=
  match r.toJson.sortFields with
  | .object fields => Value.putField schemaField (.string schema) fields
  | _ => Value.putField schemaField (.string schema) []

/-- The hash of a coverage object. -/
def dataHash (r : FileRecord) : String := Digest.sha256Hex (Value.object (dataFields r)).compact

/-- The coverage object that a program registers. -/
def coverageData (r : FileRecord) : Value :=
  .object (Value.putField hashField (.string (dataHash r)) (dataFields r))

/-- The expression for the global object. -/
def globalText (o : Options) : String :=
  if o.globalScopeFunction then "new Function(" ++ quote ("return " ++ o.globalScope) ++ ")()"
  else o.globalScope

/-- The statements of the function that registers a coverage object. -/
def registrationLines (accessor path hash : String) (data : Value) (o : Options) : List String :=
  [ "var path = " ++ quote path ++ ";",
    "var hash = " ++ quote hash ++ ";",
    "var global = " ++ globalText o ++ ";",
    "var gcv = " ++ quote o.coverageVariable ++ ";",
    "var coverageData = " ++ (if o.compact then data.compact else data.pretty) ++ ";",
    "var coverage = global[gcv] || (global[gcv] = \x7b\x7d);",
    "if (!coverage[path] || coverage[path].hash !== hash) \x7b",
    "coverage[path] = coverageData;",
    "\x7d",
    "var actualCoverage = coverage[path];",
    accessor ++ " = function () \x7b return actualCoverage; \x7d;",
    "return actualCoverage;" ]

/-- The function that registers a coverage object, and its first call. -/
def registration (accessor path hash : String) (data : Value) (o : Options) : String :=
  let lines := registrationLines accessor path hash data o
  if o.compact then
    "function " ++ accessor ++ "() \x7b" ++ String.join lines ++ "\x7d" ++ accessor ++ "();"
  else
    "function " ++ accessor ++ "() \x7b\n" ++ "\n".intercalate (lines.map fun l => "  " ++ l) ++
      "\n\x7d\n" ++ accessor ++ "();\n"

end Coverage.Instrument
