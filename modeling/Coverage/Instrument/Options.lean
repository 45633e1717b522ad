import Coverage.Json.Decode

/-!
# Options of instrumentation

A document names the options that differ from the defaults; it may also list them by position.
-/

namespace Coverage.Instrument

open Coverage.Json (Decoder)
open Coverage.Json.Decoder (Record once)

/-- How a program is instrumented. -/
structure Options where
  /-- The name of the global object that holds the coverage of all files. -/
  coverageVariable : String
  /-- Whether the registration takes one line only, so that lines keep their numbers. -/
  compact : Bool
  /-- Whether a program may return outside of functions. -/
  autoWrap : Bool
  /-- Whether a program may import and export. -/
  esModules : Bool
  /-- The expression that stands for the global object. -/
  globalScope : String
  /-- Whether that expression is evaluated by a function made at run time. -/
  globalScopeFunction : Bool
  /-- The names of the class methods that are left out. -/
  ignoredMethods : List String
  /-- Whether a comment with the URL of a source map is captured and taken out. -/
  recordSourceMapUrl : Bool
  deriving DecidableEq, Inhabited, Repr

namespace Options

/-- The options that hold where nothing else is said. -/
def default : Options :=
  { coverageVariable := "__coverage__"
    compact := true
    autoWrap := false
    esModules := false
    globalScope := "this"
    globalScopeFunction := true
    ignoredMethods := []
    recordSourceMapUrl := true }

/-- The fields of options that have been read. -/
structure Fields where
  coverageVariable : Option String := none
  compact : Option Bool := none
  autoWrap : Option Bool := none
  esModules : Option Bool := none
  globalScope : Option String := none
  globalScopeFunction : Option Bool := none
  ignoredMethods : Option (List String) := none
  recordSourceMapUrl : Option Bool := none

/-- How options are read. -/
def record : Record Fields where
  name := "InstrumentOptions"
  fieldNames :=
    [("coverageVariable", false), ("compact", false), ("autoWrap", false), ("esModules", false),
      ("coverageGlobalScope", false), ("coverageGlobalScopeFunc", false),
      ("ignoreClassMethods", false), ("recordSourceMapUrl", false)]
  read
    | "coverageVariable" => some fun c d s => do
      return { s with
        coverageVariable := ← once "coverageVariable" s.coverageVariable Decoder.string c d }
    | "compact" => some fun c d s => do
      return { s with compact := ← once "compact" s.compact Decoder.bool c d }
    | "autoWrap" => some fun c d s => do
      return { s with autoWrap := ← once "autoWrap" s.autoWrap Decoder.bool c d }
    | "esModules" => some fun c d s => do
      return { s with esModules := ← once "esModules" s.esModules Decoder.bool c d }
    | "coverageGlobalScope" => some fun c d s => do
      return { s with
        globalScope := ← once "coverageGlobalScope" s.globalScope Decoder.string c d }
    | "coverageGlobalScopeFunc" => some fun c d s => do
      return { s with
        globalScopeFunction :=
          ← once "coverageGlobalScopeFunc" s.globalScopeFunction Decoder.bool c d }
    | "ignoreClassMethods" => some fun c d s => do
      return { s with
        ignoredMethods :=
          ← once "ignoreClassMethods" s.ignoredMethods (Decoder.list Decoder.string) c d }
    | "recordSourceMapUrl" => some fun c d s => do
      return { s with
        recordSourceMapUrl := ← once "recordSourceMapUrl" s.recordSourceMapUrl Decoder.bool c d }
    | _ => none

/-- Reads options. -/
def decode : Decoder Options := fun c d => do
  let s ← record.decode {} c d
  return {
    coverageVariable := s.coverageVariable.getD default.coverageVariable
    compact := s.compact.getD default.compact
    autoWrap := s.autoWrap.getD default.autoWrap
    esModules := s.esModules.getD default.esModules
    globalScope := s.globalScope.getD default.globalScope
    globalScopeFunction := s.globalScopeFunction.getD default.globalScopeFunction
    ignoredMethods := s.ignoredMethods.getD default.ignoredMethods
    recordSourceMapUrl := s.recordSourceMapUrl.getD default.recordSourceMapUrl }

/-- Reads the text of options. -/
def ofText (text : String) : Except Json.Error Options := Decoder.ofText decode text

/-- Reads a value as options. -/
def ofValue (v : Json.Value) : Except Json.Error Options := Decoder.ofValue decode v

end Options

end Coverage.Instrument
