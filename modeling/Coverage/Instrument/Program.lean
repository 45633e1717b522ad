import Coverage.Instrument.Check
import Coverage.Instrument.Embedded
import Coverage.Instrument.Walk

/-!
# Instrumentation of a program

The program is read, walked, and put out again with the marks that the walk left and with the
registration in front; all else stays as it is. A program that has been instrumented before comes
out as it went in.
-/

namespace Coverage.Instrument

open Coverage.Json (Value)
open Coverage.Script (Node prologue)

/-- What instrumentation makes of a program. -/
structure Output where
  code : String
  /-- The record of the program, with all counters at zero. -/
  record : FileRecord
  /-- The hash that the coverage object carries at run time. -/
  hash : String
  /-- The source map that the program named. -/
  sourceMapUrl : Option String
  deriving DecidableEq, Inhabited

/-- Where the registration goes, and what has to stand before it. -/
structure Preamble where
  offset : Nat
  lead : String
  deriving DecidableEq, Inhabited, Repr

/-- The place of the registration: behind the line that names an interpreter, which keeps its own
line, and behind directives. -/
def preamble (src : List Char) (program : Node) : Preamble :=
  let statements := program.namedChildren
  let p := prologue statements 0
  if statements.any fun n => n.kind = .interpreterLine && n.stop = p.offset then
    match Text.dropBytes p.offset src with
    | '\n' :: _ => ⟨p.offset + 1, ""⟩
    | _ => ⟨p.offset, "\n"⟩
  else ⟨p.offset, if p.needsSemicolon then ";" else ""⟩

/-- The comments of a program, in order. -/
def commentsOf (src : List Char) (nodes : List Node) : List Comment :=
  (nodes.filter Node.isComment).map (Comment.ofNode src)

/-- Instruments a program without faults. -/
def instrumentProgram (o : Options) (src : List Char) (path : String) (sourceMap : Option Value)
    (program : Node) (comments : List Comment) : Output :=
  let setting : Setting :=
    { source := src
      hintAt := hintBefore src comments.reverse
      ignoredMethods := o.ignoredMethods }
  let (skeleton, marks) := walkProgram setting path program
  let record := match sourceMap with
    | some map => (skeleton.withSourceMap map).freeze
    | none => skeleton.freeze
  let accessor := accessorName path
  let hash := dataHash record
  let place := preamble src program
  let edits := (Mark.edits accessor marks).prepend place.offset
    (place.lead ++ registration accessor path hash (coverageData record) o)
  match if o.recordSourceMapUrl then mapComment? comments else none with
  | some (c, url) =>
    ⟨String.ofList ((edits.replace c.start c.stop "").apply src), record, hash, some url⟩
  | none => ⟨String.ofList (edits.apply src), record, hash, none⟩

/-- Instruments the text of a program that is read by `read`. -/
def instrumentBy (read : List Char → Script.Program) (o : Options) (code path : String)
    (sourceMap : Option Value) : Except Error Output := do
  let src := code.toList
  let program := read src
  match embedded? src program.tree with
  | some found => return ⟨code, found.record, found.hash, none⟩
  | none =>
    check o path src program
    return instrumentProgram o src path sourceMap program.tree (commentsOf src program.comments)

/-- Instruments the text of a program. -/
def instrument (o : Options) (code path : String) (sourceMap : Option Value) :
    Except Error Output :=
  instrumentBy Script.Program.read o code path sourceMap

/-- Instruments the bytes of a program. -/
def instrumentBytes (o : Options) (bytes : List UInt8) (path : String)
    (sourceMap : Option Value) : Except Error Output := do
  instrument o (← (Text.decodeUtf8 bytes).mapError (.notUtf8 path)) path sourceMap

end Coverage.Instrument
