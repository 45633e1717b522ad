import Coverage.Instrument.Program
import Coverage.Snapshot.Basic

/-!
# A baseline of files that were never run

Every program that is instrumented leaves a record without hits in the baseline, so that files
which are loaded but never run show up in reports. Such a record gives way to any other record of
its file.
-/

namespace Coverage.Instrument

/-- The record of a program that has not been run. -/
def unexecutedRecord (r : FileRecord) : FileRecord := { r.resetHits with unexecuted := true }

/-- Takes what an instrumentation gave into a baseline: what is handed on, and the baseline
afterwards. A failure leaves the baseline as it was. -/
def collect (baseline : Snapshot) (result : Except Error Output) :
    Except Error Output × Snapshot :=
  match result with
  | .error e => (.error e, baseline)
  | .ok out =>
    match baseline.add (unexecutedRecord out.record) with
    | .ok larger => (.ok out, larger)
    | .error e => (.error e, baseline)

/-- A program that is to be instrumented. -/
structure Request where
  code : String
  path : String
  sourceMap : Option Json.Value
  deriving DecidableEq, Inhabited

/-- What instruments programs: what a request gives, and the state that the next one meets. -/
abbrev Instrumenter (σ : Type) := Request → σ → Except Error Output × σ

/-- The state of an instrumenter with the baseline of what it gave so far. -/
structure WithBaseline (σ : Type) where
  inner : σ
  baseline : Snapshot

namespace Instrumenter

variable {σ : Type}

/-- Hands each request on, and takes what comes back into the baseline. -/
def withBaseline (inner : Instrumenter σ) : Instrumenter (WithBaseline σ) := fun request s =>
  let (result, state) := inner request s.inner
  let (answer, baseline) := collect s.baseline result
  (answer, ⟨state, baseline⟩)

/-- Makes requests one after the other: the answers, and the state afterwards. -/
def run (instrumenter : Instrumenter σ) : List Request → σ → List (Except Error Output) × σ
  | [], s => ([], s)
  | request :: rest, s =>
    let (answer, s) := instrumenter request s
    let (answers, s) := run instrumenter rest s
    (answer :: answers, s)

end Instrumenter

end Coverage.Instrument
