import Coverage.Instrument.Baseline
import Coverage.Main
import Coverage.Proofs.FileRecord.Merge
import Coverage.Proofs.Instrument.Marks
import Coverage.Proofs.SourceMap.Lookup
import Coverage.Proofs.Remap.Unexecuted
import Coverage.Proofs.Instrument.Ignored
import Coverage.Proofs.Snapshot.Merge
import Coverage.Registry
import Coverage.Report.Walk
import Coverage.Snapshot.Exclude
import Coverage.Proofs.Decimal.Binary64
import Coverage.Proofs.FileRecord.Json
import Coverage.Proofs.FileRecord.RoundTrip
import Coverage.Proofs.Instrument.Edits
import Coverage.Proofs.Instrument.Embedded
import Coverage.Proofs.Instrument.Insertions
import Coverage.Proofs.Instrument.ReadBack
import Coverage.Proofs.Instrument.Registration
import Coverage.Proofs.Instrument.Twice
import Coverage.Proofs.Registry.History
import Coverage.Proofs.Report.Layout
import Coverage.Proofs.Script.Tokens
import Coverage.Proofs.Snapshot.RoundTrip
import Coverage.Proofs.Instrument.Brackets
import Coverage.Proofs.Instrument.Numbering
import Coverage.Proofs.Script.Grammar
import Coverage.Proofs.Instrument.Completeness
import Coverage.Proofs.Snapshot.InPlace
import Coverage.Proofs.Remap.Range
import Coverage.Proofs.Instrument.HintRun
import Coverage.Proofs.Remap.Unnamed
import Coverage.Proofs.Remap.Skips
import Coverage.Proofs.Instrument.Clauses
import Coverage.Proofs.Report.Directories
import Coverage.Proofs.Report.Nested
import Coverage.Proofs.Report.Folding
import Coverage.Proofs.Report.CommonDirectory
import Coverage.Proofs.FilePath
import Coverage.Proofs.Instrument.Splicing
import Coverage.Proofs.Instrument.Rendering
import Coverage.Proofs.Instrument.OnePass
import Coverage.Proofs.Instrument.LineNumbers
import Coverage.Proofs.Report.Numbered
import Coverage.Proofs.Report.Packages
import Coverage.Proofs.Report.Labels
import Coverage.Proofs.FileRecord.MergedViews
import Coverage.Proofs.Remap.Untouched
import Coverage.Proofs.Remap.Collector
import Coverage.Proofs.SourceMap.Reckoning
import Coverage.Proofs.SourceMap.Vlq
import Coverage.Proofs.FilePath.Resolution
import Coverage.Proofs.FilePath.Drive
import Coverage.Proofs.Snapshot.Filter
import Coverage.Proofs.Report.LineRanges
import Coverage.Proofs.Instrument.Baseline
import Coverage.Proofs.Instrument.Draft
import Coverage.Proofs.Summary.Percentage
import Coverage.Proofs.Text.LineIndex
