import Coverage.Report.Layout

/-!
# The table of a report

One row per node with the four percentages, the names indented by depth. All columns but the
first have a fixed width.
-/

namespace Coverage.Report

/-- What the root is called. -/
def rootLabel : String := "All files"

/-- The label of a row: its name from the node above it on, indented by its depth. -/
def label (r : Row) : String :=
  if r.isRoot then rootLabel
  else String.ofList (List.replicate r.depth ' ') ++ r.relativeName

/-- A text with blanks behind it up to a width in characters. -/
def padRight (width : Nat) (s : String) : String :=
  s ++ String.ofList (List.replicate (width - s.length) ' ')

/-- A text with blanks before it up to a width in characters. -/
def padLeft (width : Nat) (s : String) : String :=
  String.ofList (List.replicate (width - s.length) ' ') ++ s

/-- The line between the parts of a table. -/
def separator (width : Nat) : String :=
  String.ofList (List.replicate width '-') ++ "-|---------|----------|---------|---------\n"

/-- The line of the headings. -/
def header (width : Nat) : String :=
  padRight width "File" ++ " | % Stmts | % Branch | % Funcs | % Lines\n"

/-- The line of a row. -/
def rowText (width : Nat) (r : Row) : String :=
  let s := r.node.summary
  padRight width (label r) ++ " | " ++ padLeft 7 s.statements.percent.plainText ++
    " | " ++ padLeft 8 s.branches.percent.plainText ++
    " | " ++ padLeft 7 s.functions.percent.plainText ++
    " | " ++ padLeft 7 s.lines.percent.plainText ++ "\n"

/-- The width of the first column: that of the widest label, but at least that of its heading. -/
def labelWidth (rows : List Row) : Nat :=
  (rows.map fun r => (label r).length).foldl max 4

/-- The table of a report tree. -/
def textTable (root : Node) : String :=
  let rows := root.rows
  let width := labelWidth rows
  separator width ++ header width ++ separator width ++
    String.join (rows.map (rowText width)) ++ separator width

end Coverage.Report
