import Coverage.Report.Tree
import Coverage.Snapshot.Basic
import Coverage.Text.Case

/-!
# Layouts of a report

The files of a snapshot are first named from the deepest directory that contains all of them on.
Three layouts make a tree of them: all files under one root, one node for every directory that
holds a file, or the whole tree of directories with every directory folded away that leads to one
directory and to nothing else.
-/

namespace Coverage.Report

/-- The layouts of a report. -/
inductive Layout where
  | flat
  | packages
  | nested
  deriving DecidableEq, Inhabited, Repr

namespace Layout

/-- The name of a layout. -/
def name : Layout → String
  | flat => "flat"
  | packages => "pkg"
  | nested => "nested"

/-- The layouts with the names they are asked for by. -/
def named : List (String × Layout) :=
  [("flat", flat), ("pkg", packages), ("package", packages), ("nested", nested)]

/-- The layout of a name, in letters of either case. -/
def ofName (text : String) : Except Error Layout :=
  match named.lookup (Text.asciiLower text) with
  | some l => .ok l
  | none => .error (.unknownLayout text)

end Layout

/-- A file of a report and its path from the common directory on. -/
structure Entry where
  path : FilePath
  record : FileRecord

/-- The deepest directory that contains all files of a snapshot. -/
def commonDirectory (s : Snapshot) : FilePath :=
  match s.files.map fun r => (FilePath.parse r.path).directory with
  | [] => .root
  | first :: rest => rest.foldl FilePath.common first

/-- The files of a snapshot with their paths from the common directory on. -/
def entries (s : Snapshot) : List Entry :=
  let n := (commonDirectory s).size
  s.files.map fun r => ⟨(FilePath.parse r.path).strip n, r⟩

/-- The leaf of a file. -/
def Entry.leaf (e : Entry) : Node := .file e.path e.record

/-! ## All files under one root -/

/-- All files under one root. -/
def flatTree (es : List Entry) : Node := .directory .root (es.map Entry.leaf)

/-! ## One node for every directory that holds a file -/

/-- Puts a file into the node of its directory, which is added at the end if it is new. Directories
are told apart by their texts. -/
def putPackage (e : Entry) : List (FilePath × List Node) → List (FilePath × List Node)
  | [] => [(e.path.directory, [e.leaf])]
  | (p, ns) :: rest =>
    if p.text = e.path.directory.text then (p, ns ++ [e.leaf]) :: rest
    else (p, ns) :: putPackage e rest

/-- The directories that hold files, in the order of their first files. -/
def packages (es : List Entry) : List Node :=
  (es.foldl (fun acc e => putPackage e acc) []).map fun d => .directory d.1 d.2

/-- The segment that stands in front of all paths when some file lies in the common directory
itself: the name of that directory. -/
def topSegment (common : FilePath) : String := if common.isRoot then "root" else common.name

/-- One node for every directory that holds a file. A single one is the root; several stand under
a root of their own. -/
def packageTree (common : FilePath) (es : List Entry) : Node :=
  match packages es with
  | [only] => only
  | ns =>
    if ns.any fun n => n.path.isRoot then
      .directory .root (Node.mapPathsAll (·.unshift (topSegment common)) ns)
    else .directory .root ns

/-! ## The whole tree of directories -/

/-- The node of a file below the directories `names` that lead to it from `here` on. -/
def chain (leaf : Node) (here : FilePath) : List String → Node
  | [] => leaf
  | s :: rest => .directory (here.push s) [chain leaf (here.push s) rest]

mutual

/-- Puts a file into a directory, `names` being the directories that lead to it from there. -/
def putNested (leaf : Node) (names : List String) : Node → Node
  | .file p r => .file p r
  | .directory p ns =>
    match names with
    | [] => .directory p (ns ++ [leaf])
    | s :: rest => .directory p (putBelow leaf p s rest ns)

/-- Puts a file below the directory `s` of a list of siblings, which is added at the end if it is
new. -/
def putBelow (leaf : Node) (here : FilePath) (s : String) (rest : List String) :
    List Node → List Node
  | [] => [.directory (here.push s) [chain leaf (here.push s) rest]]
  | n :: ns =>
    if n.isDirectory && n.path == here.push s then putNested leaf rest n :: ns
    else n :: putBelow leaf here s rest ns

end

mutual

/-- Folds away the directories that hold one directory and nothing else. -/
def fold : Node → Node
  | .file p r => .file p r
  | .directory p ns =>
    match ns, foldAll ns with
    | [.directory _ _], [only] => only
    | _, folded => .directory p folded

/-- `fold` on every node of a list. -/
def foldAll : List Node → List Node
  | [] => []
  | n :: ns => fold n :: foldAll ns

end

/-- The whole tree of directories, folded. -/
def nestedTree (es : List Entry) : Node :=
  fold (es.foldl (fun root e =>
    if e.path.isRoot then root else putNested e.leaf e.path.directory.segments root)
    (.directory .root []))

/-- The report tree of a snapshot. -/
def tree (layout : Layout) (s : Snapshot) : Node :=
  let es := entries s
  Node.sorted (match layout with
    | .flat => flatTree es
    | .packages => packageTree (commonDirectory s) es
    | .nested => nestedTree es)

end Coverage.Report
