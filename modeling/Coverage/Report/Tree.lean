import Coverage.FilePath
import Coverage.FileRecord.Views

/-!
# Report trees

A report tree has files as leaves and directories above them. Siblings stand in the order of
their paths. The nodes are numbered in pre-order, and a directory sums up what lies below it.
-/

namespace Coverage.Report

/-- A file, or a directory with what lies in it. -/
inductive Node where
  | file (path : FilePath) (record : FileRecord)
  | directory (path : FilePath) (children : List Node)
  deriving Inhabited

namespace Node

/-- The path of a node within its tree. -/
def path : Node → FilePath
  | file p _ => p
  | directory p _ => p

/-- The record of a file. -/
def record? : Node → Option FileRecord
  | file _ r => some r
  | directory _ _ => none

/-- Whether a node is a directory. -/
def isDirectory : Node → Bool
  | file _ _ => false
  | directory _ _ => true

/-- What lies directly in a node. -/
def children : Node → List Node
  | file _ _ => []
  | directory _ ns => ns

/-! ## Order -/

/-- Whether a node may stand before another: paths are compared as texts. -/
def before (a b : Node) : Bool := a.path.text ≤ b.path.text

mutual

/-- The node with the children of every directory in order; children with one path keep the order
they have. -/
def sorted : Node → Node
  | file p r => file p r
  | directory p ns => directory p ((sortedAll ns).mergeSort before)

/-- `sorted` on every node of a list. -/
def sortedAll : List Node → List Node
  | [] => []
  | n :: ns => sorted n :: sortedAll ns

end

/-! ## Paths -/

mutual

/-- The node with every path changed by `f`, its own included. -/
def mapPaths (f : FilePath → FilePath) : Node → Node
  | file p r => file (f p) r
  | directory p ns => directory (f p) (mapPathsAll f ns)

/-- `mapPaths` on every node of a list. -/
def mapPathsAll (f : FilePath → FilePath) : List Node → List Node
  | [] => []
  | n :: ns => mapPaths f n :: mapPathsAll f ns

end

/-! ## Sums -/

mutual

/-- The summary of all files of a node. -/
def summary : Node → Summary
  | file _ r => r.summary
  | directory _ ns => summaryAll .zero ns

/-- The sum of the summaries of a list of nodes and what was summed before. -/
def summaryAll (s : Summary) : List Node → Summary
  | [] => s
  | n :: ns => summaryAll (s + summary n) ns

end

/-- The records of the files that lie directly in a node. -/
def ownRecords (n : Node) : List FileRecord := n.children.filterMap record?

/-- The summary of the files that lie directly in a directory, if there are any; a file sums up
itself. -/
def ownSummary? : Node → Option Summary
  | file _ r => some r.summary
  | n =>
    if n.ownRecords.isEmpty then none else some (.sum (n.ownRecords.map FileRecord.summary))

mutual

/-- How many nodes a tree has. -/
def count : Node → Nat
  | file _ _ => 1
  | directory _ ns => countAll ns + 1

/-- How many nodes a list of trees has. -/
def countAll : List Node → Nat
  | [] => 0
  | n :: ns => count n + countAll ns

end

end Node

/-! ## Rows -/

/-- A node as a report meets it: with its number, its depth and the node above it. -/
structure Row where
  id : Nat
  depth : Nat
  /-- The number and the path of the node above, which the root does not have. -/
  parent : Option (Nat × FilePath)
  node : Node
  deriving Inhabited

namespace Row

/-- Whether a row is that of the root. -/
def isRoot (r : Row) : Bool := r.parent.isNone

/-- The path of a row within its tree. -/
def name (r : Row) : String := r.node.path.text

/-- The path of a row from the node above it on, or the whole path where that one does not lead
to it. -/
def relativeName (r : Row) : String :=
  let above := match r.parent with | some (_, p) => p | none => .root
  if above.isAbove r.node.path then (r.node.path.strip above.size).text else r.name

/-- The numbers of a list of siblings, the first of which is `id`. -/
def siblingIds (id : Nat) : List Node → List Nat
  | [] => []
  | n :: ns => id :: siblingIds (id + n.count) ns

/-- The numbers of the nodes directly below a row. -/
def childIds (r : Row) : List Nat := siblingIds (r.id + 1) r.node.children

end Row

namespace Node

mutual

/-- The rows of a node and of all nodes below it, the node itself first. -/
def rowsFrom (id depth : Nat) (parent : Option (Nat × FilePath)) : Node → List Row
  | file p r => [⟨id, depth, parent, file p r⟩]
  | directory p ns =>
    ⟨id, depth, parent, directory p ns⟩ :: rowsAll (id + 1) (depth + 1) (some (id, p)) ns

/-- The rows of a list of siblings. -/
def rowsAll (id depth : Nat) (parent : Option (Nat × FilePath)) : List Node → List Row
  | [] => []
  | n :: ns => rowsFrom id depth parent n ++ rowsAll (id + n.count) depth parent ns

end

/-- The rows of a tree, in the order of their numbers. -/
def rows (root : Node) : List Row := rowsFrom 0 0 none root

end Node

end Coverage.Report
