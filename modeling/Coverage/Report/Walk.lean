import Coverage.Report.Numbered

/-!
# Walks over a report tree

A walk starts at the root, follows the numbers of the children from every node down, and ends at the
root. Several listeners on one walk hear every event one after the other.
-/

namespace Coverage.Report

/-- What a listener on a walk hears. -/
inductive Event where
  /-- The root, before all else. -/
  | start (row : Row)
  /-- A directory. -/
  | summary (row : Row)
  /-- A file. -/
  | detail (row : Row)
  /-- The root, after all else. -/
  | stop (row : Row)
  deriving Inhabited

/-- What a listener hears at a row. -/
def Event.ofRow (r : Row) : Event :=
  if r.node.isDirectory then .summary r else .detail r

/-- The events at the node with a number and at all nodes below it. -/
def Numbered.eventsFrom (t : Numbered) (id : Nat) : List Event :=
  match _h : t.slots[id]? with
  | none => []
  | some x => .ofRow x.row :: x.children.attach.flatMap fun c => t.eventsFrom c.1
termination_by t.slots.length - id
decreasing_by
  have hlater := t.later id x _h c.1 c.2
  omega

/-- The events of a walk, in order. -/
def walk (root : Node) : List Event :=
  let top : Row := ⟨0, 0, none, root⟩
  .start top :: (root.numbered.eventsFrom 0 ++ [.stop top])

/-- What a list of listeners hears of a walk, each event by every listener in turn. -/
def walkTogether {α : Type} (listeners : List α) (root : Node) : List (α × Event) :=
  (walk root).flatMap fun e => listeners.map fun l => (l, e)

end Coverage.Report
