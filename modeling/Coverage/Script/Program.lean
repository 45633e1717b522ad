import Coverage.Script.Reader.Advance

/-!
# Reading a program

The best reading of a text is made into a syntax tree. Phrases that are no nodes of their own leave
their parts to the node above them, with their role. Reading never fails: what does not fit the
grammar is in the tree as well, and the first such node is the fault of the text.
-/

namespace Coverage.Script

namespace Node

/-- The end of the last of some nodes that is not a comment. -/
def codeStop? (nodes : List Node) : Option Nat :=
  nodes.foldl (fun stop n => if n.isComment then stop else some n.stop) none

end Node

namespace Phrase

mutual

/-- Puts the nodes of a phrase in front of others. A node ends with the last of its children that
is not a comment. -/
def nodesBefore (s : Source) (alias? : Option Kind) (role : Option Role) :
    Phrase → List Node → List Node
  | ⟨e, ps⟩, behind =>
    match alias?.or e.symbol.kind? with
    | some kind =>
      let children := partsBefore s e.shape none ps []
      let stop := (Node.codeStop? children).getD (s.offset e.stop)
      ⟨kind, role, s.offset e.start, stop, children⟩ :: behind
    | none => partsBefore s e.shape role ps behind

/-- Puts the nodes of the parts of a phrase in front of others. Parts without a role of their own
inherit one. -/
def partsBefore (s : Source) (shape : Shape) (inherited : Option Role) :
    List Phrase → List Node → List Node
  | [], behind => behind
  | p :: ps, behind =>
    if p.extra then
      nodesBefore s none none p (partsBefore s shape inherited ps behind)
    else
      let part := shape.headD .bare
      nodesBefore s part.alias? (part.role.or inherited) p
        (partsBefore s shape.tail inherited ps behind)

end

end Phrase

/-- Why a text is no program. -/
structure Fault where
  start : Nat
  stop : Nat
  /-- The token that the text lacks; none where something is too much. -/
  missing : Option Kind
  deriving DecidableEq, Inhabited, Repr

namespace Phrase

mutual

/-- The first node of a phrase that does not fit the grammar. -/
def fault? (s : Source) (alias? : Option Kind) : Phrase → Option Fault
  | ⟨e, ps⟩ =>
    if e.cost = 0 then none
    else
      let kind := alias?.or e.symbol.kind?
      if kind.isSome && (e.missing || e.symbol = Symbol.fault) then
        some ⟨s.offset e.start, s.offset e.stop, if e.missing then kind else none⟩
      else faultIn? s e.shape ps

/-- The first node of some phrases that does not fit the grammar. -/
def faultIn? (s : Source) (shape : Shape) : List Phrase → Option Fault
  | [] => none
  | p :: ps =>
    if p.extra then (fault? s none p).or (faultIn? s shape ps)
    else (fault? s (shape.headD .bare).alias? p).or (faultIn? s shape.tail ps)

end

end Phrase

namespace Node

mutual

/-- Puts the comments in a tree in front of others. -/
def commentsBefore : Node → List Node → List Node
  | ⟨kind, role, start, stop, children⟩, behind =>
    if kind = .comment then ⟨kind, role, start, stop, children⟩ :: behind
    else commentsInBefore children behind

/-- Puts the comments in several trees in front of others. -/
def commentsInBefore : List Node → List Node → List Node
  | [], behind => behind
  | n :: ns, behind => commentsBefore n (commentsInBefore ns behind)

end

end Node

/-- A text that was read. -/
structure Program where
  /-- The syntax tree. -/
  tree : Node
  /-- All comments, in order. -/
  comments : List Node
  fault : Option Fault
  deriving Inhabited

/-- Reads a text. -/
def Program.read (cs : List Char) : Program :=
  let s := Source.ofText cs
  match Phrase.ofSource s with
  | some p =>
    let tree := (p.nodesBefore s none none []).headD default
    ⟨tree, tree.commentsBefore [], p.fault? s none⟩
  | none => ⟨default, [], some ⟨0, 0, none⟩⟩

end Coverage.Script
