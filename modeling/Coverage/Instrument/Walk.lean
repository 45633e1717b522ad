import Coverage.Instrument.Construct
import Coverage.Instrument.Hints
import Coverage.Instrument.Mark
import Coverage.Instrument.Skeleton
import Coverage.Text.Lines

/-!
# The walk through a program

The walk goes through the syntax tree once, in the order of the text. What a node adds to the
skeleton, and which marks it leaves, depends on the node and on the slot that it stands in; entering
a node also gives the plan by which its children get their slots. So all that is particular to a
construct is in `enter` and `Plan.next`, and the walk itself is a traversal of the tree.
-/

namespace Coverage.Instrument

open Coverage.Script (Node Kind Role prologue)

/-- What the walk knows from the start. -/
structure Setting where
  source : List Char
  /-- The nearest hint before an offset. -/
  hintAt : Nat → Option Hint
  /-- The names of the class methods that are left out. -/
  ignoredMethods : List String

namespace Setting

/-- The range of a node. -/
def range (s : Setting) (n : Node) : Location :=
  .between (Text.position s.source n.start) (Text.position s.source n.stop)

/-- The range of the first character of a node. -/
def firstColumn (s : Setting) (n : Node) : Location :=
  let start := Text.position s.source n.start
  .between start ⟨start.line, start.column + 1⟩

/-- The hint in front of a node. -/
def hint (s : Setting) (n : Node) : Option Hint := s.hintAt n.start

/-- Whether a hint in front of a node leaves it out. -/
def leavesOut (s : Setting) (n : Node) : Bool := s.hint n = some .next

/-- Whether a node is a method that is left out because of its name. -/
def ignoresMethod (s : Setting) (n : Node) : Bool :=
  n.kind = .methodDefinition &&
    match n.child? .name with
    | some name => s.ignoredMethods.contains (String.ofList (name.text s.source))
    | none => false

end Setting

/-! ## What has been recorded -/

/-- The skeleton and the marks so far, the last mark first. -/
structure Progress where
  skeleton : Skeleton
  marks : List Mark
  deriving Inhabited

/-- A step of the walk. -/
abbrev Recording := StateM Progress

namespace Recording

/-- Leaves a mark. -/
def mark (m : Mark) : Recording Unit := modify fun p => { p with marks := m :: p.marks }

/-- Changes the skeleton. -/
def onSkeleton {α : Type} (f : Skeleton → Skeleton × α) : Recording α := do
  let p ← get
  let (skeleton, a) := f p.skeleton
  set { p with skeleton }
  return a

/-- Numbers a statement. -/
def newStatement (range : Location) : Recording Id := onSkeleton (·.newStatement range)

/-- Numbers a function. -/
def newFunction (name : Option String) (decl body : Location) : Recording Id :=
  onSkeleton (·.newFunction name decl body)

/-- Numbers a branch. -/
def newBranch (kind : BranchKind) (range : Location) : Recording Id :=
  onSkeleton (·.newBranch kind range)

/-- Adds an outcome to a branch and gives its counter. -/
def newOutcome (branch : Id) (range : Location) : Recording Counter := do
  return .outcome branch (← onSkeleton (·.newOutcome branch range))

/-- Adds an outcome to a branch for an expression that is evaluated for it. -/
def coverOutcome (s : Setting) (branch : Id) (n : Node) : Recording Unit := do
  mark (.pair n.start n.stop (← newOutcome branch (s.range n)))

end Recording

open Recording

/-! ## Slots and plans -/

/-- How a node is walked. -/
inductive Slot where
  /-- As a part of something, wherever it stands. -/
  | part
  /-- As a statement whose counter goes to an offset. -/
  | statement (offset : Nat)
  /-- As the only statement of an arm or a loop, with the counter of the arm. -/
  | arm (counter : Option Counter)
  /-- As the clause that holds the alternative of an `if`, with the counter of that arm. -/
  | elseClause (counter : Counter)
  /-- As a clause in the head of a loop. -/
  | loopHead
  /-- As the list of variables of a statement. -/
  | declaration (offset : Nat)
  /-- As a variable with its value; the counter of a value that takes the name of the variable
  goes to the offset, if there is one. -/
  | declarator (offset : Option Nat)
  /-- As the value of a variable or of a field. -/
  | initializer (offset : Option Nat)
  /-- As a member of a class. -/
  | member
  /-- As the body of a function. -/
  | functionBody (function : Id)
  /-- As the cases of a `switch`. -/
  | cases (branch : Id)
  /-- As one case of a `switch`. -/
  | case (branch : Id)
  /-- As an expression that is one outcome of a branch. -/
  | outcome (branch : Id)
  /-- As an operand of a chain of logical operations. -/
  | operand (branch : Id)
  /-- As the default value of a pattern with the given range. -/
  | defaultValue (pattern : Location)
  deriving DecidableEq, Inhabited, Repr

/-- How the children of a node get their slots. -/
inductive Plan where
  | nothing
  /-- All children are parts. -/
  | parts
  /-- All children are members of a class. -/
  | members
  /-- All children are statements, the first of which may be directives. -/
  | statements (directives : Bool)
  /-- The children are variables. -/
  | declarators (offset : Option Nat)
  /-- The children are what a module exports. -/
  | exports (offset : Nat)
  /-- The children are the head and the body of a loop. -/
  | loop
  /-- The first child that is not a comment is the alternative of an `if`. -/
  | alternative (counter : Counter)
  /-- The children are the cases of a `switch`. -/
  | cases (branch : Id)
  /-- The children are the value and the statements of a case. -/
  | case
  /-- The first child in each role has a slot. -/
  | roles (slots : List (Role × Slot))
  deriving DecidableEq, Inhabited, Repr

namespace Plan

/-- The slot of a statement in a list. -/
def statementSlot (directives : Bool) (c : Node) : Option Slot :=
  if c.isComment || c.kind = .interpreterLine || (directives && c.isDirective) then none
  else some (.statement c.start)

/-- The slot of the next child, if it is walked, and the plan for the children behind it. -/
def next (plan : Plan) (c : Node) : Option Slot × Plan :=
  if !c.isNamed then (none, plan)
  else match plan with
    | nothing => (none, plan)
    | parts => (some .part, plan)
    | members => (some .member, plan)
    | statements directives =>
      match statementSlot directives c with
      | some slot => (some slot, statements false)
      | none => (none, plan)
    | declarators offset =>
      (some (if c.kind = .variableDeclarator then .declarator offset else .part), plan)
    | exports offset =>
      (some (if c.kind.declaresVariables then .declaration offset else .part), plan)
    | loop =>
      (some (if c.role = some .body then .arm none else .loopHead), plan)
    | alternative counter =>
      if c.isComment then (none, plan) else (some (.arm (some counter)), nothing)
    | cases branch =>
      (if c.kind = .switchCase || c.kind = .switchDefault then some (.case branch) else none, plan)
    | case =>
      match c.role with
      | some .value => (some .part, plan)
      | some .body => (statementSlot false c, plan)
      | _ => (none, plan)
    | roles slots =>
      match c.role.bind fun role => slots.find? fun e => e.1 = role with
      | some (role, slot) => (some slot, roles (slots.filter fun e => e.1 ≠ role))
      | none => (none, plan)

end Plan

/-! ## Entering a node -/

/-- Enters a function. -/
def enterFunction (s : Setting) (n : Node) : Recording Plan := do
  let some body := n.child? .body | return .nothing
  let name := n.child? .name
  let plain := name.filter fun m => m.kind.isPlainName
  let decl := match plain with
    | some m => s.range m
    | none => s.firstColumn n
  let id ← newFunction (plain.map fun m => String.ofList (m.text s.source)) decl (s.range body)
  let computed := name.any fun m => m.kind = .computedName
  return .roles ((if computed then [(.name, .part)] else []) ++
    [(.parameters, .part), (.parameter, .part), (.body, .functionBody id)])

/-- Enters an `if`. Both arms are outcomes, also where there is no alternative. -/
def enterIf (s : Setting) (n : Node) : Recording Plan := do
  let hint := s.hint n
  let range := s.range n
  let branch ← newBranch .ifElse range
  let alternative := do
    (← n.child? .alternative).namedChildren.find? fun c => !c.isComment
  let elseRange := match alternative with
    | some a => s.range a
    | none => range
  let first ← newOutcome branch (if hint = some .ifArm then range.skipped else range)
  let second ← newOutcome branch (if hint = some .elseArm then elseRange.skipped else elseRange)
  if alternative.isNone && hint ≠ some .elseArm then
    let stop := match n.child? .consequence with
      | some c => c.stop
      | none => n.stop
    mark (.alternative stop second)
  return .roles ((.condition, .part) ::
    (if hint = some .ifArm then [] else [(.consequence, .arm (some first))]) ++
    (if hint = some .elseArm then [] else [(.alternative, .elseClause second)]))

/-- Enters a `switch`. -/
def enterSwitch (s : Setting) (n : Node) : Recording Plan := do
  let branch ← newBranch .switch (s.range n)
  return .roles [(.value, .part), (.body, .cases branch)]

/-- Enters a conditional expression. -/
def enterConditional (s : Setting) (n : Node) : Recording Plan := do
  let branch ← newBranch .conditional (s.range n)
  return .roles
    [(.condition, .part), (.consequence, .outcome branch), (.alternative, .outcome branch)]

/-- Both operands of a logical operation that belongs to the chain of a branch. -/
def operands (branch : Id) : Plan := .roles [(.left, .operand branch), (.right, .operand branch)]

/-- Enters a chain of logical operations. -/
def enterLogical (s : Setting) (n : Node) : Recording Plan := do
  return operands (← newBranch .logical (s.range n))

/-- Enters a statement for what is in it. -/
def enterConstruct (s : Setting) (offset : Nat) (n : Node) : Recording Plan :=
  match n.kind with
  | .ifStatement => enterIf s n
  | .switchStatement => enterSwitch s n
  | .labeledStatement => return .roles [(.body, .statement offset)]
  | .forStatement | .forInStatement | .whileStatement | .doStatement | .withStatement =>
    return .loop
  | .variableDeclaration | .lexicalDeclaration => return .declarators (some offset)
  | .exportStatement => return .exports offset
  | .statementBlock => return .statements false
  | kind => if kind.isFunction then enterFunction s n else return .parts

/-- Enters a statement whose counter goes to an offset. -/
def enterStatement (s : Setting) (offset : Nat) (n : Node) : Recording Plan := do
  if n.isComment || s.leavesOut n then return .nothing
  if n.kind.isCounted then
    mark (.count offset (.statement (← newStatement (s.range n))))
  enterConstruct s offset n

/-- Enters a node wherever it stands. -/
def enterPart (s : Setting) (n : Node) : Recording Plan := do
  if n.isComment || s.leavesOut n then return .nothing
  match n.kind with
  | .ternaryExpression => enterConditional s n
  | .binaryExpression => if n.isLogical then enterLogical s n else return .parts
  | .assignmentPattern | .objectAssignmentPattern =>
    return .roles [(.left, .part), (.right, .defaultValue (s.range n))]
  | .variableDeclaration | .lexicalDeclaration => return .declarators none
  | .fieldDefinition => return .roles [(.property, .part), (.value, .initializer none)]
  | .statementBlock => return .statements false
  | .classBody => return .members
  | kind =>
    if kind.isFunction then enterFunction s n
    else if kind.isCounted then enterStatement s n.start n
    else return .parts

/-- Enters the only statement of an arm or a loop. One that is not a block gets one around it, so
that counters can stand in front of it. -/
def enterArm (s : Setting) (counter : Option Counter) (n : Node) : Recording Plan := do
  if n.kind = .statementBlock then
    if let some c := counter then mark (.count (n.start + 1) c)
    return if s.leavesOut n then .nothing else .statements false
  else
    mark (.block n.start n.stop)
    if let some c := counter then mark (.count n.start c)
    enterStatement s n.start n

/-- Enters the value of a variable or of a field. -/
def enterInitializer (s : Setting) (offset : Option Nat) (n : Node) : Recording Plan := do
  let counter := .statement (← newStatement (s.range n))
  match offset with
  | some offset =>
    if n.kind.takesName then mark (.count offset counter)
    else mark (.pair n.start n.stop counter)
  | none => mark (.pair n.start n.stop counter)
  enterPart s n

/-- Enters the body of a function. An expression becomes the only statement of a block. -/
def enterBody (s : Setting) (function : Id) (n : Node) : Recording Plan := do
  if n.kind = .statementBlock then
    let p := prologue n.namedChildren (n.start + 1)
    mark (.entry p.offset p.needsSemicolon (.function function))
    return .statements true
  else
    let id ← newStatement (s.range n)
    mark (.body n.start n.stop (.function function) (.statement id))
    enterPart s n

/-- Enters a case of a `switch`. -/
def enterCase (s : Setting) (branch : Id) (n : Node) : Recording Plan := do
  if s.leavesOut n then return .nothing
  let counter ← newOutcome branch (s.range n)
  if let some colon := n.children.find? fun c => c.isToken ":" then
    mark (.count colon.stop counter)
  return .case

/-- Enters an operand of a chain of logical operations. An operation within the chain has no
outcome of its own. -/
def enterOperand (s : Setting) (branch : Id) (n : Node) : Recording Plan := do
  if s.leavesOut n then return .nothing
  if n.isLogical then return operands branch
  coverOutcome s branch n
  enterPart s n

/-- Enters a node in a slot. -/
def enter (s : Setting) (slot : Slot) (n : Node) : Recording Plan := do
  match slot with
  | .part => enterPart s n
  | .statement offset => enterStatement s offset n
  | .arm counter => enterArm s counter n
  | .elseClause counter => return .alternative counter
  | .loopHead => if n.kind = .expressionStatement then return .parts else enterPart s n
  | .declaration offset => return .declarators (some offset)
  | .declarator offset => return .roles [(.name, .part), (.value, .initializer offset)]
  | .initializer offset => enterInitializer s offset n
  | .member => if s.ignoresMethod n then return .nothing else enterPart s n
  | .functionBody function => enterBody s function n
  | .cases branch => return .cases branch
  | .case branch => enterCase s branch n
  | .outcome branch =>
    if s.leavesOut n then return .nothing
    coverOutcome s branch n
    enterPart s n
  | .operand branch => enterOperand s branch n
  | .defaultValue pattern =>
    let branch ← newBranch .defaultValue pattern
    coverOutcome s branch n
    enterPart s n

/-! ## The traversal -/

mutual

/-- Walks a node in a slot. -/
def walk (s : Setting) (slot : Slot) : Node → Recording Unit
  | ⟨kind, role, start, stop, children⟩ => do
    walkAll s (← enter s slot ⟨kind, role, start, stop, children⟩) children

/-- Walks the children of a node by its plan. -/
def walkAll (s : Setting) (plan : Plan) : List Node → Recording Unit
  | [] => pure ()
  | c :: rest => do
    match plan.next c with
    | (some slot, plan) =>
      walk s slot c
      walkAll s plan rest
    | (none, plan) => walkAll s plan rest

end

/-- Walks a whole program: its skeleton and the marks in the order in which they were left. -/
def walkProgram (s : Setting) (path : String) (program : Node) : Skeleton × List Mark :=
  let ((), p) := (walkAll s (.statements true) program.children).run ⟨.empty path, []⟩
  (p.skeleton, p.marks.reverse)

end Coverage.Instrument
