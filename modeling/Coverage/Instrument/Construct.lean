import Coverage.Script.Node

/-!
# The constructs that instrumentation tells apart

Which nodes of a program are functions, counted statements, logical operations and directives, and
where the directives at the start of a list of statements end.
-/

namespace Coverage.Script

namespace Kind

/-- Whether a node of a kind is a function. -/
def isFunction : Kind → Bool
  | functionDeclaration | generatorDeclaration | functionExpression | generatorExpression
  | arrowFunction | methodDefinition => true
  | _ => false

/-- Whether a statement of a kind has a counter of its own. Declarations, blocks, empty statements
and the statements of modules have none. -/
def isCounted : Kind → Bool
  | expressionStatement | breakStatement | continueStatement | debuggerStatement | returnStatement
  | throwStatement | tryStatement | ifStatement | forStatement | forInStatement | whileStatement
  | doStatement | switchStatement | withStatement | labeledStatement => true
  | _ => false

/-- Whether a value of a kind takes the name of the variable that it initializes. -/
def takesName : Kind → Bool
  | functionExpression | generatorExpression | arrowFunction | classExpression => true
  | _ => false

/-- Whether a name of a kind is the name of a function as it is written. -/
def isPlainName : Kind → Bool
  | identifier | propertyName | privateName => true
  | _ => false

/-- Whether a node of a kind declares variables. -/
def declaresVariables : Kind → Bool
  | variableDeclaration | lexicalDeclaration => true
  | _ => false

end Kind

namespace Node

/-- Whether a node is an operation that may leave its right operand out. -/
def isLogical (n : Node) : Bool :=
  n.kind = .binaryExpression &&
    match n.child? .operator with
    | some o => o.isToken "&&" || o.isToken "||" || o.isToken "??"
    | none => false

/-- Whether a node is a statement that is a string and nothing else. -/
def isDirective (n : Node) : Bool :=
  n.kind = .expressionStatement &&
    match n.namedChildren.filter fun c => !c.isComment with
    | [only] => only.kind = .string
    | _ => false

/-- Whether a node ends with a semicolon. -/
def endsWithSemicolon (n : Node) : Bool :=
  match (n.children.filter fun c => !c.isComment).getLast? with
  | some c => c.isToken ";"
  | none => false

end Node

/-- The place behind the directives of a list of statements. -/
structure Prologue where
  offset : Nat
  /-- Whether the last directive ends without a semicolon. -/
  needsSemicolon : Bool
  deriving DecidableEq, Inhabited, Repr

/-- The place behind the directives that a list of statements starts with, in which `p` has been
reached already. -/
def prologueFrom (p : Prologue) : List Node → Prologue
  | [] => p
  | n :: rest =>
    if n.isComment then prologueFrom p rest
    else if n.kind = .interpreterLine then prologueFrom ⟨n.stop, false⟩ rest
    else if n.isDirective then prologueFrom ⟨n.stop, !n.endsWithSemicolon⟩ rest
    else p

/-- The place behind directives is the one that had been reached before, or the end of one of the
statements. -/
theorem offset_prologueFrom (p : Prologue) (statements : List Node) :
    (prologueFrom p statements).offset = p.offset ∨
      ∃ n ∈ statements, (n.kind = .interpreterLine ∨ n.kind = .expressionStatement) ∧
        (prologueFrom p statements).offset = n.stop := by
  induction statements generalizing p with
  | nil => exact .inl rfl
  | cons n rest ih =>
    have hbehind : ∀ q : Prologue, q.offset = p.offset ∨
        (n.kind = .interpreterLine ∨ n.kind = .expressionStatement) ∧ q.offset = n.stop →
        (prologueFrom q rest).offset = p.offset ∨ ∃ m ∈ n :: rest,
          (m.kind = .interpreterLine ∨ m.kind = .expressionStatement) ∧
            (prologueFrom q rest).offset = m.stop := by
      intro q hq
      obtain heq | ⟨m, hm, hkind, heq⟩ := ih q
      · rw [heq]
        exact hq.imp_right fun h => ⟨n, List.mem_cons_self, h⟩
      · exact .inr ⟨m, List.mem_cons_of_mem n hm, hkind, heq⟩
    rw [prologueFrom]
    split
    · exact hbehind p (.inl rfl)
    split
    · next hkind => exact hbehind _ (.inr ⟨.inl hkind, rfl⟩)
    split
    · next hdirective =>
      simp only [Node.isDirective, Bool.and_eq_true, decide_eq_true_eq] at hdirective
      exact hbehind _ (.inr ⟨.inr hdirective.1, rfl⟩)
    · exact .inl rfl

/-- The place behind the directives of a list of statements that starts at `offset`. -/
def prologue (statements : List Node) (offset : Nat) : Prologue :=
  prologueFrom ⟨offset, false⟩ statements

end Coverage.Script
