import Coverage.Instrument.Construct
import Coverage.Proofs.Script.Tokens

/-!
# What the grammar makes of nodes

What the syntax of a program without faults says about the children of a node (`Node.Conforms`):
which of them are statements, which roles they play, and what has no expressions in it. The links of
a tree, from each node to each of its children, stand in the order of the text (`Node.links`).

Links to the decorators of class members are left out of this list, with all that is below them. In
a tree without such decorators every child of every node has its link (`mem_links_of_inTree`).
-/

namespace Coverage.Script

namespace Kind

/-- Whether a node of a kind is a statement. -/
def isStatement : Kind → Bool
  | exportStatement | importStatement | debuggerStatement | expressionStatement
  | functionDeclaration | generatorDeclaration | classDeclaration | lexicalDeclaration
  | variableDeclaration | statementBlock | ifStatement | switchStatement | forStatement
  | forInStatement | whileStatement | doStatement | tryStatement | withStatement | breakStatement
  | continueStatement | returnStatement | throwStatement | emptyStatement | labeledStatement => true
  | _ => false

/-- Whether a node of a kind is punctuation, a comment, a name or a literal, which have no
expressions in them. -/
def isBare : Kind → Bool
  | token _ | comment | markupComment | interpreterLine | identifier | propertyName | privateName
  | statementLabel | string | fragment | escape | number => true
  | _ => false

/-- Whether a node of a kind is one case of a `switch`. -/
def isCase : Kind → Bool
  | switchCase | switchDefault => true
  | _ => false

/-- Whether a node of a kind is a member of a class that can have decorators. -/
def isMember : Kind → Bool
  | methodDefinition | fieldDefinition => true
  | _ => false

/-- Whether a node of a kind is a pattern with a default value. -/
def hasDefault : Kind → Bool
  | assignmentPattern | objectAssignmentPattern => true
  | _ => false

/-- Whether the body of a node of a kind is a single statement, or one of a list of them. -/
def hasStatementBody : Kind → Bool
  | labeledStatement | forStatement | forInStatement | whileStatement | doStatement | withStatement
  | switchCase | switchDefault => true
  | _ => false

/-- The roles of all children that are more than bare, for the kinds of nodes whose children are
told apart by their roles only. -/
def roles? : Kind → Option (List Role)
  | functionDeclaration | generatorDeclaration | functionExpression | generatorExpression
  | arrowFunction | methodDefinition => some [.name, .parameters, .parameter, .body]
  | ifStatement | ternaryExpression => some [.condition, .consequence, .alternative]
  | switchStatement => some [.value, .body]
  | assignmentPattern | objectAssignmentPattern | binaryExpression => some [.left, .right]
  | labeledStatement => some [.body]
  | fieldDefinition => some [.property, .value]
  | variableDeclarator => some [.name, .value]
  | _ => none

/-- Whether a node of a kind is no function, no branch and no pattern with a default value, and
cannot have decorators. -/
def isPlain : Kind → Bool
  | functionDeclaration | generatorDeclaration | functionExpression | generatorExpression
  | arrowFunction | methodDefinition | fieldDefinition | ifStatement | switchStatement
  | ternaryExpression | binaryExpression | assignmentPattern | objectAssignmentPattern => false
  | _ => true

theorem isFunction_of_isPlain {kind : Kind} (h : kind.isPlain = true) :
    kind.isFunction = false := by
  cases kind <;> first | rfl | cases h

theorem hasDefault_of_isPlain {kind : Kind} (h : kind.isPlain = true) :
    kind.hasDefault = false := by
  cases kind <;> first | rfl | cases h

theorem isMember_of_isPlain {kind : Kind} (h : kind.isPlain = true) : kind.isMember = false := by
  cases kind <;> first | rfl | cases h

theorem isPlain_of_isBare {kind : Kind} (h : kind.isBare = true) : kind.isPlain = true := by
  cases kind <;> first | rfl | cases h

theorem isPlain_of_declaresVariables {kind : Kind} (h : kind.declaresVariables = true) :
    kind.isPlain = true := by
  cases kind <;> first | rfl | cases h

theorem hasDefault_of_isFunction {kind : Kind} (h : kind.isFunction = true) :
    kind.hasDefault = false := by
  cases kind <;> first | rfl | cases h

theorem hasDefault_of_ne {kind : Kind} (hpattern : kind ≠ assignmentPattern)
    (hshorthand : kind ≠ objectAssignmentPattern) : kind.hasDefault = false := by
  cases kind <;> first
    | rfl
    | exact absurd rfl hpattern
    | exact absurd rfl hshorthand

theorem isPlain_of_isStatement {kind : Kind} (h : kind.isStatement = true ∨ kind.isBare = true)
    (hfunction : ¬ kind.isFunction = true) (hif : kind ≠ ifStatement)
    (hswitch : kind ≠ switchStatement) : kind.isPlain = true := by
  cases kind <;> first
    | rfl
    | exact absurd rfl hfunction
    | exact absurd rfl hif
    | exact absurd rfl hswitch
    | (rcases h with h | h <;> cases h)

theorem isPlain_of_uncounted {kind : Kind} (hfunction : ¬ kind.isFunction = true)
    (hcounted : ¬ kind.isCounted = true) (hternary : kind ≠ ternaryExpression)
    (hbinary : kind ≠ binaryExpression) (hpattern : kind.hasDefault = false)
    (hfield : kind ≠ fieldDefinition) : kind.isPlain = true := by
  cases kind <;> first
    | rfl
    | exact absurd rfl hfunction
    | exact absurd rfl hcounted
    | exact absurd rfl hternary
    | exact absurd rfl hbinary
    | exact absurd rfl hfield
    | cases hpattern

theorem isStatement_of_isCounted {kind : Kind} (h : kind.isCounted = true) :
    kind.isStatement = true := by
  cases kind <;> first | rfl | cases h

theorem isCase_iff {kind : Kind} :
    kind.isCase = true ↔ kind = switchCase ∨ kind = switchDefault := by
  cases kind <;> simp [isCase]

theorem roles?_of_isFunction {kind : Kind} (h : kind.isFunction = true) :
    kind.roles? = some [.name, .parameters, .parameter, .body] := by
  cases kind <;> first | rfl | cases h

theorem right_mem_of_hasDefault {kind : Kind} (h : kind.hasDefault = true) {roles : List Role}
    (hroles : kind.roles? = some roles) : .right ∈ roles := by
  cases kind <;> first
    | (cases h; done)
    | (cases hroles; simp)

end Kind

namespace Node

theorem isBare_of_unnamed {c : Node} (h : c.isNamed = false) : c.kind.isBare = true := by
  rw [isNamed] at h
  split at h
  · next hkind => rw [hkind]; rfl
  · cases h

theorem isBare_of_isComment {c : Node} (h : c.isComment = true) : c.kind.isBare = true := by
  have hkind : c.kind = .comment := of_decide_eq_true h
  rw [hkind]
  rfl

theorem code_of_isStatement {c : Node} (h : c.kind.isStatement = true) :
    c.isNamed = true ∧ c.isComment = false := by
  rw [isNamed, isComment]
  cases hkind : c.kind <;> first
    | (rw [hkind] at h; cases h; done)
    | exact ⟨rfl, rfl⟩

/-- A directive consists of a string, punctuation and comments. -/
theorem isBare_of_isDirective {c d : Node} (h : c.isDirective = true) (hd : d ∈ c.children) :
    d.kind.isBare = true := by
  rw [isDirective, Bool.and_eq_true] at h
  obtain ⟨-, h⟩ := h
  split at h
  · next only heq =>
    cases hnamed : d.isNamed with
    | false => exact isBare_of_unnamed hnamed
    | true =>
      cases hcomment : d.isComment with
      | true => exact isBare_of_isComment hcomment
      | false =>
        have hmem : d ∈ c.namedChildren.filter fun c => !c.isComment :=
          List.mem_filter.2 ⟨List.mem_filter.2 ⟨hd, hnamed⟩, by rw [hcomment]; rfl⟩
        rw [heq, List.mem_singleton] at hmem
        have hkind : d.kind = .string := hmem ▸ of_decide_eq_true h
        rw [hkind]
        rfl
  · cases h

/-- Whether a child is a decorator of a class member. -/
def decorates (m c : Node) : Bool := m.kind.isMember && c.kind = .decorator

/-- Two children do not play the same role. -/
def PlayApart (a b : Node) : Prop := a.role = none ∨ a.role ≠ b.role

theorem PlayApart.role_ne {a b : Node} (h : a.PlayApart b) {role : Role} (ha : a.role = some role) :
    b.role ≠ some role := by
  intro hb
  rw [PlayApart, ha, hb] at h
  simp at h

/-- The statement of an `else` stands behind nothing but punctuation and comments of the kind that
hints stand in, and before nothing but bare nodes. -/
def HoldsAlternative (n : Node) : Prop :=
  ∃ before a behind, n.children = before ++ a :: behind ∧ a.kind.isStatement = true ∧
    (∀ c ∈ before, c.isNamed = false ∨ c.isComment = true) ∧ ∀ c ∈ behind, c.kind.isBare = true

/-- What the syntax says about the children of a node. -/
structure Conforms (n : Node) : Prop where
  bare : n.kind.isBare = true → ∀ c ∈ n.children, c.kind.isBare = true
  /-- Children in the roles of a node are proper nodes, and the others are bare or decorators. -/
  parts : ∀ roles, n.kind.roles? = some roles → ∀ c ∈ n.children,
    (∃ role ∈ roles, c.role = some role) ∧ c.isNamed = true ∧ n.decorates c = false ∨
      (∀ role ∈ roles, c.role ≠ some role) ∧ (c.kind.isBare = true ∨ n.decorates c = true)
  apart : n.kind.roles?.isSome = true → n.children.Pairwise PlayApart
  function : n.kind.isFunction = true → ∃ body, n.child? .body = some body
  name : n.kind.isFunction = true → ∀ c ∈ n.children, c.role = some .name →
    c.kind.isBare = true ∨ c.kind = .computedName
  statements : n.kind = .program ∨ n.kind = .statementBlock → ∀ c ∈ n.children,
    c.kind.isStatement = true ∨ c.kind.isBare = true
  body : n.kind.hasStatementBody = true → ∀ c ∈ n.children, c.role = some .body →
    c.kind.isStatement = true
  consequence : n.kind = .ifStatement → ∀ c ∈ n.children, c.role = some .consequence →
    c.kind.isStatement = true
  clause : n.kind = .ifStatement → ∀ c ∈ n.children, c.role = some .alternative →
    c.kind = .elseClause
  alternative : n.kind = .elseClause → n.HoldsAlternative
  cases : n.kind = .switchStatement → ∀ c ∈ n.children, c.role = some .body → c.kind = .switchBody
  case : n.kind = .switchBody → ∀ c ∈ n.children, c.kind.isCase = true ∨ c.kind.isBare = true
  caseParts : n.kind.isCase = true → ∀ c ∈ n.children,
    c.role = some .value ∨ c.role = some .body ∨ c.kind.isBare = true
  outcome : n.kind = .ternaryExpression → ∃ c ∈ n.children, c.role = some .consequence
  operand : n.kind = .binaryExpression → ∃ c ∈ n.children, c.role = some .left

/-- A role that is told apart is played by one child only. -/
theorem Conforms.child?_eq {n c : Node} (h : n.Conforms) (hroles : n.kind.roles?.isSome = true)
    (hc : c ∈ n.children) {role : Role} (hrole : c.role = some role) : n.child? role = some c := by
  have hsome : (n.child? role).isSome = true :=
    List.find?_isSome.2 ⟨c, hc, decide_eq_true hrole⟩
  obtain ⟨d, hd⟩ := Option.isSome_iff_exists.1 hsome
  have hmem : d ∈ n.children := List.mem_of_find?_eq_some hd
  have hsame : d.role = some role := by simpa using List.find?_some hd
  rcases eq_or_of_pairwise (h.apart hroles) hmem hc with rfl | hapart | hapart
  · exact hd
  · exact absurd hrole (hapart.role_ne hsame)
  · exact absurd hsame (hapart.role_ne hrole)

/-- All nodes of a tree are as the syntax says. -/
def Grammatical (m : Node) : Prop := ∀ n : Node, n.InTree m → n.Conforms

theorem Grammatical.own {m : Node} (h : m.Grammatical) : m.Conforms := h m .self

theorem Grammatical.child {m c : Node} (h : m.Grammatical) (hc : c ∈ m.children) : c.Grammatical :=
  fun n hn => h n (.inChild hc hn)

theorem Grammatical.inTree {m n : Node} (h : m.Grammatical) (hn : n.InTree m) : n.Grammatical :=
  fun d hd => h d (hd.trans hn)

theorem grammatical_iff {n : Node} :
    n.Grammatical ↔ n.Conforms ∧ ∀ c ∈ n.children, c.Grammatical := by
  constructor
  · intro h
    exact ⟨h.own, fun c hc => h.child hc⟩
  · rintro ⟨hown, hchildren⟩ d hd
    cases hd with
    | self => exact hown
    | inChild hc hd => exact hchildren _ hc d hd

theorem grammatical_leaf {kind : Kind} (hbare : kind.isBare = true) (role : Option Role)
    (start stop : Nat) : Grammatical ⟨kind, role, start, stop, []⟩ := by
  have hkinds : kind.isFunction = false ∧ kind ≠ .elseClause ∧ kind ≠ .ternaryExpression ∧
      kind ≠ .binaryExpression := by
    cases kind <;> first
      | (cases hbare; done)
      | exact ⟨rfl, nofun, nofun, nofun⟩
  obtain ⟨hfunction, hclause, hternary, hbinary⟩ := hkinds
  rw [grammatical_iff]
  refine ⟨?_, nofun⟩
  constructor
  case function =>
    intro h
    rw [hfunction] at h
    cases h
  case alternative => exact fun h => absurd h hclause
  case outcome => exact fun h => absurd h hternary
  case operand => exact fun h => absurd h hbinary
  all_goals simp

/-- What is in a bare node is bare. -/
theorem Grammatical.bare {m n : Node} (h : m.Grammatical) (hbare : m.kind.isBare = true)
    (hn : n.InTree m) : n.kind.isBare = true := by
  induction hn with
  | self => exact hbare
  | inChild hc _ ih => exact ih (h.child hc) (h.own.bare hbare _ hc)

/-! ### Links -/

mutual

/-- The links of a tree, in the order of the text. -/
def links : Node → List (Node × Node)
  | ⟨kind, role, start, stop, children⟩ => linksTo ⟨kind, role, start, stop, children⟩ children

/-- The links from a node to some of its children, and those below them. -/
def linksTo (m : Node) : List Node → List (Node × Node)
  | [] => []
  | c :: rest => (if m.decorates c then [] else (m, c) :: c.links) ++ linksTo m rest

end

variable {m n c : Node} {l : Node × Node} {children : List Node}

theorem links_eq (n : Node) : n.links = n.linksTo n.children := by
  cases n
  rw [links]

/-- The links from a node to one of its children, and those below it. -/
theorem linksTo_singleton (m c : Node) :
    m.linksTo [c] = if m.decorates c then [] else (m, c) :: c.links := by
  rw [linksTo, linksTo, List.append_nil]

theorem linksTo_cons (m c : Node) (rest : List Node) :
    m.linksTo (c :: rest) = m.linksTo [c] ++ m.linksTo rest := by
  rw [linksTo, linksTo_singleton]

theorem linksTo_subset (hc : c ∈ children) : ∀ l ∈ m.linksTo [c], l ∈ m.linksTo children := by
  intro l hl
  induction children with
  | nil => cases hc
  | cons d rest ih =>
    rw [linksTo_cons, List.mem_append]
    rcases List.mem_cons.1 hc with rfl | hc
    · exact .inl hl
    · exact .inr (ih hc)

mutual

/-- A link leads from a node of the tree to one of its children. -/
theorem inTree_of_mem_links : (n : Node) → ∀ l ∈ n.links, l.1.InTree n ∧ l.2 ∈ l.1.children
  | ⟨kind, role, start, stop, children⟩ => by
    intro l hl
    rw [links] at hl
    rcases inTree_of_mem_linksTo _ children l hl with ⟨heq, hc⟩ | ⟨c, hc, hin, hl⟩
    · rw [heq]
      exact ⟨.self, hc⟩
    · exact ⟨.inChild hc hin, hl⟩

theorem inTree_of_mem_linksTo (m : Node) : (children : List Node) → ∀ l ∈ m.linksTo children,
    (l.1 = m ∧ l.2 ∈ children) ∨ ∃ c ∈ children, l.1.InTree c ∧ l.2 ∈ l.1.children
  | [] => nofun
  | c :: rest => by
    intro l hl
    rw [linksTo, List.mem_append] at hl
    rcases hl with hl | hl
    · split at hl
      · cases hl
      · rcases List.mem_cons.1 hl with rfl | hl
        · exact .inl ⟨rfl, List.mem_cons_self⟩
        · exact .inr ⟨c, List.mem_cons_self, inTree_of_mem_links c l hl⟩
    · rcases inTree_of_mem_linksTo m rest l hl with ⟨heq, hmem⟩ | ⟨d, hd, hin⟩
      · exact .inl ⟨heq, List.mem_cons_of_mem _ hmem⟩
      · exact .inr ⟨d, List.mem_cons_of_mem _ hd, hin⟩

end

/-- Where no class member has decorators, every child of every node has its link. -/
theorem mem_links_of_inTree
    (h : ∀ m : Node, m.InTree n → ∀ c ∈ m.children, m.decorates c = false) (hm : m.InTree n)
    (hc : c ∈ m.children) : (m, c) ∈ n.links := by
  induction hm with
  | self =>
    rw [links_eq]
    apply linksTo_subset hc
    rw [linksTo_singleton, h m .self c hc]
    exact List.mem_cons_self
  | @inChild k d hd hm ih =>
    have hbelow := ih fun p hp => h p (.inChild hd hp)
    rw [links_eq]
    apply linksTo_subset hd
    rw [linksTo_singleton, h k .self d hd]
    exact List.mem_cons_of_mem _ hbelow

/-! ### Default values and chains -/

/-- Whether a child is the default value of a pattern. -/
def takesDefault (m c : Node) : Bool := m.kind.hasDefault && c.role = some .right

theorem takesDefault_of_hasDefault (h : m.kind.hasDefault = false) (c : Node) :
    takesDefault m c = false := by
  rw [takesDefault, h]
  rfl

mutual

/-- The operands of a chain of logical operations, without those in parentheses. -/
def chainOperands : Node → List Node
  | ⟨kind, role, start, stop, children⟩ =>
    if isLogical ⟨kind, role, start, stop, children⟩ then chainOperandsIn children
    else [⟨kind, role, start, stop, children⟩]

/-- The operands of a chain among the children of an operation. -/
def chainOperandsIn : List Node → List Node
  | [] => []
  | c :: rest =>
    (if c.role = some .left ∨ c.role = some .right then c.chainOperands else []) ++
      chainOperandsIn rest

end

theorem chainOperands_of_logical (h : n.isLogical = true) :
    n.chainOperands = chainOperandsIn n.children := by
  cases n
  rw [chainOperands, if_pos h]

theorem chainOperands_of_not_logical (h : n.isLogical = false) :
    n.chainOperands = [n] := by
  cases n
  rw [chainOperands, h]
  rfl

theorem chainOperandsIn_eq (children : List Node) :
    chainOperandsIn children =
      (children.filter fun c => c.role = some .left ∨ c.role = some .right).flatMap
        chainOperands := by
  induction children with
  | nil => rfl
  | cons c rest ih =>
    rw [chainOperandsIn, ih, List.filter_cons]
    by_cases hrole : c.role = some .left ∨ c.role = some .right
    · rw [if_pos hrole, if_pos (decide_eq_true hrole), List.flatMap_cons]
    · rw [if_neg hrole, if_neg (by simpa using hrole), List.nil_append]

theorem kind_of_isLogical (h : n.isLogical = true) : n.kind = .binaryExpression :=
  of_decide_eq_true (Bool.and_eq_true_iff.1 h).1

/-- The children of an operation are no default values. -/
theorem takesDefault_of_isLogical (h : m.isLogical = true) (c : Node) :
    takesDefault m c = false :=
  takesDefault_of_hasDefault (by rw [kind_of_isLogical h]; rfl) c

mutual

theorem chainOperands_ne_nil : (n : Node) → n.Grammatical → n.chainOperands ≠ []
  | ⟨kind, role, start, stop, children⟩, hn => by
    rw [chainOperands]
    split
    · next hlogical =>
      exact chainOperandsIn_ne_nil children (fun c hc => hn.child hc)
        (hn.own.operand (kind_of_isLogical hlogical))
    · exact List.cons_ne_nil _ _

theorem chainOperandsIn_ne_nil : (children : List Node) → (∀ c ∈ children, c.Grammatical) →
    (∃ c ∈ children, c.role = some .left) → chainOperandsIn children ≠ []
  | [], _, h => by
    obtain ⟨_, hc, -⟩ := h
    cases hc
  | c :: rest, hgrammar, h => by
    obtain ⟨hgc, hgrest⟩ := List.forall_mem_cons.1 hgrammar
    rw [chainOperandsIn]
    obtain ⟨d, hd, hrole⟩ := h
    rcases List.mem_cons.1 hd with heq | hd
    · rw [if_pos (.inl (heq ▸ hrole))]
      exact List.append_ne_nil_of_left_ne_nil (chainOperands_ne_nil c hgc) _
    · exact List.append_ne_nil_of_right_ne_nil _
        (chainOperandsIn_ne_nil rest hgrest ⟨d, hd, hrole⟩)

end

end Node

end Coverage.Script
