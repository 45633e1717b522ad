import Coverage.Text.Offset

/-!
# Syntax trees of scripts

Scripts are programs and modules in JavaScript, which may hold markup in their expressions.

A node has a kind, the role that it plays in the node above it, the byte offsets of its first and
behind its last character, and children in the order of the text. Punctuation and keywords are
nodes too, so that the leaves of a tree are the tokens of the text. Comments stand where they were
found, between the other children of the smallest node around them.
-/

namespace Coverage.Script

/-- What a node is. -/
inductive Kind where
  /-- Punctuation or a keyword, with its text. -/
  | token (text : String)
  | comment
  /-- A comment in the manner of a markup document, up to the end of the line. -/
  | markupComment
  /-- The first line of a script that names its interpreter. -/
  | interpreterLine
  | program
  -- Statements
  | exportStatement
  | importStatement
  | debuggerStatement
  | expressionStatement
  | functionDeclaration
  | generatorDeclaration
  | classDeclaration
  | lexicalDeclaration
  | variableDeclaration
  | variableDeclarator
  | statementBlock
  | ifStatement
  | elseClause
  | switchStatement
  | switchBody
  | switchCase
  | switchDefault
  | forStatement
  | forInStatement
  | whileStatement
  | doStatement
  | tryStatement
  | catchClause
  | finallyClause
  | withStatement
  | breakStatement
  | continueStatement
  | returnStatement
  | throwStatement
  | emptyStatement
  | labeledStatement
  | statementLabel
  -- Parts of module statements
  | namespaceExport
  | exportClause
  | exportSpecifier
  | importClause
  | namespaceImport
  | namedImports
  | importSpecifier
  | importAttribute
  -- Functions and classes
  | functionExpression
  | generatorExpression
  | arrowFunction
  | formalParameters
  | methodDefinition
  | classExpression
  | classHeritage
  | classBody
  | fieldDefinition
  | staticBlock
  | decorator
  -- Names and literals
  | identifier
  | undefinedValue
  | thisValue
  | superValue
  | trueValue
  | falseValue
  | nullValue
  | number
  | string
  | regex
  | regexPattern
  | regexFlags
  | templateString
  | templateSubstitution
  /-- A stretch of plain characters of a string or a template. -/
  | fragment
  /-- A character that is written with a backslash. -/
  | escape
  | propertyName
  | privateName
  | shorthandProperty
  | computedName
  | importFunction
  | metaProperty
  -- Expressions
  | array
  | object
  | pair
  | spreadElement
  | parenthesizedExpression
  | sequenceExpression
  | assignmentExpression
  | augmentedAssignment
  | unaryExpression
  | updateExpression
  | binaryExpression
  | ternaryExpression
  | awaitExpression
  | yieldExpression
  | newExpression
  | callExpression
  | arguments
  | memberExpression
  | subscriptExpression
  | optionalChain
  -- Patterns
  | arrayPattern
  | objectPattern
  | pairPattern
  | assignmentPattern
  | objectAssignmentPattern
  | shorthandPattern
  | restPattern
  -- Markup
  | markupElement
  | markupOpeningTag
  | markupClosingTag
  | markupEmptyTag
  | markupAttribute
  | markupExpression
  | markupText
  | markupName
  | characterReference
  -- Faults
  /-- A stretch of the text that fits nowhere. -/
  | error
  deriving DecidableEq, Inhabited, Repr

/-- The roles of children that their parents tell apart. -/
inductive Role where
  | name
  | value
  | property
  | body
  | parameters
  | parameter
  | condition
  | consequence
  | alternative
  | operator
  | left
  | right
  deriving DecidableEq, Inhabited, Repr

/-- A node of a syntax tree. -/
structure Node where
  kind : Kind
  role : Option Role
  /-- The offset of the first byte. -/
  start : Nat
  /-- The offset behind the last byte. -/
  stop : Nat
  children : List Node
  deriving Inhabited

namespace Node

/-- A node without children. -/
def leaf (kind : Kind) (start stop : Nat) : Node := ⟨kind, none, start, stop, []⟩

/-- The node that spans a list of children, the first of which starts it. -/
def spanning (kind : Kind) (children : List Node) : Node :=
  { kind, role := none, children
    start := match children.head? with | some n => n.start | none => 0
    stop := match children.getLast? with | some n => n.stop | none => 0 }

/-- The node in a role. -/
def as (n : Node) (role : Role) : Node := { n with role := some role }

/-- Whether a node is more than punctuation or a keyword. -/
def isNamed (n : Node) : Bool :=
  match n.kind with
  | .token _ => false
  | _ => true

/-- Whether a node is a comment of the kind that hints stand in. -/
def isComment (n : Node) : Bool := n.kind = .comment

/-- Whether a node is the token `text`. -/
def isToken (n : Node) (text : String) : Bool := n.kind = .token text

/-- The children that are more than punctuation or keywords. -/
def namedChildren (n : Node) : List Node := n.children.filter isNamed

/-- The first child in a role. -/
def child? (n : Node) (role : Role) : Option Node := n.children.find? fun c => c.role = some role

/-- All children in a role. -/
def childrenIn (n : Node) (role : Role) : List Node :=
  n.children.filter fun c => c.role = some role

/-- The characters of a node in its source. -/
def text (n : Node) (src : List Char) : List Char := Text.slice n.start n.stop src

end Node

end Coverage.Script
