import Coverage.Script.Node

/-!
# The symbols of the grammar

The grammar numbers its symbols: the tokens first, then the phrases that its rules make. Two more
symbols stand for what a text has too much of. Some symbols are no nodes of their own, such as the
statements as a whole, or the repetitions of a part; what they consist of belongs to the node above.
-/

namespace Coverage.Script

/-- A symbol of the grammar, by its number. -/
abbrev Symbol := Nat

namespace Symbol

/-- The end of the text. -/
def endOfText : Symbol := 0

/-- A name, or a keyword where no keyword can stand. -/
def identifier : Symbol := 1

/-- The token that makes a chain of member accesses optional. -/
def optionalChain : Symbol := 58

/-- The operation that is written with two bars. -/
def eitherOf : Symbol := 77

/-- A character that is written with a backslash. -/
def escape : Symbol := 106

/-- A comment. -/
def comment : Symbol := 107

/-- The slash that ends a regular expression. -/
def closingSlash : Symbol := 110

/-- What stands between the slashes of a regular expression. -/
def regexPattern : Symbol := 111

/-- The words that make a method a static accessor, where a line ends behind them. -/
def staticAccessor : Symbol := 125

/-- The end of a statement without a semicolon. -/
def statementEnd : Symbol := 128

/-- Plain characters of a template. -/
def templateText : Symbol := 129

/-- The question mark of a choice between two values. -/
def choiceMark : Symbol := 130

/-- A comment in the manner of a markup document. -/
def markupComment : Symbol := 131

/-- Plain characters of a markup element. -/
def markupText : Symbol := 132

/-- The number of tokens; the symbols below it are the tokens. -/
def tokenCount : Nat := 133

/-- A stretch of the text that is skipped on the way to where reading can go on. -/
def skipped : Symbol := 259

/-- A stretch of the text that fits nowhere. -/
def fault : Symbol := 260

/-- The kind of the nodes of a token of punctuation or of a keyword. -/
def token (text : String) : Option Kind := some (.token text)

/-- The kinds of the nodes that symbols stand for, where they are nodes. -/
def kinds : Array (Option Kind) :=
  #[
    none, some .identifier, some .interpreterLine, token "export", token "*", token "default",
    token "as", token "\x7b", token ",", token "\x7d", token "import", token "from", token "with",
    token "var", token "let", token "const", token "else", token "if", token "switch",
    token "for", token "(", token ";", token ")", token "await", token "in", token "of",
    token "while", token "do", token "try", token "break", token "continue", token "debugger",
    token "return", token "throw", token ":", token "case", token "catch", token "finally",
    token "yield", token "=", token "[", token "]", some .characterReference, token "<",
    token ">", some .identifier, token ".", token "</", token "/>", token "\"", token "'",
    some .fragment, some .fragment, token "class", token "extends", token "async",
    token "function", token "=>", some .optionalChain, token "new", token "+=", token "-=",
    token "*=", token "/=", token "%=", token "^=", token "&=", token "|=", token ">>=",
    token ">>>=", token "<<=", token "**=", token "&&=", token "||=", token "??=", token "...",
    token "&&", token "||", token ">>", token ">>>", token "<<", token "&", token "^", token "|",
    token "+", token "-", token "/", token "%", token "**", token "<=", token "==", token "===",
    token "!=", token "!==", token ">=", token "??", token "instanceof", token "!", token "~",
    token "typeof", token "void", token "delete", token "++", token "--", some .fragment,
    some .fragment, some .escape, some .comment, token "\x60", token "$\x7b", token "/",
    some .regexPattern, some .regexFlags, some .number, some .privateName, token "target",
    token "meta", some .thisValue, some .superValue, some .trueValue, some .falseValue,
    some .nullValue, some .undefinedValue, token "@", token "static", token "static get",
    token "get", token "set", none, some .fragment, token "?", some .markupComment,
    some .markupText, some .program, some .exportStatement, some .namespaceExport,
    some .exportClause, some .exportSpecifier, none, none, some .importFunction,
    some .importStatement, some .importClause, none, some .namespaceImport, some .namedImports,
    some .importSpecifier, some .importAttribute, none, some .expressionStatement,
    some .variableDeclaration, some .lexicalDeclaration, some .variableDeclarator,
    some .statementBlock, some .elseClause, some .ifStatement, some .switchStatement,
    some .forStatement, some .forInStatement, none, some .whileStatement, some .doStatement,
    some .tryStatement, some .withStatement, some .breakStatement, some .continueStatement,
    some .debuggerStatement, some .returnStatement, some .throwStatement, some .emptyStatement,
    some .labeledStatement, some .switchBody, some .switchCase, some .switchDefault,
    some .catchClause, some .finallyClause, some .parenthesizedExpression, none, none,
    some .yieldExpression, some .object, some .objectPattern, some .assignmentPattern,
    some .objectAssignmentPattern, some .array, some .arrayPattern, some .markupElement,
    some .markupExpression, some .markupOpeningTag, some .memberExpression, some .markupName,
    some .markupClosingTag, some .markupEmptyTag, some .markupAttribute, some .string,
    some .classExpression, some .classDeclaration, some .classHeritage, some .functionExpression,
    some .functionDeclaration, some .generatorExpression, some .generatorDeclaration,
    some .arrowFunction, some .callExpression, some .newExpression, some .awaitExpression,
    some .memberExpression, some .subscriptExpression, some .assignmentExpression, none,
    some .augmentedAssignment, none, none, some .spreadElement, some .ternaryExpression,
    some .binaryExpression, some .unaryExpression, some .updateExpression,
    some .sequenceExpression, some .string, some .templateString, some .templateSubstitution,
    some .regex, some .metaProperty, some .arguments, some .decorator, some .memberExpression,
    some .callExpression, some .classBody, some .fieldDefinition, some .formalParameters,
    some .staticBlock, none, some .restPattern, some .methodDefinition, some .pair,
    some .pairPattern, none, some .computedName, none, none, none, none, none, none, none, none,
    none, none, none, none, none, none, none, none, none, none, none, none, none, some .error
  ]

/-- The kind of the nodes that a symbol stands for. -/
def kind? (s : Symbol) : Option Kind := kinds.getD s none

/-- Whether a symbol stands for nodes of its own. -/
def isVisible (s : Symbol) : Bool := (kind? s).isSome

/-- Whether a symbol stands for what a text has too much of. -/
def isFaulty (s : Symbol) : Bool := s = skipped || s = fault

end Symbol

end Coverage.Script
