import Coverage.Script.Lexeme.Longest
import Coverage.Script.SemicolonRule

/-!
# Tokens that depend on what stands before and behind them

Some tokens cannot be told by a form alone: the end of a statement without a semicolon, the question
mark of a choice, plain characters of templates and of markup, and comments in the manner of markup
documents. The state of reading tells which of them are looked for before anything else.
-/

namespace Coverage.Script

/-- Which tokens are looked for before all others. -/
inductive Context where
  | nothing
  /-- A comment in the manner of a markup document. -/
  | markupComment
  /-- The question mark of a choice. -/
  | choice
  /-- The end of a statement, or behind an operand also the question mark of a choice. -/
  | statementEnd (afterOperand : Bool)
  /-- Plain characters of markup, or a comment. -/
  | markupText
  /-- Plain characters of a template. -/
  | templateText
  deriving DecidableEq, Inhabited, Repr

/-- The contexts, by their numbers. -/
def contexts : Array Context :=
  #[.nothing, .nothing, .markupComment, .choice, .statementEnd true, .statementEnd false,
    .markupText, .templateText, .nothing, .nothing]

/-- The question mark of a choice at a place. -/
def choiceMarkAt? (s : Spot) : Option Found :=
  if startsChoice s.rest then some ⟨Symbol.choiceMark, s.passed, s.passed + 1⟩ else none

/-- The end of a statement, or the question mark of a choice where the look for it stopped. -/
def statementEnd? (fuel : Nat) (afterOperand : Bool) (cs : List Char) : Option Found :=
  match lookForEnd afterOperand fuel false ⟨cs, 0⟩ with
  | .ends => some ⟨Symbol.statementEnd, 0, 0⟩
  | .goesOn s commented => if afterOperand && !commented then choiceMarkAt? s else none

/-- A comment in the manner of a markup document, behind blanks and line ends, counted as starting
at `start` where none of them was passed. -/
def markupComment? (s : Spot) (start : Nat) : Option Found :=
  let t := s.skipWhile fun c => isPlainBlank c || isLineEnd c
  let start := if t.passed = s.passed then start else t.passed
  if "<!--".toList.isPrefixOf t.rest || "-->".toList.isPrefixOf t.rest then
    let stop := (t.skip 3).skipWhile fun c => !isLineEnd c && c ≠ '\x00'
    some ⟨Symbol.markupComment, start, stop.passed⟩
  else none

/-- Whether a character ends the plain characters of markup. -/
def endsMarkupText (c : Char) : Bool :=
  c = '<' || c = '>' || c = '\x7b' || c = '\x7d' || c = '&' || c = '\x00'

/-- Whether plain characters of markup count for something: blanks behind a line feed do not. -/
def isMarkupText : List Char → Bool
  | [] => false
  | c :: cs => c ≠ '\n' || cs.any (!isPlainBlank ·)

/-- Plain characters of markup, or else a comment behind blanks that count for nothing. -/
def markupText? (cs : List Char) : Option Found :=
  let text := cs.takeWhile (!endsMarkupText ·)
  if isMarkupText text then some ⟨Symbol.markupText, 0, text.length⟩
  else markupComment? ⟨cs.drop text.length, text.length⟩ 0

/-- The number of plain characters of a template before what ends them: a quote, a backslash or a
substitution. -/
def templateLength? (n : Nat) : List Char → Option Nat
  | [] => none
  | '$' :: '\x7b' :: _ => some n
  | c :: cs =>
    if c = '\x60' || c = '\\' then some n
    else if c = '\x00' then none
    else templateLength? (n + 1) cs

/-- Plain characters of a template. -/
def templateText? (cs : List Char) : Option Found :=
  match templateLength? 0 cs with
  | some (n + 1) => some ⟨Symbol.templateText, 0, n + 1⟩
  | _ => none

/-- Looks for the tokens of a context, at most `fuel` characters ahead. -/
def Context.find? (fuel : Nat) (x : Context) (cs : List Char) : Option Found :=
  match x with
  | .nothing => none
  | .markupComment => markupComment? ⟨cs, 0⟩ 0
  | .choice => choiceMarkAt? (Spot.skipWhile isPlainBlank ⟨cs, 0⟩)
  | .statementEnd afterOperand => statementEnd? fuel afterOperand cs
  | .markupText => markupText? cs
  | .templateText => templateText? cs

end Coverage.Script
