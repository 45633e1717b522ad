import Coverage.Script.Lexeme.CharClass
import Coverage.Script.Lexeme.Form
import Coverage.Script.Symbol

/-!
# The lexemes of scripts

Each token is written in a form. Where several forms match a text, the stronger lexeme is taken, of
two of one strength the one with the higher rank, and at last the one with the lower number. Words
that are keywords are told from names afterwards.
-/

namespace Coverage.Script

/-- A lexeme. -/
structure Lexeme where
  symbol : Symbol
  form : Form
  /-- Whether the lexeme stands right behind the token before, without blanks. -/
  adjoins : Bool
  strength : Int
  rank : Nat
  deriving Inhabited

namespace Lexeme

open Form

/-- A character of a class, or an underscore and such a character, any number of times behind a
character of the class. -/
def digits (p : Char → Bool) : Form :=
  (one p).andThen (many ((optional (literal "_")).andThen (one p)))

/-- A number of another base than ten. -/
def radixNumber (marks : List Char) (p : Char → Bool) : Form :=
  inTurn [literal "0", anyOf marks, digits p]

/-- A whole number of another base than ten. -/
def radixNumbers : Form :=
  oneOf [radixNumber ['x', 'X'] isHexDigit, radixNumber ['b', 'B'] isBinaryDigit,
    radixNumber ['o', 'O'] isOctalDigit]

/-- The exponent of a number. -/
def exponent : Form :=
  inTurn [anyOf ['e', 'E'], optional (anyOf ['-', '+']), digits isDigit]

/-- The whole part of a number with a point or with an exponent. -/
def wholePart : Form :=
  (literal "0").orElse <|
    (one fun c => isDigit c && c ≠ '0').andThen <|
      optional ((optional (literal "_")).andThen (digits isDigit))

/-- A number. -/
def number : Form :=
  oneOf [radixNumbers,
    inTurn [wholePart, literal ".", optional (digits isDigit), optional exponent],
    inTurn [literal ".", digits isDigit, optional exponent],
    wholePart.andThen exponent,
    digits isDigit,
    (radixNumbers.orElse (digits isDigit)).andThen (literal "n")]

/-- A code point between braces. -/
def bracedCode : Form := inTurn [literal "\x7b", manyOne (one isHexDigit), literal "\x7d"]

/-- A character of a name that is written by its code point. -/
def nameEscape : Form :=
  (literal "\\u").andThen ((times (one isHexDigit) 4).orElse bracedCode)

/-- A name. -/
def name : Form :=
  ((one isNameStart).orElse nameEscape).andThen (many ((one isNamePart).orElse nameEscape))

/-- The letters that names of markup start with. -/
def isMarkupStart (c : Char) : Bool := isAsciiLetter c || c = '_' || c = '$'

/-- A name of markup with a hyphen in it. -/
def markupName : Form :=
  inTurn [one isMarkupStart, many (one fun c => isMarkupStart c || isDigit c), literal "-",
    many (one fun c => isMarkupStart c || isDigit c || c = '-')]

/-- A character of markup that is written by its name or its number. -/
def characterReference : Form :=
  inTurn [literal "&",
    oneOf [(literal "#").andThen <|
        ((anyOf ['x', 'X']).andThen ((one isHexDigit).andThen (upTo (one isHexDigit) 5))).orElse
          ((one isDigit).andThen (upTo (one isDigit) 4)),
      (one isAsciiLetter).andThen (upTo (one isAsciiLetter) 29)],
    literal ";"]

/-- Plain characters of a string of a script between quotes of a kind. -/
def stringText (quote : Char) : Form := manyOne (noneOf [quote, '\\', '\r', '\n'])

/-- Plain characters of a string of markup between quotes of a kind. -/
def markupString (quote : Char) : Form :=
  manyOne <| (noneOf [quote, '&']).orElse <|
    (literal "&").andThen (one fun c => c ≠ '#' && !isAsciiLetter c)

/-- A character that is written with a backslash. -/
def escape : Form :=
  (literal "\\").andThen <| oneOf
    [one fun c => c ≠ 'x' && c ≠ 'u' && !isOctalDigit c,
      (one isOctalDigit).andThen (upTo (one isOctalDigit) 2),
      (literal "x").andThen (times (one isHexDigit) 2),
      (literal "u").andThen (times (one isHexDigit) 4),
      (literal "u").andThen bracedCode,
      (anyOf ['\r', '?']).andThen (one isLineEnd)]

/-- A comment up to the end of the line, or between marks. -/
def comment : Form :=
  let others := many (noneOf ['*'])
  let stars := manyOne (literal "*")
  (inTurn [literal "//", many (one fun c => !isLineEnd c && c ≠ '\r')]).orElse
    (inTurn [literal "/*", others, stars,
      many (inTurn [noneOf ['/', '*'], others, stars]), literal "/"])

/-- A character that does not end the line. -/
def within : Form := noneOf ['\n']

/-- What stands between the slashes of a regular expression. -/
def regexPattern : Form :=
  let escaped := (literal "\\").andThen within
  manyOne (oneOf
    [inTurn [literal "[", many (escaped.orElse (noneOf [']', '\n', '\\'])), literal "]"],
      escaped, noneOf ['/', '\\', '[', '\n']])

/-- The words that make a method a static accessor, up to the end of the line. -/
def staticAccessor : Form :=
  inTurn [literal "static", manyOne (one isPlainBlank), literal "get", many (one isPlainBlank),
    literal "\n"]

/-- The lexemes that are not written as fixed texts, and those that have to stand right behind
the token before. -/
def varied : List Lexeme :=
  [⟨.identifier, name, false, 0, 0⟩,
    -- the first line of a script that names its interpreter
    ⟨2, (literal "#!").andThen (many within), false, 0, 0⟩,
    ⟨42, characterReference, false, 0, 0⟩,
    ⟨45, markupName, false, 0, 0⟩,
    ⟨51, markupString '"', true, 1, 1⟩,
    ⟨52, markupString '\'', true, 1, 1⟩,
    ⟨104, stringText '"', true, 1, 1⟩,
    ⟨105, stringText '\'', true, 1, 1⟩,
    ⟨.escape, escape, true, 0, 1⟩,
    ⟨.comment, comment, false, 0, 0⟩,
    ⟨.closingSlash, literal "/", true, 1, 3⟩,
    ⟨.regexPattern, regexPattern, true, -1, 1⟩,
    -- the flags of a regular expression
    ⟨112, manyOne (one fun c => 'a' ≤ c && c ≤ 'z'), true, 0, 1⟩,
    ⟨113, number, false, 0, 0⟩,
    -- a name with a number sign in front
    ⟨114, (literal "#").andThen name, false, 0, 0⟩,
    ⟨.staticAccessor, staticAccessor, false, 0, 0⟩]

/-- The text of a token that is always written alike. -/
def fixedText? (s : Symbol) : Option String :=
  if s = Symbol.closingSlash || Symbol.statementEnd ≤ s then none
  else match s.kind? with
    | some (.token text) => some text
    | some .optionalChain => some "?."
    | some .thisValue => some "this"
    | some .superValue => some "super"
    | some .trueValue => some "true"
    | some .falseValue => some "false"
    | some .nullValue => some "null"
    | some .undefinedValue => some "undefined"
    | _ => none

/-- The lexeme of a token. -/
def ofSymbol? (s : Symbol) : Option Lexeme :=
  match varied.find? fun l => l.symbol = s with
  | some l => some l
  | none => (fixedText? s).map fun text => ⟨s, literal text, false, 0, 2⟩

/-- The words that are keywords where the grammar has a use for them. -/
def keywords : List (List Char × Symbol) :=
  (List.range Symbol.tokenCount).filterMap fun s => do
    let text := (← fixedText? s).toList
    if text.all isAsciiLetter then return (text, s) else failure

end Lexeme

end Coverage.Script
