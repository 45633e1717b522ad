import Coverage.Script.Node
import Coverage.Text.Blank
import Coverage.Text.WordChar

/-!
# What comments say

A comment can tell to leave out the node behind it, or an arm of the `if` behind it, and a comment
can name the source map of the program. Between a hint and its node there may be blanks and other
comments; the nearest hint counts.
-/

namespace Coverage.Instrument

open Coverage.Script (Node)

/-- What a comment tells to leave out. -/
inductive Hint where
  | ifArm
  | elseArm
  | next
  deriving DecidableEq, Inhabited, Repr

namespace Hint

/-- The words for what to leave out. -/
def named : List (List Char × Hint) :=
  [("if".toList, ifArm), ("else".toList, elseArm), ("next".toList, next)]

/-- Takes a word and at least one blank behind it off a text. -/
def dropWord? (word cs : List Char) : Option (List Char) :=
  if word.isPrefixOf cs then
    match cs.drop word.length with
    | c :: rest => if Text.isBlank c then some (rest.dropWhile Text.isBlank) else none
    | [] => none
  else none

/-- Whether a text goes on with a character of words. -/
def startsInWord : List Char → Bool
  | c :: _ => Text.isWordChar c
  | [] => false

/-- The hint in the text of a comment. -/
def ofBody? (body : List Char) : Option Hint := do
  let rest ← dropWord? "istanbul".toList (Text.trim body)
  let rest ← dropWord? "ignore".toList rest
  let (_, hint) ← named.find? fun e =>
    e.1.isPrefixOf rest && !startsInWord (rest.drop e.1.length)
  return hint

end Hint

/-- The text of a comment without the marks that enclose it. -/
def commentBody (text : List Char) : List Char :=
  match text with
  | '/' :: '/' :: rest => rest
  | '/' :: '*' :: rest =>
    match rest.reverse with
    | '/' :: '*' :: body => body.reverse
    | _ => rest
  | _ => text

/-- Whether a character is a blank that may stand between a hint and its node. -/
def isGap (c : Char) : Bool := c = ' ' || c = '\t' || c = '\n' || c = '\x0c' || c = '\r'

/-- A comment of a program. -/
structure Comment where
  start : Nat
  stop : Nat
  /-- Whether the comment ends with a blank. -/
  endsInGap : Bool
  hint : Option Hint
  /-- The source map that the comment names. -/
  mapUrl : Option String
  deriving DecidableEq, Inhabited, Repr

/-- What stands behind the name of the directive for source maps, where a text starts with it. -/
def afterMapName? (cs : List Char) : Option (List Char) :=
  match cs with
  | c :: rest =>
    if c = '#' || c = '@' then
      let rest := rest.dropWhile Text.isBlank
      let name := "sourceMappingURL=".toList
      if name.isPrefixOf rest then some (rest.drop name.length) else none
    else none
  | [] => none

/-- The source map that the trimmed text of a comment names: what stands behind the first
directive, up to the end of the line. -/
def mapUrl? : List Char → Option String
  | [] => none
  | c :: rest =>
    match afterMapName? (c :: rest) with
    | some url => some (String.ofList (Text.trim (url.takeWhile (· ≠ '\n'))))
    | none => mapUrl? rest

/-- The comment that a node of a program is. -/
def Comment.ofNode (src : List Char) (n : Node) : Comment :=
  let text := n.text src
  let body := commentBody text
  ⟨n.start, n.stop, text.getLast?.any isGap, Hint.ofBody? body, mapUrl? (Text.trim body)⟩

/-- Whether the first `n` bytes of a text are blanks that may stand between a hint and its node. -/
def startsInGaps : Nat → List Char → Bool
  | 0, _ => true
  | _ + 1, [] => true
  | n + 1, c :: cs => isGap c && startsInGaps n cs

/-- The nearest hint before an offset, among comments from the last to the first. A comment that
ends with gaps hides its hint and those before it. -/
def hintBefore (src : List Char) : List Comment → Nat → Option Hint
  | [], _ => none
  | c :: earlier, offset =>
    if offset < c.stop then hintBefore src earlier offset
    else if c.endsInGap || !startsInGaps (offset - c.stop) (Text.dropBytes c.stop src) then none
    else c.hint.or (hintBefore src earlier c.start)

/-- The last comment that names a source map, with the URL. -/
def mapComment? (comments : List Comment) : Option (Comment × String) :=
  comments.reverse.findSome? fun c => c.mapUrl.map fun url => (c, url)

end Coverage.Instrument
