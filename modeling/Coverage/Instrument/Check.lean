import Coverage.Error
import Coverage.Instrument.Construct
import Coverage.Instrument.Options
import Coverage.Script.Program
import Coverage.Text.Lines

/-!
# What is no program

A text is refused where it cannot be read, where it returns outside of functions, and where it
imports or exports without being a module, in this order. Options can allow the last two. A text
that fits nowhere is reported with its first characters, and a token that is missing by its name.
-/

namespace Coverage.Instrument

open Coverage.Script (Fault Kind Node Program)

mutual

/-- The first `return` of a node that lies in no function. -/
def outerReturn? : Node → Option Node
  | ⟨kind, role, start, stop, children⟩ =>
    if kind = .returnStatement then some ⟨kind, role, start, stop, children⟩
    else if kind.isFunction || kind = .staticBlock then none
    else outerReturnIn? children

/-- The first `return` of several nodes that lies in no function. -/
def outerReturnIn? : List Node → Option Node
  | [] => none
  | n :: rest => (outerReturn? n).or (outerReturnIn? rest)

end

/-- The first statement of a program that only modules have. -/
def moduleItem? (program : Node) : Option Node :=
  program.namedChildren.find? fun n => n.kind = .importStatement || n.kind = .exportStatement

/-- How many characters of an unexpected text are shown. -/
def shownLength : Nat := 20

/-- What a message calls a token that is missing. -/
def tokenName : Kind → String
  | .token text => text
  | .identifier => "identifier"
  | .propertyName => "property_identifier"
  | .privateName => "private_property_identifier"
  | .statementLabel => "statement_identifier"
  | .shorthandProperty => "shorthand_property_identifier"
  | .shorthandPattern => "shorthand_property_identifier_pattern"
  | .interpreterLine => "hash_bang_line"
  | .characterReference => "html_character_reference"
  | .markupComment => "html_comment"
  | .markupText => "jsx_text"
  | .fragment => "string_fragment"
  | .escape => "escape_sequence"
  | .regexPattern => "regex_pattern"
  | .regexFlags => "regex_flags"
  | .number => "number"
  | .thisValue => "this"
  | .superValue => "super"
  | .trueValue => "true"
  | .falseValue => "false"
  | .nullValue => "null"
  | .undefinedValue => "undefined"
  | .optionalChain => "optional_chain"
  | .comment => "comment"
  | _ => ""

/-- The wording of a fault. -/
def describeFault (src : List Char) (fault : Fault) : SyntaxFault :=
  match fault.missing with
  | some kind => .missing (tokenName kind)
  | none =>
    .unexpected (String.ofList ((Text.slice fault.start fault.stop src).take shownLength))

/-- The offset of what is wrong with a program, with what it is. -/
def problem? (o : Options) (src : List Char) (p : Program) : Option (Nat × SyntaxFault) :=
  match p.fault with
  | some fault => some (fault.start, describeFault src fault)
  | none =>
    let outer := if o.autoWrap then none else outerReturn? p.tree
    let item := if o.esModules then none else moduleItem? p.tree
    (outer.map fun n => (n.start, .returnOutsideFunction)).or
      (item.map fun n => (n.start, .moduleOnly))

/-- Refuses what is no program. -/
def check (o : Options) (path : String) (src : List Char) (program : Program) :
    Except Error Unit :=
  match problem? o src program with
  | some (offset, fault) =>
    let p := Text.position src offset
    .error (.badSyntax path p.line (UInt32.ofNat p.column.toInt.toNat) fault)
  | none => .ok ()

end Coverage.Instrument
