import Coverage.Script.Node

/-!
# What a rule makes of its parts

A rule of the grammar can give a part a role in the node that it makes, and can have a part taken
for something else than what it is: a name behind a point is the name of a property. Comments
between the parts do not count.
-/

namespace Coverage.Script

/-- What a rule makes of a part. -/
structure Part where
  /-- What the part is taken for, if that is not what it is. -/
  alias? : Option Kind
  role : Option Role
  deriving DecidableEq, Inhabited, Repr

namespace Part

/-- A part that stays as it is. -/
def bare : Part := ⟨none, none⟩

/-- A part with a role. -/
def inRole (role : Role) : Part := ⟨none, some role⟩

/-- A part that is taken for something else. -/
def known (kind : Kind) : Part := ⟨some kind, none⟩

/-- A part that is taken for something else, with a role. -/
def knownInRole (kind : Kind) (role : Role) : Part := ⟨some kind, some role⟩

end Part

/-- What a rule makes of its parts; further parts stay as they are. -/
abbrev Shape := List Part

open Script.Part in
/-- The shapes that occur, by their numbers. -/
def shapes : Array Shape :=
  #[
    [],
    [known .identifier],
    [known .propertyName],
    [inRole .name],
    [bare, inRole .body],
    [inRole .operator],
    [bare, inRole .operator],
    [known .statementLabel, bare, inRole .body],
    [knownInRole .identifier .left, bare, inRole .right],
    [knownInRole .identifier .parameter, bare, inRole .body],
    [bare, known .shorthandProperty],
    [bare, known .shorthandPattern],
    [bare, known .identifier],
    [bare, bare, inRole .body],
    [bare, inRole .condition, inRole .consequence],
    [bare, inRole .value, inRole .body],
    [bare, inRole .condition, inRole .body],
    [bare, known .statementLabel],
    [bare, inRole .name],
    [inRole .property],
    [bare, inRole .name, inRole .body],
    [bare, inRole .parameters, inRole .body],
    [inRole .left, bare, inRole .right],
    [inRole .parameter, bare, inRole .body],
    [inRole .left, inRole .operator, inRole .right],
    [bare, bare, knownInRole .propertyName .property],
    [bare, bare, inRole .property],
    [inRole .parameters, bare, inRole .body],
    [bare, bare, inRole .value],
    [knownInRole .shorthandPattern .left, bare, inRole .right],
    [inRole .name, inRole .parameters, inRole .body],
    [bare, inRole .value],
    [bare, inRole .condition, inRole .consequence, inRole .alternative],
    [bare, bare, bare, inRole .body],
    [bare, inRole .body, bare, inRole .condition],
    [bare, inRole .property],
    [bare, inRole .name, bare, inRole .body],
    [bare, knownInRole .identifier .parameter, bare, inRole .body],
    [bare, bare, inRole .parameters, inRole .body],
    [bare, inRole .parameter, bare, inRole .body],
    [bare, inRole .parameters, bare, inRole .body],
    [bare, inRole .name, inRole .parameters, inRole .body],
    [bare, bare, inRole .name, inRole .body],
    [bare, bare, bare, inRole .parameters, inRole .body],
    [bare, bare, inRole .name, inRole .parameters, inRole .body],
    [inRole .condition, bare, inRole .consequence, bare, inRole .alternative],
    [bare, bare, bare, inRole .value],
    [bare, bare, inRole .name, bare, inRole .body],
    [bare, knownInRole .identifier .left, inRole .operator, inRole .right],
    [bare, inRole .left, inRole .operator, inRole .right],
    [bare, bare, bare, inRole .condition, bare, inRole .body],
    [bare, bare, bare, inRole .name, inRole .parameters, inRole .body],
    [bare, inRole .value, bare, inRole .body],
    [bare, bare, inRole .left, inRole .operator, inRole .right],
    [bare, bare, bare, inRole .condition, bare, bare, inRole .body],
    [bare, bare, bare, inRole .condition, inRole .condition, bare, inRole .body],
    [bare, bare, bare, bare, inRole .condition, bare, inRole .body],
    [bare, bare, inRole .parameter, bare, inRole .body],
    [bare, bare, bare, bare, inRole .name, inRole .parameters, inRole .body],
    [bare, bare, inRole .left, bare, inRole .operator, inRole .right],
    [bare, bare, bare, inRole .condition, inRole .condition, bare, bare, inRole .body],
    [bare, bare, bare, bare, inRole .condition, bare, bare, inRole .body],
    [bare, bare, bare, bare, inRole .condition, inRole .condition, bare, inRole .body],
    [bare, bare, bare, bare, inRole .condition, inRole .condition, bare, bare, inRole .body]
  ]

end Coverage.Script
