import Coverage.Digest.Base64

/-!
# Packed tables

A table of numbers is packed into a text: a number is written in digits of base 64 that carry five
bits each, lowest bits first, with a sixth bit that is set where another digit follows. The numbers
come in groups, each of which starts with its length.
-/

namespace Coverage.Text

/-- How far a packed table has been read. -/
structure Unpacking where
  /-- The bits of the number that is being read. -/
  value : Nat
  /-- The value of the lowest bit of the next digit. -/
  weight : Nat
  /-- How many numbers the open group still lacks. -/
  missing : Nat
  /-- The numbers of the open group, last first. -/
  group : List Nat
  groups : Array (List Nat)

namespace Unpacking

/-- Takes a number: the length of a group between groups, and a part of the open group else. -/
def number (n : Nat) (u : Unpacking) : Unpacking :=
  match u.missing with
  | 0 => if n = 0 then { u with groups := u.groups.push [] } else { u with missing := n }
  | 1 => { u with missing := 0, group := [], groups := u.groups.push (n :: u.group).reverse }
  | missing + 1 => { u with missing, group := n :: u.group }

/-- Takes a digit. -/
def digit (u : Unpacking) (c : Char) : Unpacking :=
  let d := (Digest.base64Digit? c).getD 0
  let value := u.value + d % 32 * u.weight
  if 32 ≤ d then { u with value, weight := u.weight * 32 }
  else number value { u with value := 0, weight := 1 }

end Unpacking

/-- The groups of numbers of a packed table, which is written in lines. -/
def unpack (lines : List String) : Array (List Nat) :=
  let start : Unpacking := ⟨0, 1, 0, [], #[]⟩
  (lines.foldl (fun u (line : String) => line.foldl Unpacking.digit u) start).groups

/-- The numbers that lie at given distances behind one another. -/
def runningSums (start : Nat) : List Nat → List Nat
  | [] => []
  | n :: ns => (start + n) :: runningSums (start + n) ns

end Coverage.Text
