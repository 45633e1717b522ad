/-!
# Cutting a text at separators

The stretches of a text between its separators, empty ones included, so that there is always one
more stretch than there are separators.
-/

namespace Coverage.Text

/-- The stretches between the characters that satisfy `p`. -/
def splitWhere (p : Char → Bool) : List Char → List (List Char)
  | [] => [[]]
  | c :: cs =>
    if p c then [] :: splitWhere p cs
    else match splitWhere p cs with
      | [] => [[c]]
      | s :: rest => (c :: s) :: rest

@[simp] theorem splitWhere_ne_nil (p : Char → Bool) (cs : List Char) : splitWhere p cs ≠ [] := by
  cases cs with
  | nil => simp [splitWhere]
  | cons c cs =>
    simp only [splitWhere]
    split
    · simp
    · split <;> simp

/-- The stretches are those that the list is split into at these characters. -/
theorem splitWhere_eq_splitOnP (p : Char → Bool) (cs : List Char) :
    splitWhere p cs = cs.splitOnP p := by
  induction cs with
  | nil => rfl
  | cons c cs ih =>
    rw [splitWhere, List.splitOnP_cons_eq_if_modifyHead, ih]
    cases h : cs.splitOnP p with
    | nil => exact absurd h (List.splitOnP_ne_nil p cs)
    | cons s rest => rfl

theorem splitWhere_append_cons {p : Char → Bool} {c : Char} (hc : p c = true)
    (cs ds : List Char) :
    splitWhere p (cs ++ c :: ds) = splitWhere p cs ++ splitWhere p ds := by
  simp only [splitWhere_eq_splitOnP]
  exact List.splitOnP_append_cons cs ds hc

/-- The text before the first occurrence of `mark` and the text behind it. -/
def splitOnce (mark : List Char) : List Char → Option (List Char × List Char)
  | [] => if mark.isEmpty then some ([], []) else none
  | c :: cs =>
    if mark.isPrefixOf (c :: cs) then some ([], (c :: cs).drop mark.length)
    else (splitOnce mark cs).map fun r => (c :: r.1, r.2)

/-- Whether `mark` occurs in a text. -/
def occurs (mark : List Char) (cs : List Char) : Bool := (splitOnce mark cs).isSome

end Coverage.Text
