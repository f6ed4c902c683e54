import DeviceTwin.Text.Start

/-!
# Parting a list

`cut?` parts a list at the first place where a mark stands, `cutLast?` at the last element equal to a
given one.
-/
namespace DeviceTwin

/-- What stands in front of the first `mark` and behind it. -/
def cut? {α : Type} [DecidableEq α] (mark : List α) : List α → Option (List α × List α)
  | [] => if mark = [] then some ([], []) else none
  | x :: xs =>
    match strip? mark (x :: xs) with
    | some rest => some ([], rest)
    | none => (cut? mark xs).map fun (before, rest) => (x :: before, rest)

/-- What stands in front of the last `a` and behind it. -/
def cutLast? {α : Type} [DecidableEq α] (a : α) (xs : List α) : Option (List α × List α) :=
  (cut? [a] xs.reverse).map fun (rest, before) => (before.reverse, rest.reverse)

end DeviceTwin
