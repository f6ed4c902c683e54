/-!
# Taking a known start off a list

Results:
* `strip?_eq_some_iff`: exactly the lists that begin with `start` are taken, and the rest is what
  follows it.
-/
namespace DeviceTwin

/-- What follows `start` in a list that begins with it. -/
def strip? {α : Type} [DecidableEq α] : (start : List α) → List α → Option (List α)
  | [], xs => some xs
  | _ :: _, [] => none
  | a :: start, x :: xs => if a = x then strip? start xs else none

theorem strip?_eq_some_iff {α : Type} [DecidableEq α] {start xs rest : List α} :
    strip? start xs = some rest ↔ xs = start ++ rest := by
  induction start generalizing xs with
  | nil => simp [strip?, eq_comm]
  | cons a start ih =>
    cases xs with
    | nil => simp [strip?]
    | cons x xs =>
      by_cases h : a = x
      · subst h; simp [strip?, ih]
      · simp [strip?, h, Ne.symm h]

@[simp] theorem strip?_append {α : Type} [DecidableEq α] (start rest : List α) :
    strip? start (start ++ rest) = some rest :=
  strip?_eq_some_iff.2 rfl

/-- The list without `start`, where it begins with it, and else unchanged. -/
def dropStart {α : Type} [DecidableEq α] (start xs : List α) : List α :=
  (strip? start xs).getD xs

end DeviceTwin
