import DeviceTwin.Decimal.Binary64
import DeviceTwin.Text.Integer

/-!
# The shortest decimal of a magnitude

`shortest` finds the decimal with the fewest digits that rounds to a given word, and of those the
one nearest to it. For one digit, two digits and so on it tries the two neighbours of the value on
the grid of that many digits. `Layout.text` writes digits in positional or in scientific form.
-/
namespace DeviceTwin.Decimal

/-- Digits with the exponent of ten of the first of them. -/
structure Digits where
  digits : List Char
  leading : Int
  deriving DecidableEq, Repr

/-- The exponent of ten of the leading digit of a positive quotient. -/
def leadingDigit (num den : Nat) : Int :=
  if den ≤ num then ((Integer.natural (num / den)).length : Int) - 1
  else
    let k := (Integer.natural (den / num)).length
    if den ≤ num * tenPow (k - 1) then 1 - (k : Int) else -(k : Int)

/-- The numbers that round to a word: a value and the bounds around it as numerators over one
denominator. The bounds belong to them where `closed` holds. -/
structure Interval where
  low : Nat
  value : Nat
  high : Nat
  den : Nat
  closed : Bool
  deriving DecidableEq, Repr

/-- The interval of a finite word above zero. Below a power of two the words lie twice as dense. -/
def Interval.ofWord (word : Nat) : Interval :=
  let (m, q) := Binary64.parts word
  let below := if m = twoPow 52 ∧ -1074 < q then 1 else 2
  let (up, den) := match q - 2 with
    | .ofNat k => (twoPow k, 1)
    | .negSucc k => (1, twoPow (k + 1))
  { low := (4 * m - below) * up
    value := 4 * m * up
    high := (4 * m + 2) * up
    den := den
    closed := m % 2 = 0 }

/-- The interval with `10 ^ unit` as one. -/
def Interval.scale (i : Interval) : (unit : Int) → Interval
  | .ofNat k => { i with den := i.den * tenPow k }
  | .negSucc k =>
    let up := tenPow (k + 1)
    { i with low := i.low * up, value := i.value * up, high := i.high * up }

/-- Whether a whole number rounds to the word. -/
def Interval.holds (i : Interval) (n : Nat) : Bool :=
  if i.closed then i.low ≤ n * i.den && n * i.den ≤ i.high
  else i.low < n * i.den && n * i.den < i.high

/-- The whole number nearest to the value among its two neighbours that round to the word. -/
def Interval.pick? (i : Interval) : Option Nat :=
  let floor := i.value / i.den
  let rest := i.value % i.den
  match i.holds floor, i.holds (floor + 1) with
  | true, true =>
    if 2 * rest < i.den ∨ (2 * rest = i.den ∧ floor % 2 = 0) then some floor else some (floor + 1)
  | true, false => some floor
  | false, true => some (floor + 1)
  | false, false => none

/-- The first hit on the grids of `count` digits and more, of which `tries` are searched. -/
def search (i : Interval) (leading : Int) (count : Nat) : (tries : Nat) → Digits
  | 0 => ⟨['0'], 0⟩
  | tries + 1 =>
    let unit := leading + 1 - count
    match (i.scale unit).pick? with
    | some n =>
      let digits := Integer.natural n
      if digits.length ≤ count then ⟨digits, leading⟩ else ⟨digits.take count, leading + 1⟩
    | none => search i leading (count + 1) tries

/-- The greatest number of digits that a word can need. -/
def maxDigits : Nat := 17

/-- The shortest digits of a finite word. -/
def shortest (word : Nat) : Digits :=
  if word = 0 then ⟨['0'], 0⟩
  else
    let (num, den) := Binary64.ratio word
    search (Interval.ofWord word) (leadingDigit num den) 1 maxDigits

/-- From which to which leading exponent a number is written in positional form. -/
structure Layout where
  least : Int
  greatest : Int
  deriving DecidableEq, Repr

/-- The digits with a point behind the first `n`, and a zero where nothing else follows it. -/
def positional (digits : List Char) (n : Nat) : List Char :=
  if digits.length ≤ n then digits ++ List.replicate (n - digits.length) '0' ++ ['.', '0']
  else digits.take n ++ '.' :: digits.drop n

/-- One digit, a point where more follow, and the exponent with its sign. -/
def scientific (d : Digits) : List Char :=
  let fraction := match d.digits.drop 1 with
    | [] => []
    | more => '.' :: more
  let sign := if d.leading < 0 then '-' else '+'
  d.digits.take 1 ++ fraction ++ 'e' :: sign :: Integer.natural d.leading.natAbs

def Layout.text (layout : Layout) (d : Digits) : List Char :=
  if layout.least ≤ d.leading ∧ d.leading ≤ layout.greatest then
    match d.leading with
    | .ofNat e => positional d.digits (e + 1)
    | .negSucc e => '0' :: '.' :: (List.replicate e '0' ++ d.digits)
  else scientific d

end DeviceTwin.Decimal
